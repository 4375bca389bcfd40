import BlinkerFluid.TabHandOver

/-! Auth popups and the tabs that opened them. One global names the last popup and its
opener, and every page that closes itself hands the screen to that opener, whether or not
the closing page is the popup. -/

namespace BlinkerFluid.PopupOpeners
open WebAddress TabWindows StepRun VisibleTab TabHandOver
open OpenTabs (blankURL)

/-- The screen, with the tab that opened each auth popup. -/
structure World where
  screen : Screen
  openedBy : List (ℕ × ℕ)

variable {s t : Screen} {w : World}

section Frame

/-- No shell is closed, none of the old numbers is opened, and the trackers stay. -/
structure Carries (s t : Screen) : Prop where
  popup : t.authPopupContents = s.authPopupContents
  opener : t.authPopupOpener = s.authPopupOpener
  next : s.nextShell ≤ t.nextShell
  opened : ∀ shell < s.nextShell, isOpen t shell = true ↔ isOpen s shell = true
  below : (∀ tab ∈ s.windows, tab.shell < s.nextShell) → ∀ tab ∈ t.windows, tab.shell < t.nextShell

theorem Carries.refl (s : Screen) : Carries s s :=
  ⟨rfl, rfl, le_rfl, fun _ _ => .rfl, id⟩

theorem Carries.trans {u : Screen} (first : Carries s t) (second : Carries t u) : Carries s u where
  popup := second.popup.trans first.popup
  opener := second.opener.trans first.opener
  next := first.next.trans second.next
  opened := fun shell old =>
    (second.opened shell (old.trans_le first.next)).trans (first.opened shell old)
  below := fun bounded => second.below (first.below bounded)

theorem carries_of_sameShells (same : SameShells s t)
    (popup : t.authPopupContents = s.authPopupContents)
    (opener : t.authPopupOpener = s.authPopupOpener) : Carries s t :=
  ⟨popup, opener, same.nextShell.ge, fun shell _ => same.open_iff shell, same.below⟩

theorem carries_mapWindows {f : TabWindow → TabWindow} (keeps : ∀ tab, (f tab).shell = tab.shell)
    (s : Screen) : Carries s (mapWindows f s) :=
  carries_of_sameShells (sameShells_mapWindows s keeps) rfl rfl

theorem carries_discardExcept (keep : ℕ) (s : Screen) :
    Carries s (blinkDiscardBackgroundTabsExcept keep s) :=
  carries_of_sameShells (sameShells_discardExcept s keep) rfl rfl

theorem carries_discardBackground (keep : ℕ) (s : Screen) :
    Carries s (blinkDiscardBackgroundTabs keep s) := by
  unfold blinkDiscardBackgroundTabs
  split
  · exact .refl s
  · exact carries_discardExcept keep s

theorem carries_discardBehindFront (s : Screen) : Carries s (discardBehindFront s) := by
  unfold discardBehindFront
  split
  · exact .refl s
  · exact carries_discardBackground _ s

theorem carries_underPressure (s : Screen) :
    Carries s (blinkDiscardBackgroundTabsUnderPressure s) := by
  unfold blinkDiscardBackgroundTabsUnderPressure
  split
  · exact .refl s
  · split
    · exact .refl s
    · exact carries_discardExcept _ s

theorem carries_loadURL (guard : Footprint) (shell : ℕ) (url : GURL) (s : Screen) :
    Carries s (loadURL guard shell url s) := by
  have shed : Carries s
      (if guard.critical then blinkDiscardBackgroundTabsUnderPressure s else s) := by
    split
    · exact carries_underPressure s
    · exact .refl s
  simp only [loadURL]
  split
  · exact shed
  · exact shed.trans (carries_mapWindows
      (only_shell (TabWindow.inTab (OpenTabs.Tab.start url)) (fun _ => rfl) shell) _)

theorem carries_makeKey (shell : ℕ) (s : Screen) : Carries s (makeKeyAndVisible shell s) := by
  have shown := carries_mapWindows
    (only_shell (TabWindow.setHidden false) (fun _ => rfl) shell) s
  exact { shown with }

theorem carries_createShell (offTheRecord : Bool) (s : Screen) :
    Carries s (createShell offTheRecord s) where
  popup := rfl
  opener := rfl
  next := Nat.le_succ _
  opened := fun shell old => by
    simp only [isOpen, createShell, List.any_append, Bool.or_eq_true, List.any_cons, List.any_nil,
      Bool.or_false, decide_eq_true_eq]
    exact or_iff_left old.ne'
  below := fun bounded => createShell_below bounded offTheRecord

theorem carries_createNewWindow (guard : Footprint) (offTheRecord : Bool) (url : GURL)
    (s : Screen) : Carries s (createNewWindow guard offTheRecord url s).1 := by
  have shed := carries_discardBehindFront s
  unfold createNewWindow
  dsimp only
  split
  · exact shed
  · have created := shed.trans (carries_createShell offTheRecord (discardBehindFront s))
    dsimp only
    split
    · exact created
    · exact created.trans (carries_loadURL ..)

theorem carries_showTabWindow (guard : Footprint) (shell : ℕ) (s : Screen) :
    Carries s (showTabWindow guard shell s) := by
  cases found : findWindow s shell with
  | none => simpa only [showTabWindow, found] using Carries.refl s
  | some tab =>
    have thawed := carries_mapWindows
      (only_shell (TabWindow.setPageFrozen false) (fun _ => rfl) tab.shell) s
    have reloaded : Carries s (reloadDiscarded guard tab s) := by
      unfold reloadDiscarded
      split
      · exact .refl s
      · dsimp only
        split
        · exact thawed.trans (carries_loadURL ..)
        · exact thawed
    have loaded (s : Screen) : Carries s (loadDeferred guard shell s) := by
      let taken : Screen :=
        { s with pendingRestoreURLs := s.pendingRestoreURLs.filter (·.1 ≠ shell) }
      have took : Carries s taken := carries_of_sameShells ⟨rfl, rfl⟩ rfl rfl
      simp only [loadDeferred]
      split
      · exact took.trans (carries_loadURL guard shell _ taken)
      · exact took
    have selected (s : Screen) : Carries s (mapWindows (TabWindow.select shell) s) := by
      refine carries_mapWindows (fun tab => ?_) s
      unfold TabWindow.select
      split <;> rfl
    simp only [showTabWindow, found]
    exact (((reloaded.trans (loaded _)).trans (selected _)).trans (carries_makeKey shell _)).trans
      (carries_discardBackground shell _)

theorem carries_openNewTab (guard : Footprint) (shell : ℕ) (url : GURL) (s : Screen) :
    Carries s (openNewTab guard shell url s) := by
  have created := carries_createNewWindow guard (offTheRecordOf s shell) url s
  unfold openNewTab
  generalize createNewWindow guard (offTheRecordOf s shell) url s = result at created
  obtain ⟨t, _ | opened⟩ := result
  · exact created
  · exact created.trans (carries_showTabWindow guard opened t)

theorem carries_blinkPresent (shell : ℕ) (s : Screen) :
    Carries s (blinkPresentShellWindow shell s) := by
  refine (carries_mapWindows (fun tab => ?_) s).trans (carries_makeKey shell _)
  unfold TabWindow.present
  split <;> rfl

theorem carries_addNewContents (guard : Footprint) (source : ℕ) {contents : NewContents}
    (ordinary : contents.isGoogleAuthPopup = false) (s : Screen) :
    Carries s (addNewContents guard source contents s) := by
  have created := carries_createShell (offTheRecordOf s source) s
  simp only [addNewContents, ordinary, Bool.false_eq_true, if_false]
  split
  · exact .refl s
  · split
    · exact created.trans (carries_mapWindows
        (only_shell (fun tab => (tab.setHidden true).wasHidden) (fun _ => rfl) s.nextShell) _)
    · exact created.trans (carries_blinkPresent s.nextShell _)

theorem carries_reactivate (closing : ℕ) (preferredOpener : Option ℕ) (s : Screen) :
    Carries s (blinkShellWillCloseReactivate closing preferredOpener s) := by
  unfold blinkShellWillCloseReactivate
  split
  · exact .refl s
  · split
    · exact .refl s
    · exact carries_makeKey _ s

theorem carries_launch (guards : ℕ → Footprint) (offTheRecord : Bool) (first : GURL)
    (rest : List GURL) :
    Carries ⟨[], [], none, none, none, 0⟩ (launch guards offTheRecord first rest) := by
  have restored (s : Screen) (i : ℕ) (url : GURL) :
      Carries s (restoreTab (guards i) offTheRecord url s) := by
    have created := carries_createNewWindow (guards i) offTheRecord blankURL s
    unfold restoreTab
    generalize createNewWindow (guards i) offTheRecord blankURL s = result at created
    obtain ⟨t, _ | opened⟩ := result
    · exact created
    · refine created.trans (.trans ?_ (carries_mapWindows
        (only_shell TabWindow.wasHidden (fun _ => rfl) opened) _))
      dsimp only
      unfold emplacePendingRestoreURL
      split
      · exact .refl t
      · split
        · exact .refl t
        · exact carries_of_sameShells ⟨rfl, rfl⟩ rfl rfl
  have opened := carries_createNewWindow (guards 0) offTheRecord first
    ⟨[], [], none, none, none, 0⟩
  have all := invariant_always
    (fun s (entry : GURL × ℕ) carried => Carries.trans carried (restored s (entry.2 + 1) entry.1)) _
    rest.zipIdx opened
  dsimp only [launch]
  split
  · exact all
  · exact all.trans (carries_makeKey _ _)

end Frame

section Openers

/-- The opener of an auth popup is recorded when the popup is opened. -/
def step (w : World) (event : Event) : World where
  screen := TabWindows.step w.screen event
  openedBy :=
    match event with
    | .addNewContents _ source contents =>
      if contents.isGoogleAuthPopup && isOpen w.screen source then
        (w.screen.nextShell, source) :: w.openedBy
      else w.openedBy
    | _ => w.openedBy

/-- The tab that opened an auth popup, while it is open. -/
def livingOpener (w : World) (popup : ℕ) : Option ℕ :=
  (w.openedBy.lookup popup).filter fun opener => isOpen w.screen opener

/-- What the trackers say is so: the popup is the last one that was opened, and its opener is
recorded for as long as it is open. -/
structure Recorded (w : World) : Prop where
  below : ∀ tab ∈ w.screen.windows, tab.shell < w.screen.nextShell
  untracked : w.screen.authPopupContents = none → w.screen.authPopupOpener = none
  tracked : ∀ popup, w.screen.authPopupContents = some popup → popup < w.screen.nextShell ∧
    ∃ opener < popup, w.openedBy.lookup popup = some opener ∧
      (isOpen w.screen opener = true ↔ w.screen.authPopupOpener = some opener)
  living : ∀ opener, w.screen.authPopupOpener = some opener → isOpen w.screen opener = true

theorem recorded_carries (recorded : Recorded w) (carries : Carries w.screen t) :
    Recorded ⟨t, w.openedBy⟩ where
  below := carries.below recorded.below
  untracked := by
    rw [carries.popup, carries.opener]
    exact recorded.untracked
  tracked := by
    rw [carries.popup, carries.opener]
    intro popup tracks
    obtain ⟨old, opener, older, known, open_iff⟩ := recorded.tracked popup tracks
    refine ⟨old.trans_le carries.next, opener, older, known, ?_⟩
    rw [carries.opened opener (older.trans old), open_iff]
  living := by
    rw [carries.opener]
    intro opener tracks
    have opened := recorded.living opener tracks
    obtain ⟨tab, mem, here⟩ := isOpen_iff.mp opened
    exact (carries.opened opener (here ▸ recorded.below tab mem)).mpr opened

theorem isOpen_close (closed shell : ℕ) (s : Screen) :
    isOpen (close closed s) shell = true ↔ isOpen s shell = true ∧ shell ≠ closed := by
  simp only [isOpen, close, List.any_filter, List.any_eq_true, Bool.and_eq_true,
    decide_eq_true_eq]
  constructor
  · rintro ⟨tab, mem, apart, rfl⟩
    exact ⟨⟨tab, mem, rfl⟩, apart⟩
  · rintro ⟨⟨tab, mem, rfl⟩, apart⟩
    exact ⟨tab, mem, apart, rfl⟩

theorem recorded_close (recorded : Recorded w) (closed : ℕ) :
    Recorded ⟨close closed w.screen, w.openedBy⟩ where
  below := fun tab mem => recorded.below tab (List.mem_of_mem_filter mem)
  untracked := by
    simp only [close]
    intro untracked
    split at untracked
    · exact if_pos (.inl ‹_›)
    · rw [recorded.untracked untracked]
      exact ite_self _
  tracked := by
    intro popup tracks
    simp only [close] at tracks
    split at tracks
    · cases tracks
    · rename_i other
      obtain ⟨old, opener, older, known, open_iff⟩ := recorded.tracked popup tracks
      refine ⟨old, opener, older, known, ?_⟩
      rw [isOpen_close, open_iff]
      simp only [close, other, false_or]
      split
      · rename_i gone
        rw [gone, Option.some.injEq]
        exact iff_of_false (fun both => both.2 both.1.symm) (Option.some_ne_none _).symm
      · rename_i stays
        exact and_iff_left_of_imp fun still => fun same => stays (still.trans (congrArg some same))
  living := by
    intro opener tracks
    simp only [close] at tracks
    split at tracks
    · cases tracks
    · rename_i other
      rw [not_or] at other
      refine (isOpen_close closed opener w.screen).mpr ⟨recorded.living opener tracks, ?_⟩
      rintro rfl
      exact other.2 tracks

theorem recorded_forget (recorded : Recorded w) (source : ℕ) :
    Recorded ⟨forgetAuthPopup source w.screen, w.openedBy⟩ := by
  unfold forgetAuthPopup
  split
  · exact ⟨recorded.below, fun _ => rfl, nofun, nofun⟩
  · exact recorded

theorem recorded_closeContents (recorded : Recorded w) (shell : ℕ) :
    Recorded ⟨closeContents shell w.screen, w.openedBy⟩ :=
  recorded_close (recorded_forget
    (recorded_carries recorded (carries_reactivate shell w.screen.authPopupOpener w.screen))
    shell) shell

theorem recorded_popup (recorded : Recorded w) (guard : Footprint) {source : ℕ}
    (opened : isOpen w.screen source = true) {contents : NewContents}
    (popup : contents.isGoogleAuthPopup = true) :
    Recorded ⟨addNewContents guard source contents w.screen,
      (w.screen.nextShell, source) :: w.openedBy⟩ := by
  obtain ⟨tab, mem, here⟩ := isOpen_iff.mp opened
  have older : source < w.screen.nextShell := here ▸ recorded.below tab mem
  let tracking : Screen := { w.screen with
    authPopupContents := some w.screen.nextShell, authPopupOpener := some source }
  let created := createShell (offTheRecordOf w.screen source) tracking
  have tracks : Recorded ⟨created, (w.screen.nextShell, source) :: w.openedBy⟩ := by
    have still : isOpen created source = true :=
      ((carries_createShell _ tracking).opened source older).mpr opened
    refine ⟨createShell_below recorded.below _, nofun, fun popup tracked => ?_, ?_⟩
    · cases Option.some.inj tracked
      exact ⟨Nat.lt_succ_self _, source, older, List.lookup_cons_self, iff_of_true still rfl⟩
    · rintro _ ⟨⟩
      exact still
  simp only [addNewContents, popup, if_true]
  exact recorded_carries tracks (carries_blinkPresent w.screen.nextShell created)

theorem recorded_step (w : World) (event : Event) (recorded : Recorded w) :
    Recorded (step w event) := by
  unfold step TabWindows.step
  by_cases received : event.target.all (isOpen w.screen) = true
  · rw [if_pos received]
    cases event with
    | showTabWindow guard shell => exact recorded_carries recorded (carries_showTabWindow ..)
    | openNewTab guard shell url => exact recorded_carries recorded (carries_openNewTab ..)
    | closeCurrentTab guard shell =>
      simp only [happen, closeCurrentTab]
      split
      · exact recorded
      · split
        · exact recorded_close recorded shell
        · exact recorded_close (recorded_carries recorded (carries_showTabWindow ..)) shell
    | close shell => exact recorded_close recorded shell
    | closeContents shell => exact recorded_closeContents recorded shell
    | addNewContents guard source contents =>
      have opened : isOpen w.screen source = true := received
      simp only [happen, opened, Bool.and_true]
      cases popup : contents.isGoogleAuthPopup with
      | true => exact recorded_popup recorded guard opened popup
      | false => exact recorded_carries recorded (carries_addNewContents guard source popup _)
    | loadURL guard shell url => exact recorded_carries recorded (carries_loadURL ..)
    | navigation shell navigation =>
      exact recorded_carries recorded (carries_mapWindows
        (only_shell _ (fun tab => navigation_shell navigation tab.toTab) shell) _)
    | idleSweep idle =>
      refine recorded_carries recorded (carries_mapWindows (fun tab => ?_) _)
      unfold TabWindow.sweep
      split_ifs
      · rfl
      · rfl
      · exact shed_shell tab
      · rfl
    | memoryPressure => exact recorded_carries recorded (carries_underPressure _)
  · rw [if_neg received]
    cases event with
    | addNewContents guard source contents =>
      have closed : isOpen w.screen source = false := by simpa [Event.target] using received
      simpa [closed] using recorded
    | _ => exact recorded

end Openers

section HandOver

theorem reactivated_ne {closing : ℕ} {preferredOpener : Option ℕ} :
    reactivated closing preferredOpener s ≠ some closing := by
  rw [reactivated, Ne, Option.or_eq_some_iff, not_or]
  constructor
  · intro same
    have both := (Option.filter_eq_some_iff.mp same).2
    simp at both
  · rintro ⟨-, same⟩
    obtain ⟨tab, found, here⟩ := Option.map_eq_some_iff.mp same
    simpa [here] using List.find?_some found

theorem closeContents_keyWindow {shell : ℕ} (owns : s.keyWindow = some shell) :
    (closeContents shell s).keyWindow = reactivated shell s.authPopupOpener s := by
  have forgotten (s : Screen) : (forgetAuthPopup shell s).keyWindow = s.keyWindow := by
    unfold forgetAuthPopup
    split <;> rfl
  simp only [closeContents, close, forgotten, blinkShellWillCloseReactivate, owns, ne_eq,
    not_true_eq_false, if_false]
  cases next : reactivated shell s.authPopupOpener s with
  | none => simp [owns]
  | some replacement =>
    have apart : replacement ≠ shell := fun same => reactivated_ne (same ▸ next)
    simp [makeKeyAndVisible, apart]

/-- A popup that closes itself in front hands the screen to its own opener, and the opener of
another popup plays no part when a window closes that is not the one tracked. -/
def HandsBack (w : World) : Event → Prop
  | .closeContents shell => isOpen w.screen shell = true → w.screen.keyWindow = some shell →
    (∀ opener, livingOpener w shell = some opener →
      (step w (.closeContents shell)).screen.keyWindow = some opener) ∧
    (w.screen.authPopupContents ≠ some shell →
      (step w (.closeContents shell)).screen.keyWindow =
        (livingOpener w shell).or (otherShell w.screen shell))
  | _ => True

/-- Where a window closes in front that is not the tracked popup, the opener on record, if it
is another tab, is the opener of that window, or the first other tab where it has none; and
if none is on record the window has none either, or it is the first other tab. -/
def Undisturbed (w : World) : Event → Prop
  | .closeContents shell => isOpen w.screen shell = true → w.screen.keyWindow = some shell →
    w.screen.authPopupContents ≠ some shell →
      match w.screen.authPopupOpener.filter (· ≠ shell) with
      | some opener => livingOpener w shell = some opener ∨
        livingOpener w shell = none ∧ otherShell w.screen shell = some opener
      | none => ∀ opener, livingOpener w shell = some opener →
        otherShell w.screen shell = some opener
  | _ => True

theorem reactivated_eq (recorded : Recorded w) (shell : ℕ) :
    reactivated shell w.screen.authPopupOpener w.screen =
      (w.screen.authPopupOpener.filter (· ≠ shell)).or (otherShell w.screen shell) := by
  cases tracks : w.screen.authPopupOpener with
  | none => rfl
  | some opener =>
    simp only [reactivated, Option.filter_some, recorded.living opener tracks, Bool.and_true]

theorem reactivated_tracked (recorded : Recorded w) {shell opener : ℕ}
    (tracks : w.screen.authPopupContents = some shell)
    (living : livingOpener w shell = some opener) :
    reactivated shell w.screen.authPopupOpener w.screen = some opener := by
  obtain ⟨-, own, older, known, open_iff⟩ := recorded.tracked shell tracks
  rw [livingOpener, known, Option.filter_eq_some_iff] at living
  obtain ⟨same, opened⟩ := living
  obtain rfl := Option.some.inj same
  rw [reactivated_eq recorded, open_iff.mp opened]
  simp [older.ne]

theorem handsBack_iff (recorded : Recorded w) (event : Event) :
    HandsBack w event ↔ Undisturbed w event := by
  cases event with
  | closeContents shell =>
    refine imp_congr_right fun opened => imp_congr_right fun owns => ?_
    have handed : (step w (.closeContents shell)).screen.keyWindow =
        reactivated shell w.screen.authPopupOpener w.screen := by
      have received := step_received w.screen (.closeContents shell) opened
      exact (congrArg Screen.keyWindow received).trans (closeContents_keyWindow owns)
    rw [handed]
    by_cases tracks : w.screen.authPopupContents = some shell
    · refine iff_of_true ⟨fun opener living => ?_, fun other => absurd tracks other⟩
        fun other => absurd tracks other
      exact reactivated_tracked recorded tracks living
    · rw [reactivated_eq recorded]
      simp only [ne_eq, tracks, not_false_eq_true, forall_const]
      cases w.screen.authPopupOpener.filter (· ≠ shell) with
      | some opener =>
        cases livingOpener w shell with
        | some own => simp [eq_comm]
        | none => simp [eq_comm]
      | none =>
        cases livingOpener w shell with
        | some own => simp
        | none => simp
  | _ => rfl

/-- Over any run from any launch, every popup hands the screen back to its own opener exactly
if no window closes in front while another popup's opener is on record in its place. -/
theorem openers_handedBack_iff (guards : ℕ → Footprint) (offTheRecord : Bool) (first : GURL)
    (rest : List GURL) (events : List Event) :
    Permitted HandsBack step ⟨launch guards offTheRecord first rest, []⟩ events ↔
      Permitted Undisturbed step ⟨launch guards offTheRecord first rest, []⟩ events := by
  have launched := carries_launch guards offTheRecord first rest
  refine permitted_congr recorded_step (fun _ event recorded => handsBack_iff recorded event) _
    events ⟨launched.below nofun, fun _ => launched.opener, fun popup tracks => ?_,
      fun opener tracks => ?_⟩
  · rw [launched.popup] at tracks
    cases tracks
  · rw [launched.opener] at tracks
    cases tracks

/-- Each of two tabs opens a sign-in window; the first one is brought back and closes. -/
def twoPopups : List Event :=
  [.addNewContents .low 0 ⟨true, false⟩, .showTabWindow .low 1,
    .addNewContents .low 1 ⟨true, false⟩, .showTabWindow .low 2, .closeContents 2]

theorem firstPopup_misled : ¬ ∀ guards offTheRecord first rest events,
    Permitted HandsBack step ⟨launch guards offTheRecord first rest, []⟩ events := by
  intro handed
  have closes := (handed (fun _ => .low) false blankURL [blankURL] twoPopups).2.2.2.2.1
    (by decide +kernel) (by decide +kernel)
  have back := closes.1 0 (by decide +kernel)
  revert back
  decide +kernel

end HandOver

end BlinkerFluid.PopupOpeners
