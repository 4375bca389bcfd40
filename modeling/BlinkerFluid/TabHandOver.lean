import BlinkerFluid.VisibleTab

/-! Runs of the tabs' windows from the launch on. Exactly two steps take the screen from
its live tab: a page that closes itself in front of the user, and a new tab that is
refused after the tabs behind the first window were shed. -/

namespace BlinkerFluid.TabHandOver
open WebAddress TabWindows StepRun VisibleTab
open OpenTabs (blankURL)

variable {s : Screen}

theorem createShell_mem (below : ∀ tab ∈ s.windows, tab.shell < s.nextShell)
    {offTheRecord : Bool} {tab : TabWindow} (mem : tab ∈ (createShell offTheRecord s).windows) :
    tab ∈ s.windows ∧ tab.shell ≠ s.nextShell ∨
      tab.shell = s.nextShell ∧ tab.visibility = .visible ∧ tab.pageFrozen = false := by
  rcases List.mem_append.mp mem with old | new
  · exact .inl ⟨old, (below tab old).ne⟩
  · cases List.mem_singleton.mp new
    exact .inr ⟨rfl, rfl, rfl⟩

theorem createShell_below (below : ∀ tab ∈ s.windows, tab.shell < s.nextShell)
    (offTheRecord : Bool) : ∀ tab ∈ (createShell offTheRecord s).windows,
      tab.shell < (createShell offTheRecord s).nextShell := by
  intro tab mem
  rcases createShell_mem below mem with ⟨old, -⟩ | ⟨new, -⟩
  · exact (below tab old).trans (Nat.lt_succ_self _)
  · rw [new]
    exact Nat.lt_succ_self _

theorem createShell_isOpen (offTheRecord : Bool) (s : Screen) :
    isOpen (createShell offTheRecord s) s.nextShell = true :=
  isOpen_iff.mpr ⟨_, List.mem_append_right _ (List.mem_singleton.mpr rfl), rfl⟩

theorem settled_presentCreated (settled : Settled s) (offTheRecord : Bool) :
    Settled (s |> createShell offTheRecord |> blinkPresentShellWindow s.nextShell) := by
  refine settled_handOver (createShell_below settled.below offTheRecord)
    (createShell_isOpen offTheRecord s) ?_ ?_ ?_
  · intro tab
    unfold TabWindow.present
    split <;> rfl
  · intro tab mem created
    rcases createShell_mem settled.below mem with ⟨-, old⟩ | ⟨-, -, thawed⟩
    · exact absurd created old
    · rw [TabWindow.present, if_pos created]
      exact ⟨rfl, rfl, thawed⟩
  · intro tab _ old
    rw [TabWindow.present, if_neg old]
    exact ⟨rfl, rfl⟩

theorem hideCreated_mem (below : ∀ tab ∈ s.windows, tab.shell < s.nextShell)
    {offTheRecord : Bool} {tab : TabWindow}
    (mem : tab ∈ (s |> createShell offTheRecord |> blinkHideShellWindow s.nextShell).windows) :
    tab ∈ s.windows ∨ tab.shell = s.nextShell ∧ Background tab := by
  obtain ⟨before, beforeMem, rfl⟩ := List.mem_map.mp mem
  rcases createShell_mem below beforeMem with ⟨old, apart⟩ | ⟨created, -⟩
  · rw [TabWindow.only, if_neg apart]
    exact .inl old
  · rw [TabWindow.only, if_pos created]
    exact .inr ⟨created, rfl, rfl⟩

theorem settled_hideCreated (settled : Settled s) (offTheRecord : Bool) :
    Settled (s |> createShell offTheRecord |> blinkHideShellWindow s.nextShell) := by
  have same := sameShells_mapWindows (createShell offTheRecord s)
    (only_shell (fun tab => (tab.setHidden true).wasHidden) (fun _ => rfl) s.nextShell)
  refine ⟨?_, fun owner owns => ?_, same.below (createShell_below settled.below offTheRecord)⟩
  · intro key mem owns
    rcases hideCreated_mem settled.below mem with old | ⟨created, -⟩
    · obtain ⟨live, others⟩ := settled.onlyKey key old owns
      refine ⟨live, fun other otherMem apart => ?_⟩
      rcases hideCreated_mem settled.below otherMem with was | ⟨-, behind⟩
      · exact others other was apart
      · exact behind
    · obtain ⟨tab, tabMem, atKey⟩ := isOpen_iff.mp (settled.keyOpen key.shell owns)
      exact absurd (atKey.trans created) (settled.below tab tabMem).ne
  · obtain ⟨tab, mem, owner⟩ := isOpen_iff.mp (settled.keyOpen owner owns)
    exact (same.open_iff _).mpr (isOpen_iff.mpr ⟨tab, List.mem_append_left _ mem, owner⟩)

theorem settled_addNewContents (settled : Settled s) (guard : Footprint) (source : ℕ)
    (contents : NewContents) : Settled (addNewContents guard source contents s) := by
  unfold addNewContents
  dsimp only
  split
  · have tracked : Settled { s with
        authPopupContents := some s.nextShell, authPopupOpener := some source } :=
      ⟨settled.onlyKey, settled.keyOpen, settled.below⟩
    exact settled_presentCreated tracked _
  · split
    · exact settled
    · split
      · exact settled_hideCreated settled _
      · exact settled_presentCreated settled _

theorem settled_closeCurrentTab (settled : Settled s) (guard : Footprint) (shell : ℕ) :
    Settled (closeCurrentTab guard shell s) := by
  unfold closeCurrentTab
  split
  · exact settled
  · dsimp only
    cases other : otherShell s shell with
    | none => exact settled_close settled shell
    | some replacement =>
      refine settled_close (settled_showTabWindow settled.below guard ?_) shell
      obtain ⟨tab, found, rfl⟩ := Option.map_eq_some_iff.mp other
      exact isOpen_iff.mpr ⟨tab, List.mem_of_find?_eq_some found, rfl⟩

theorem openNewTab_created (guard : Footprint) (shell : ℕ) (url : GURL)
    (below : ∀ tab ∈ s.windows, tab.shell < s.nextShell)
    (allowed : (!s.windows.isEmpty && guard.windowRefused) = false) :
    Settled (openNewTab guard shell url s) := by
  have same := sameShells_discardBehindFront s
  let created := createShell (offTheRecordOf s shell) (discardBehindFront s)
  have createdBelow := createShell_below (same.below below) (offTheRecordOf s shell)
  have loaded : SameShells created
      (if url.isEmpty then created else
        loadURL guard (discardBehindFront s).nextShell url created) := by
    split
    · exact .refl created
    · exact sameShells_loadURL created guard _ url
  have empty := same.isEmpty_eq
  have result : openNewTab guard shell url s = showTabWindow guard (discardBehindFront s).nextShell
      (if url.isEmpty then created else
        loadURL guard (discardBehindFront s).nextShell url created) := by
    simp only [openNewTab, createNewWindow, empty, allowed, Bool.false_eq_true, if_false]
    rfl
  rw [result]
  refine settled_showTabWindow (loaded.below createdBelow) guard ((loaded.open_iff _).mpr ?_)
  exact createShell_isOpen _ (discardBehindFront s)

theorem openNewTab_refused (guard : Footprint) (shell : ℕ) (url : GURL)
    (opened : s.windows.isEmpty = false) (refused : guard.windowRefused = true) :
    openNewTab guard shell url s = discardBehindFront s := by
  have empty : (discardBehindFront s).windows.isEmpty = false :=
    (sameShells_discardBehindFront s).isEmpty_eq.trans opened
  simp only [openNewTab, createNewWindow, empty, refused, Bool.not_false, Bool.and_self, if_true]

theorem discardBehindFront_eq {front : TabWindow} (first : s.windows.head? = some front) :
    discardBehindFront s = blinkDiscardBackgroundTabs front.shell s := by
  unfold discardBehindFront
  split
  · rename_i none
    rw [none] at first
    cases first
  · rename_i head _ cons
    rw [cons] at first
    cases first
    rfl

/-- A step after which the visible tab is live: the page in front does not close itself
while another tab is open, and no new tab is refused with six tabs or more while the key
window is not the first. -/
def StepKeepsLive (s : Screen) : Event → Prop
  | .closeContents shell => s.keyWindow = some shell → ∀ tab ∈ s.windows, tab.shell = shell
  | .openNewTab guard shell _ => isOpen s shell = true → guard.windowRefused = true →
    6 ≤ s.windows.length → s.keyWindow = none ∨ s.keyWindow = s.windows.head?.map (·.shell)
  | _ => True

theorem otherShell_eq_none {shell : ℕ} (alone : ∀ tab ∈ s.windows, tab.shell = shell) :
    otherShell s shell = none := by
  rw [otherShell, Option.map_eq_none_iff, List.find?_eq_none]
  intro tab mem
  simpa using alone tab mem

theorem reactivated_eq_none {shell : ℕ} (alone : ∀ tab ∈ s.windows, tab.shell = shell)
    (preferredOpener : Option ℕ) : reactivated shell preferredOpener s = none := by
  have none_preferred : (preferredOpener.filter fun opener =>
      opener ≠ shell && isOpen s opener) = none := by
    rw [Option.filter_eq_none_iff]
    intro opener _ preferred
    rw [Bool.and_eq_true] at preferred
    obtain ⟨tab, mem, same⟩ := isOpen_iff.mp preferred.2
    exact of_decide_eq_true preferred.1 (same.symm.trans (alone tab mem))
  rw [reactivated, none_preferred, otherShell_eq_none alone]
  rfl

theorem reactivated_some {shell : ℕ} (another : ∃ tab ∈ s.windows, tab.shell ≠ shell)
    (preferredOpener : Option ℕ) : ∃ replacement,
      reactivated shell preferredOpener s = some replacement ∧ replacement ≠ shell ∧
        isOpen s replacement = true := by
  unfold reactivated
  cases preferred : preferredOpener.filter fun opener => opener ≠ shell && isOpen s opener with
  | some opener =>
    obtain ⟨-, both⟩ := Option.filter_eq_some_iff.mp preferred
    rw [Bool.and_eq_true] at both
    exact ⟨opener, rfl, of_decide_eq_true both.1, both.2⟩
  | none =>
    obtain ⟨tab, mem, apart⟩ := another
    cases found : s.windows.find? (·.shell ≠ shell) with
    | none => exact absurd (decide_eq_true apart) (List.find?_eq_none.mp found tab mem)
    | some other =>
      have elsewhere : other.shell ≠ shell := by simpa using List.find?_some found
      refine ⟨other.shell, ?_, elsewhere, ?_⟩
      · rw [otherShell, found]
        rfl
      · exact isOpen_iff.mpr ⟨other, List.mem_of_find?_eq_some found, rfl⟩

theorem settled_closeContents (settled : Settled s) (shell : ℕ)
    (keeps : s.keyWindow = some shell → ∀ tab ∈ s.windows, tab.shell = shell) :
    Settled (closeContents shell s) := by
  have stays : blinkShellWillCloseReactivate shell s.authPopupOpener s = s := by
    unfold blinkShellWillCloseReactivate
    split
    · rfl
    · rename_i owns
      rw [reactivated_eq_none (keeps (not_not.mp owns))]
  rw [closeContents, stays]
  exact settled_close (settled_forgetAuthPopup settled shell) shell

theorem closeContents_lost (settled : Settled s) {shell : ℕ} (owns : s.keyWindow = some shell)
    (another : ∃ tab ∈ s.windows, tab.shell ≠ shell) :
    ¬OnlyKeyTabLive (closeContents shell s) := by
  obtain ⟨replacement, found, apart, opened⟩ := reactivated_some another s.authPopupOpener
  obtain ⟨key, keyMem, atKey⟩ := isOpen_iff.mp (settled.keyOpen shell owns)
  obtain ⟨tab, mem, atTab⟩ := isOpen_iff.mp opened
  have behind : Background tab := by
    refine (settled.onlyKey key keyMem (owns.trans (congrArg some atKey.symm))).2 tab mem ?_
    rw [atTab, atKey]
    exact apart
  let activated := tab.setHidden false
  have asleep : activated.visibility = .hidden := behind.invisible
  have handed : blinkShellWillCloseReactivate shell s.authPopupOpener s =
      makeKeyAndVisible replacement s := by
    rw [blinkShellWillCloseReactivate, if_neg (not_not.mpr owns), found]
  intro onlyKey
  rw [closeContents, handed] at onlyKey
  have windows : (forgetAuthPopup shell (makeKeyAndVisible replacement s)).windows =
      (makeKeyAndVisible replacement s).windows := by
    unfold forgetAuthPopup
    split <;> rfl
  have keyWindow : (forgetAuthPopup shell (makeKeyAndVisible replacement s)).keyWindow =
      some replacement := by
    unfold forgetAuthPopup
    split <;> rfl
  have stays : activated ∈
      (close shell (forgetAuthPopup shell (makeKeyAndVisible replacement s))).windows := by
    refine List.mem_filter.mpr ⟨?_, decide_eq_true (atTab.trans_ne apart)⟩
    rw [windows]
    refine List.mem_map.mpr ⟨tab, mem, ?_⟩
    rw [TabWindow.only, if_pos atTab]
  have now : (close shell (forgetAuthPopup shell (makeKeyAndVisible replacement s))).keyWindow =
      some activated.shell := by
    simp only [close, keyWindow]
    rw [if_neg fun same => apart (Option.some.inj same)]
    exact congrArg some atTab.symm
  exact not_live_of_invisible asleep (onlyKey activated stays now).1

theorem settled_openNewTab (settled : Settled s) (guard : Footprint) (shell : ℕ) (url : GURL)
    (keeps : guard.windowRefused = true → 6 ≤ s.windows.length →
      s.keyWindow = none ∨ s.keyWindow = s.windows.head?.map (·.shell)) :
    Settled (openNewTab guard shell url s) := by
  cases refused : !s.windows.isEmpty && guard.windowRefused with
  | false => exact openNewTab_created guard shell url settled.below refused
  | true =>
    rw [Bool.and_eq_true, Bool.not_eq_true'] at refused
    rw [openNewTab_refused guard shell url refused.1 refused.2]
    cases first : s.windows.head? with
    | none =>
      rw [List.head?_eq_none_iff] at first
      rw [first] at refused
      exact absurd refused.1 nofun
    | some front =>
      rw [discardBehindFront_eq first, blinkDiscardBackgroundTabs]
      split
      · exact settled
      · rename_i many
        refine settled_discardExcept settled fun owner owns => ?_
        rcases keeps refused.2 (not_lt.mp many) with none | atFront
        · rw [none] at owns
          cases owns
        · rw [first] at atFront
          exact Option.some.inj (owns.symm.trans atFront)

/-- A refused new tab sheds the tab in front, unless that is the first. -/
theorem openNewTab_lost (settled : Settled s) {guard : Footprint} (shell : ℕ) (url : GURL)
    (refused : guard.windowRefused = true) (many : 6 ≤ s.windows.length) {owner : ℕ}
    (owns : s.keyWindow = some owner) (behind : s.keyWindow ≠ s.windows.head?.map (·.shell)) :
    ¬OnlyKeyTabLive (openNewTab guard shell url s) := by
  have opened : s.windows.isEmpty = false := by
    cases windows : s.windows with
    | nil => simp [windows] at many
    | cons front rest => rfl
  cases first : s.windows.head? with
  | none =>
    rw [List.head?_eq_none_iff] at first
    rw [first] at opened
    cases opened
  | some front =>
    obtain ⟨key, keyMem, rfl⟩ := isOpen_iff.mp (settled.keyOpen owner owns)
    have apart : key.shell ≠ front.shell := by
      intro same
      rw [first, owns, same] at behind
      exact behind rfl
    rw [openNewTab_refused guard shell url opened refused, discardBehindFront_eq first,
      blinkDiscardBackgroundTabs, if_neg (not_lt.mpr many)]
    intro onlyKey
    have shed : key.shed ∈ (blinkDiscardBackgroundTabsExcept front.shell s).windows := by
      refine List.mem_map.mpr ⟨key, keyMem, ?_⟩
      rw [if_neg apart]
    have now : (blinkDiscardBackgroundTabsExcept front.shell s).keyWindow =
        some key.shed.shell := owns.trans (congrArg some (shed_shell key).symm)
    exact not_live_of_invisible rfl (onlyKey key.shed shed now).1

theorem step_received (s : Screen) (event : Event)
    (received : event.target.all (isOpen s) = true) : step s event = happen s event :=
  if_pos received

theorem settled_step (settled : Settled s) (event : Event) (keeps : StepKeepsLive s event) :
    Settled (step s event) := by
  unfold step
  split
  · rename_i received
    cases event with
    | showTabWindow guard shell => exact settled_showTabWindow settled.below guard received
    | openNewTab guard shell url =>
      exact settled_openNewTab settled guard shell url (keeps received)
    | closeCurrentTab guard shell => exact settled_closeCurrentTab settled guard shell
    | close shell => exact settled_close settled shell
    | closeContents shell => exact settled_closeContents settled shell keeps
    | addNewContents guard source contents =>
      exact settled_addNewContents settled guard source contents
    | loadURL guard shell url => exact settled_loadURL settled guard shell url
    | navigation shell navigation =>
      exact settled_inTab settled shell (navigation_shell navigation)
    | idleSweep idle => exact settled_idleSweep settled idle
    | memoryPressure => exact settled_underPressure settled
  · exact settled

theorem step_lost (settled : Settled s) (event : Event) (breaks : ¬StepKeepsLive s event) :
    ¬OnlyKeyTabLive (step s event) := by
  cases event with
  | closeContents shell =>
    simp only [StepKeepsLive, Classical.not_imp, not_forall] at breaks
    obtain ⟨owns, tab, mem, apart⟩ := breaks
    have received : isOpen s shell = true := settled.keyOpen shell owns
    rw [step_received s (.closeContents shell) received]
    exact closeContents_lost settled owns ⟨tab, mem, apart⟩
  | openNewTab guard shell url =>
    simp only [StepKeepsLive, Classical.not_imp, not_or] at breaks
    obtain ⟨received, refused, many, owned, behind⟩ := breaks
    obtain ⟨owner, owns⟩ := Option.ne_none_iff_exists'.mp owned
    rw [step_received s (.openNewTab guard shell url) received]
    exact openNewTab_lost settled shell url refused many owns behind
  | _ => exact absurd trivial breaks

/-- Before the scene takes the front window, its tab is as it was opened, and the tabs
restored behind it are hidden; the one that is just being restored may be visible yet. -/
structure Restoring (front : TabWindow) (fresh : Option ℕ) (s : Screen) : Prop where
  windows : ∃ rest, s.windows = front :: rest ∧ ∀ tab ∈ rest, tab.shell ≠ front.shell ∧
    tab.windowHidden = true ∧ (fresh = some tab.shell ∨ tab.visibility = .hidden)
  noKey : s.keyWindow = none
  below : ∀ tab ∈ s.windows, tab.shell < s.nextShell

variable {front : TabWindow} {fresh : Option ℕ}

theorem restoring_mapWindows (restoring : Restoring front fresh s) {f : TabWindow → TabWindow}
    (keeps : ∀ tab, (f tab).shell = tab.shell) (atFront : f front = front)
    (windowHidden : ∀ tab, (f tab).windowHidden = tab.windowHidden)
    (hidden : ∀ tab, tab.visibility = .hidden → (f tab).visibility = .hidden) :
    Restoring front fresh (mapWindows f s) := by
  obtain ⟨rest, windows, behind⟩ := restoring.windows
  refine ⟨⟨rest.map f, ?_, ?_⟩, restoring.noKey, (sameShells_mapWindows s keeps).below
    restoring.below⟩
  · rw [mapWindows, windows, List.map_cons, atFront]
  · intro changed mem
    obtain ⟨tab, tabMem, rfl⟩ := List.mem_map.mp mem
    obtain ⟨apart, unseen, told⟩ := behind tab tabMem
    rw [keeps, windowHidden]
    exact ⟨apart, unseen, told.imp_right (hidden tab)⟩

theorem restoring_discardExcept (restoring : Restoring front fresh s) :
    Restoring front fresh (blinkDiscardBackgroundTabsExcept front.shell s) := by
  refine restoring_mapWindows restoring (fun tab => ?_) (if_pos rfl) (fun tab => ?_)
    (fun tab hidden => ?_)
  · split
    · rfl
    · exact shed_shell tab
  · split <;> rfl
  · split
    · exact hidden
    · rfl

theorem restoring_discardBehindFront (restoring : Restoring front fresh s) :
    Restoring front fresh (discardBehindFront s) := by
  obtain ⟨rest, windows, -⟩ := restoring.windows
  have first : s.windows.head? = some front := congrArg List.head? windows
  rw [discardBehindFront_eq first, blinkDiscardBackgroundTabs]
  split
  · exact restoring
  · exact restoring_discardExcept restoring

theorem restoring_underPressure (restoring : Restoring front fresh s) :
    Restoring front fresh (blinkDiscardBackgroundTabsUnderPressure s) := by
  obtain ⟨rest, windows, -⟩ := restoring.windows
  have noShell : keyWindowShell s = none := by
    rw [keyWindowShell, restoring.noKey, Option.map_eq_none_iff, List.find?_eq_none]
    simp
  have kept : keptShell s = some front.shell := by
    rw [keptShell, noShell, windows]
    rfl
  unfold blinkDiscardBackgroundTabsUnderPressure
  split
  · exact restoring
  · rw [kept]
    exact restoring_discardExcept restoring

theorem restoring_loadURL (restoring : Restoring front fresh s) (guard : Footprint) {shell : ℕ}
    (apart : shell ≠ front.shell) (url : GURL) :
    Restoring front fresh (loadURL guard shell url s) := by
  have shed : Restoring front fresh
      (if guard.critical then blinkDiscardBackgroundTabsUnderPressure s else s) := by
    split
    · exact restoring_underPressure restoring
    · exact restoring
  simp only [loadURL]
  split
  · exact shed
  · refine restoring_mapWindows shed
      (only_shell (TabWindow.inTab (OpenTabs.Tab.start url)) (fun _ => rfl) shell)
      (if_neg apart.symm) (fun tab => ?_) (fun tab hidden => ?_)
    · unfold TabWindow.only
      split <;> rfl
    · unfold TabWindow.only
      split
      · exact hidden
      · exact hidden

theorem restoring_createShell (restoring : Restoring front none s) (offTheRecord : Bool) :
    Restoring front (some s.nextShell) (createShell offTheRecord s) := by
  obtain ⟨rest, windows, behind⟩ := restoring.windows
  have frontMem : front ∈ s.windows := windows ▸ List.mem_cons_self
  let created : TabWindow :=
    ⟨⟨s.nextShell, offTheRecord, .none, none, [], false⟩, true, .visible, false⟩
  refine ⟨⟨rest ++ [created], congrArg (· ++ [created]) windows, fun tab mem => ?_⟩,
    restoring.noKey, createShell_below restoring.below offTheRecord⟩
  rcases List.mem_append.mp mem with old | new
  · obtain ⟨apart, unseen, told⟩ := behind tab old
    exact ⟨apart, unseen, .inr (told.resolve_left nofun)⟩
  · cases List.mem_singleton.mp new
    exact ⟨(restoring.below front frontMem).ne', rfl, .inl rfl⟩

theorem restoring_wasHidden {shell : ℕ} (restoring : Restoring front (some shell) s)
    (apart : shell ≠ front.shell) :
    Restoring front none (mapWindows (TabWindow.only shell TabWindow.wasHidden) s) := by
  obtain ⟨rest, windows, behind⟩ := restoring.windows
  have keeps := only_shell TabWindow.wasHidden (fun _ => rfl) shell
  refine ⟨⟨rest.map (TabWindow.only shell TabWindow.wasHidden), ?_, fun changed mem => ?_⟩,
    restoring.noKey, (sameShells_mapWindows s keeps).below restoring.below⟩
  · rw [mapWindows, windows, List.map_cons, TabWindow.only, if_neg apart.symm]
  · obtain ⟨tab, tabMem, rfl⟩ := List.mem_map.mp mem
    obtain ⟨elsewhere, unseen, told⟩ := behind tab tabMem
    rw [keeps]
    refine ⟨elsewhere, ?_, .inr ?_⟩
    · unfold TabWindow.only
      split
      · exact unseen
      · exact unseen
    · unfold TabWindow.only
      split
      · rfl
      · rename_i other
        exact told.resolve_left fun same => other (Option.some.inj same).symm

theorem restoring_defer (restoring : Restoring front fresh s) (shell : ℕ) (url : GURL) :
    Restoring front fresh
      (if url.isAboutBlank then s else emplacePendingRestoreURL shell url s) := by
  unfold emplacePendingRestoreURL
  split_ifs
  · exact restoring
  · exact restoring
  · exact ⟨restoring.windows, restoring.noKey, restoring.below⟩

theorem restoring_restoreTab (restoring : Restoring front none s) (guard : Footprint)
    (offTheRecord : Bool) (url : GURL) :
    Restoring front none (restoreTab guard offTheRecord url s) := by
  have discarded := restoring_discardBehindFront restoring
  obtain ⟨rest, windows, -⟩ := discarded.windows
  have apart : (discardBehindFront s).nextShell ≠ front.shell :=
    (discarded.below front (windows ▸ List.mem_cons_self)).ne'
  have created := restoring_createShell discarded offTheRecord
  have loaded : Restoring front (some (discardBehindFront s).nextShell)
      (if blankURL.isEmpty then createShell offTheRecord (discardBehindFront s)
        else loadURL guard (discardBehindFront s).nextShell blankURL
          (createShell offTheRecord (discardBehindFront s))) := by
    split
    · exact created
    · exact restoring_loadURL created guard apart blankURL
  dsimp only [restoreTab, createNewWindow]
  split
  · rename_i refused
    split at refused
    · cases refused
      exact discarded
    · cases refused
  · rename_i opened
    split at opened
    · cases opened
    · cases opened
      exact restoring_wasHidden (restoring_defer loaded _ url) apart

theorem restoring_rest (restoring : Restoring front none s) (guards : ℕ → Footprint)
    (offTheRecord : Bool) (rest : List (GURL × ℕ)) : Restoring front none
      (rest.foldl (fun s (url, i) => restoreTab (guards (i + 1)) offTheRecord url s) s) :=
  invariant_always (fun _ (url, i) kept =>
    restoring_restoreTab kept (guards (i + 1)) offTheRecord url) s rest restoring

theorem loadURL_alone (few : s.windows.length < 2) (guard : Footprint) (shell : ℕ) (url : GURL) :
    loadURL guard shell url s = if guard.loadRefused then s
      else mapWindows (TabWindow.only shell (TabWindow.inTab (OpenTabs.Tab.start url))) s := by
  have shed : (if guard.critical then blinkDiscardBackgroundTabsUnderPressure s else s) = s := by
    split
    · exact if_pos few
    · rfl
  simp only [loadURL, shed]

theorem restoring_alone {front : TabWindow} (atZero : front.shell = 0) :
    Restoring front none ⟨[front], [], none, none, none, 1⟩ := by
  refine ⟨⟨[], rfl, nofun⟩, rfl, fun tab mem => ?_⟩
  cases List.mem_singleton.mp mem
  rw [atZero]
  exact Nat.zero_lt_one

theorem restoring_first (guard : Footprint) (offTheRecord : Bool) (first : GURL) :
    ∃ front : TabWindow, front.visibility = .visible ∧ front.pageFrozen = false ∧
      Restoring front none
        (createNewWindow guard offTheRecord first ⟨[], [], none, none, none, 0⟩).1 := by
  let opened : TabWindow := ⟨⟨0, offTheRecord, .none, none, [], false⟩, true, .visible, false⟩
  let created : Screen := ⟨[opened], [], none, none, none, 1⟩
  change ∃ front : TabWindow, _ ∧ _ ∧ Restoring front none
    (if first.isEmpty then created else loadURL guard 0 first created)
  rw [loadURL_alone (show created.windows.length < 2 from Nat.one_lt_two)]
  split
  · exact ⟨opened, rfl, rfl, restoring_alone rfl⟩
  · split
    · exact ⟨opened, rfl, rfl, restoring_alone rfl⟩
    · exact ⟨opened.inTab (OpenTabs.Tab.start first), rfl, rfl, restoring_alone rfl⟩

theorem settled_front (restored : Restoring front none s) (visible : front.visibility = .visible)
    (thawed : front.pageFrozen = false) : Settled (makeKeyAndVisible front.shell s) := by
  obtain ⟨rest, windows, behind⟩ := restored.windows
  have keeps := only_shell (TabWindow.setHidden false) (fun _ => rfl) front.shell
  have entry {tab : TabWindow} (mem : tab ∈ (makeKeyAndVisible front.shell s).windows) :
      tab = front.setHidden false ∨ tab.shell ≠ front.shell ∧ Background tab := by
    obtain ⟨before, beforeMem, rfl⟩ := List.mem_map.mp mem
    rw [windows] at beforeMem
    rcases List.mem_cons.mp beforeMem with rfl | other
    · exact .inl (if_pos rfl)
    · obtain ⟨apart, unseen, told⟩ := behind before other
      rw [TabWindow.only, if_neg apart]
      exact .inr ⟨apart, unseen, told.resolve_left fun none => by cases none⟩
  refine ⟨?_, fun owner owns => ?_,
    (sameShells_mapWindows s keeps).below restored.below⟩
  · intro key mem owns
    rcases entry mem with rfl | ⟨apart, -⟩
    · refine ⟨⟨rfl, visible, thawed⟩, fun other otherMem apart => ?_⟩
      rcases entry otherMem with rfl | ⟨-, hidden⟩
      · exact absurd rfl apart
      · exact hidden
    · exact absurd (Option.some.inj owns).symm apart
  · cases Option.some.inj owns
    refine isOpen_iff.mpr ⟨_, List.mem_map_of_mem (windows ▸ List.mem_cons_self), keeps front⟩

theorem settled_launch (guards : ℕ → Footprint) (offTheRecord : Bool) (first : GURL)
    (rest : List GURL) : Settled (launch guards offTheRecord first rest) := by
  obtain ⟨front, visible, thawed, opened⟩ := restoring_first (guards 0) offTheRecord first
  have restored := restoring_rest opened guards offTheRecord rest.zipIdx
  obtain ⟨others, windows, -⟩ := restored.windows
  dsimp only [launch]
  rw [windows]
  exact settled_front restored visible thawed

theorem onlyKeyTabLive_iff_stepKeepsLive (guards : ℕ → Footprint) (offTheRecord : Bool)
    (first : GURL) (rest : List GURL) (events : List Event) :
    (∀ past, past <+: events →
      OnlyKeyTabLive (past.foldl step (launch guards offTheRecord first rest))) ↔
      Permitted StepKeepsLive step (launch guards offTheRecord first rest) events := by
  have preserved (s : Screen) (event : Event) (settled : Settled s)
      (keeps : StepKeepsLive s event) : Settled (step s event) := settled_step settled event keeps
  have sound (s : Screen) (settled : Settled s) : OnlyKeyTabLive s := settled.onlyKey
  have seen (s : Screen) (event : Event) (settled : Settled s)
      (breaks : ¬StepKeepsLive s event) : ¬OnlyKeyTabLive (step s event) :=
    step_lost settled event breaks
  exact good_iff_permitted preserved sound seen _ events
    (settled_launch guards offTheRecord first rest)

theorem onlyKeyTabLive_lost (invisible : s.windows.any (fun key =>
    s.keyWindow = some key.shell ∧ key.visibility = .hidden) = true) : ¬OnlyKeyTabLive s := by
  obtain ⟨key, mem, lost⟩ := List.any_eq_true.mp invisible
  obtain ⟨owns, hidden⟩ := of_decide_eq_true lost
  exact fun onlyKey => not_live_of_invisible hidden (onlyKey key mem owns).1

/-- A page opens a Google sign-in window, which closes itself when it is done. -/
def signInWindow : List Event :=
  [.addNewContents .low 0 ⟨true, false⟩, .closeContents 1]

/-- Of six tabs the second is selected, and a seventh is refused. -/
def refusedTab : List Event :=
  [.showTabWindow .low 1, .openNewTab ⟨⟨true, false⟩, false⟩ 1 blankURL]

theorem onlyKeyTabLive_counterexample :
    ¬OnlyKeyTabLive (signInWindow.foldl step (launch (fun _ => .low) false blankURL [])) ∧
      ¬OnlyKeyTabLive (refusedTab.foldl step
        (launch (fun _ => .low) false blankURL (List.replicate 5 blankURL))) :=
  ⟨onlyKeyTabLive_lost (by decide +kernel), onlyKeyTabLive_lost (by decide +kernel)⟩

end BlinkerFluid.TabHandOver
