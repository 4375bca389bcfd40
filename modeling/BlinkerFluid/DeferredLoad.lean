import BlinkerFluid.TabSteps
import BlinkerFluid.RestoreList
import BlinkerFluid.VisibleTab

/-! A restored tab keeps its address aside until it is selected. The address is taken out
of the record before the load is asked for, and the guards of the load tell no one that
they refuse it: the selections at which a deferred address is lost are those at which they do. -/

namespace BlinkerFluid.DeferredLoad
open WebAddress RestoreList GlobalMemoryGuard AuthFlow StepRun TabSteps
open OpenTabs (Platform Preferences Tab blankURL getRestoreTabURLs getStartupURL
  lookup_filter_ne)
open VisibleTab (only_shell shed_shell navigation_shell isOpen_iff SameShells sameShells_mapWindows
  sameShells_underPressure)
open TabWindows (Screen TabWindow NewContents Navigation isOpen findWindow mapWindows
  makeKeyAndVisible blinkDiscardBackgroundTabs blinkDiscardBackgroundTabsUnderPressure
  blinkDiscardBackgroundTabsExcept blinkDiscardIdleBackgroundTabs discardBehindFront createShell
  emplacePendingRestoreURL)

variable {s : Screen}

section Entries

variable {f : TabWindow → TabWindow}

/-- Every tab is where it was and on the way to where it was. -/
structure SameEntries (s t : Screen) : Prop where
  entry : pendingEntry t = pendingEntry s
  visible : visibleURL t = visibleURL s
  recorded : t.pendingRestoreURLs = s.pendingRestoreURLs

theorem SameEntries.refl (s : Screen) : SameEntries s s := ⟨rfl, rfl, rfl⟩

theorem SameEntries.trans {t u : Screen} (first : SameEntries s t) (second : SameEntries t u) :
    SameEntries s u where
  entry := second.entry.trans first.entry
  visible := second.visible.trans first.visible
  recorded := second.recorded.trans first.recorded

/-- Nothing is navigated by a change of the windows alone. -/
def Stays (f : TabWindow → TabWindow) : Prop :=
  ∀ tab, (f tab).pendingEntry = tab.pendingEntry ∧ (f tab).lastCommittedURL = tab.lastCommittedURL

theorem sameEntries_mapWindows (keeps : ∀ tab, (f tab).shell = tab.shell) (stays : Stays f)
    (s : Screen) : SameEntries s (mapWindows f s) where
  entry := by
    funext shell
    rw [pendingEntry, findWindow_mapWindows keeps, pendingEntry]
    cases findWindow s shell with
    | none => rfl
    | some tab => exact (stays tab).1
  visible := by
    funext shell
    rw [visibleURL, findWindow_mapWindows keeps, visibleURL]
    cases findWindow s shell with
    | none => rfl
    | some tab =>
      simp only [Option.map_some, Option.getD_some, OpenTabs.Tab.visibleURL, stays tab]
  recorded := rfl

theorem stays_only {f : TabWindow → TabWindow} (stays : Stays f) (shell : ℕ) :
    Stays (TabWindow.only shell f) := by
  intro tab
  unfold TabWindow.only
  split
  · exact stays tab
  · exact ⟨rfl, rfl⟩

theorem stays_shed : Stays TabWindow.shed := by
  intro tab
  change tab.toTab.discard.pendingEntry = tab.toTab.pendingEntry ∧
    tab.toTab.discard.lastCommittedURL = tab.toTab.lastCommittedURL
  unfold Tab.discard
  split <;> exact ⟨rfl, rfl⟩

theorem sameEntries_discardExcept (keep : ℕ) (s : Screen) :
    SameEntries s (blinkDiscardBackgroundTabsExcept keep s) := by
  refine sameEntries_mapWindows (fun tab => ?_) (fun tab => ?_) s
  · split
    · rfl
    · exact shed_shell tab
  · split
    · exact ⟨rfl, rfl⟩
    · exact stays_shed tab

theorem sameEntries_discardBackground (keep : ℕ) (s : Screen) :
    SameEntries s (blinkDiscardBackgroundTabs keep s) := by
  unfold blinkDiscardBackgroundTabs
  split
  · exact .refl s
  · exact sameEntries_discardExcept keep s

theorem sameEntries_underPressure (s : Screen) :
    SameEntries s (blinkDiscardBackgroundTabsUnderPressure s) := by
  unfold blinkDiscardBackgroundTabsUnderPressure
  split
  · exact .refl s
  · split
    · exact .refl s
    · exact sameEntries_discardExcept _ s

theorem sameEntries_shedIf (outcome : GuardOutcome) (s : Screen) :
    SameEntries s (shedIf outcome s) := by
  unfold shedIf
  split
  · exact sameEntries_underPressure s
  · exact .refl s

end Entries

section Loads

variable {memory : LoadMemory} {shell : ℕ} {url currentUrl : GURL}

theorem pendingEntry_start (opened : isOpen s shell = true) (url : GURL) :
    pendingEntry (mapWindows (TabWindow.only shell (TabWindow.inTab (Tab.start url))) s) shell =
      some url := by
  have keeps := only_shell (TabWindow.inTab (Tab.start url)) (fun _ => rfl) shell
  obtain ⟨tab, found⟩ := Option.isSome_iff_exists.mp (findWindow_isSome_iff.mpr opened)
  have here := shell_of_findWindow found
  rw [pendingEntry, findWindow_mapWindows keeps, found, Option.map_some, Option.bind_some,
    TabWindow.only, if_pos here]
  rfl

theorem startLoad_entry (opened : isOpen s shell = true) :
    pendingEntry (startLoad memory shell url currentUrl s) shell = some url := by
  unfold startLoad
  split
  · assumption
  · rw [(sameEntries_shedIf ..).entry]
    exact pendingEntry_start opened url

theorem startLoad_recorded :
    (startLoad memory shell url currentUrl s).pendingRestoreURLs = s.pendingRestoreURLs := by
  unfold startLoad
  split
  · rfl
  · exact (sameEntries_shedIf ..).recorded

/-- A heavy site that signs no one in is refused at a leak, and past the last threshold
if nothing spares it. -/
def RefusesLoad (memory : LoadMemory) (url currentUrl : GURL) : Prop :=
  isAuthFlowURL url = false ∧ isHeavySiteURL url = true ∧
    (350 * kMiB ≤ memory.danger ∧ memory.persistentDuplicate = true ∨
      Refused memory.before.ceiling memory.before.footprint url currentUrl true)

instance (memory : LoadMemory) (url currentUrl : GURL) :
    Decidable (RefusesLoad memory url currentUrl) := inferInstanceAs (Decidable (_ ∧ _ ∧ _))

theorem refusesLoad_iff : RefusesLoad memory url currentUrl ↔ isAuthFlowURL url = false ∧
    (applyDirectAllocationDangerGuard memory url = true ∨
      (guardBefore memory url currentUrl).blocked = true) := by
  simp only [RefusesLoad, applyDirectAllocationDangerGuard, guardBefore, guard_blocked_iff,
    Bool.and_eq_true, decide_eq_true_eq, ge_iff_le, and_assoc, and_or_left]

theorem sameShells_shedIf (outcome : GuardOutcome) (s : Screen) :
    SameShells s (shedIf outcome s) := by
  unfold shedIf
  split
  · exact sameShells_underPressure s
  · exact .refl s

theorem sameShells_startLoad (s : Screen) :
    SameShells s (startLoad memory shell url currentUrl s) := by
  unfold startLoad
  split
  · exact .refl s
  · exact (sameShells_mapWindows s (only_shell (TabWindow.inTab (Tab.start url)) (fun _ => rfl)
      shell)).trans (sameShells_shedIf _ _)

theorem sameShells_loadURL (memory : LoadMemory) (shell : ℕ) (url : GURL) (s : Screen) :
    SameShells s (loadURL memory shell url s) := by
  simp only [loadURL]
  split
  · exact sameShells_startLoad s
  · split
    · exact .refl s
    · split
      · exact sameShells_shedIf _ s
      · exact (sameShells_shedIf _ s).trans (sameShells_startLoad _)

theorem loadURL_refused (refused : RefusesLoad memory url (visibleURL s shell)) :
    SameEntries s (loadURL memory shell url s) := by
  obtain ⟨other, guarded⟩ := refusesLoad_iff.mp refused
  simp only [loadURL, other, Bool.false_eq_true, if_false]
  rcases guarded with danger | blocked
  · rw [if_pos danger]
    exact .refl s
  · split
    · exact .refl s
    · exact sameEntries_shedIf _ s

theorem loadURL_granted (granted : ¬ RefusesLoad memory url (visibleURL s shell))
    (opened : isOpen s shell = true) :
    pendingEntry (loadURL memory shell url s) shell = some url := by
  unfold loadURL
  cases auth : isAuthFlowURL url with
  | true =>
    rw [if_pos rfl]
    exact startLoad_entry opened
  | false =>
    simp only [refusesLoad_iff, auth, true_and, not_or, Bool.not_eq_true] at granted
    simp only [granted.1, granted.2, Bool.false_eq_true, if_false]
    exact startLoad_entry (((sameShells_shedIf _ s).open_iff shell).mpr opened)

theorem loadURL_recorded (memory : LoadMemory) (shell : ℕ) (url : GURL) (s : Screen) :
    (loadURL memory shell url s).pendingRestoreURLs = s.pendingRestoreURLs := by
  simp only [loadURL]
  split
  · exact startLoad_recorded
  · split
    · rfl
    · split
      · exact (sameEntries_shedIf _ s).recorded
      · exact startLoad_recorded.trans (sameEntries_shedIf _ s).recorded

end Loads

section Selection

variable {reload deferred : LoadMemory} {shell : ℕ} {tab : TabWindow} {url : GURL}

theorem sameShells_reloadDiscarded (memory : LoadMemory) (tab : TabWindow) (s : Screen) :
    SameShells s (reloadDiscarded memory tab s) := by
  have thawed := sameShells_mapWindows s
    (only_shell (TabWindow.setPageFrozen false) (fun _ => rfl) tab.shell)
  unfold reloadDiscarded
  split
  · exact .refl s
  · dsimp only
    split
    · exact thawed.trans (sameShells_loadURL ..)
    · exact thawed

theorem visibleURL_of_pendingEntry (entry : pendingEntry s shell = some url) :
    visibleURL s shell = url := by
  unfold pendingEntry at entry
  cases found : findWindow s shell with
  | none => simp [found] at entry
  | some tab =>
    rw [found, Option.bind_some] at entry
    simp [visibleURL, found, OpenTabs.Tab.visibleURL, entry]

/-- The guards let a discarded tab reload the page that it was on. -/
def Reloads (memory : LoadMemory) (tab : TabWindow) : Prop :=
  tab.wasDiscarded = true ∧
    (tab.lastCommittedURL.isValid = true ∧ tab.lastCommittedURL.schemeIsHTTPOrHTTPS = true) ∧
    ¬ RefusesLoad memory tab.lastCommittedURL tab.visibleURL

instance (memory : LoadMemory) (tab : TabWindow) : Decidable (Reloads memory tab) :=
  inferInstanceAs (Decidable (_ ∧ _ ∧ _))

def selectedTab (memory : LoadMemory) (tab : TabWindow) : Tab :=
  if Reloads memory tab then tab.toTab.start tab.lastCommittedURL else tab.toTab

theorem sameEntries_thaw (shell : ℕ) (s : Screen) :
    SameEntries s (mapWindows (TabWindow.only shell (TabWindow.setPageFrozen false)) s) := by
  have stays : Stays (TabWindow.setPageFrozen false) := fun _ => ⟨rfl, rfl⟩
  exact sameEntries_mapWindows (only_shell (TabWindow.setPageFrozen false) (fun _ => rfl) shell)
    (stays_only stays shell) s

theorem visibleURL_of_findWindow (found : findWindow s shell = some tab) :
    visibleURL s shell = tab.visibleURL := by
  rw [visibleURL, found]
  rfl

theorem reloadDiscarded_granted (found : findWindow s shell = some tab)
    (reloads : Reloads reload tab) :
    pendingEntry (reloadDiscarded reload tab s) shell = some tab.lastCommittedURL := by
  obtain rfl := shell_of_findWindow found
  obtain ⟨discarded, ⟨valid, http⟩, granted⟩ := reloads
  have opened : isOpen s tab.shell = true := findWindow_isSome_iff.mp (by rw [found]; rfl)
  have thawed := sameShells_mapWindows s
    (only_shell (TabWindow.setPageFrozen false) (fun _ => rfl) tab.shell)
  simp only [reloadDiscarded, discarded, valid, http, Bool.not_true, Bool.and_self,
    Bool.false_eq_true, if_false, if_true]
  refine loadURL_granted ?_ ((thawed.open_iff tab.shell).mpr opened)
  rwa [(sameEntries_thaw tab.shell s).visible, visibleURL_of_findWindow found]

theorem reloadDiscarded_still (found : findWindow s shell = some tab)
    (still : ¬ Reloads reload tab) : SameEntries s (reloadDiscarded reload tab s) := by
  obtain rfl := shell_of_findWindow found
  have thawed := sameEntries_thaw tab.shell s
  unfold reloadDiscarded
  split
  · exact .refl s
  · rename_i discarded
    rw [Bool.not_eq_true', Bool.not_eq_false] at discarded
    dsimp only
    split
    · rename_i page
      rw [Bool.and_eq_true] at page
      refine thawed.trans (loadURL_refused ?_)
      rw [thawed.visible, visibleURL_of_findWindow found]
      exact not_not.mp fun granted => still ⟨discarded, page, granted⟩
    · exact thawed

theorem reloadDiscarded_entries (found : findWindow s shell = some tab) :
    pendingEntry (reloadDiscarded reload tab s) shell = (selectedTab reload tab).pendingEntry ∧
      visibleURL (reloadDiscarded reload tab s) shell = (selectedTab reload tab).visibleURL := by
  unfold selectedTab
  by_cases reloads : Reloads reload tab
  · have started := reloadDiscarded_granted found reloads
    rw [if_pos reloads]
    exact ⟨started, visibleURL_of_pendingEntry started⟩
  · have same := reloadDiscarded_still found reloads
    rw [if_neg reloads, same.entry, same.visible, visibleURL_of_findWindow found, pendingEntry,
      found]
    exact ⟨rfl, rfl⟩

theorem reloadDiscarded_recorded (memory : LoadMemory) (tab : TabWindow) (s : Screen) :
    (reloadDiscarded memory tab s).pendingRestoreURLs = s.pendingRestoreURLs := by
  unfold reloadDiscarded
  split
  · rfl
  · dsimp only
    split
    · exact loadURL_recorded ..
    · rfl

theorem sameEntries_select (shell : ℕ) (s : Screen) :
    SameEntries s (mapWindows (TabWindow.select shell) s) := by
  refine sameEntries_mapWindows (fun tab => ?_) (fun tab => ?_) s
  · unfold TabWindow.select
    split <;> rfl
  · unfold TabWindow.select
    split <;> exact ⟨rfl, rfl⟩

theorem sameEntries_makeKey (shell : ℕ) (s : Screen) :
    SameEntries s (makeKeyAndVisible shell s) := by
  have stays : Stays (TabWindow.setHidden false) := fun _ => ⟨rfl, rfl⟩
  have mapped := sameEntries_mapWindows
    (only_shell (TabWindow.setHidden false) (fun _ => rfl) shell) (stays_only stays shell) s
  exact ⟨mapped.entry, mapped.visible, mapped.recorded⟩

theorem sameEntries_showTabWindow (found : findWindow s shell = some tab) :
    SameEntries (s |> reloadDiscarded reload tab |> loadDeferred deferred shell)
      (showTabWindow reload deferred shell s) := by
  obtain rfl := shell_of_findWindow found
  simp only [showTabWindow, found, handOver]
  exact ((sameEntries_select tab.shell _).trans (sameEntries_makeKey tab.shell _)).trans
    (sameEntries_discardBackground tab.shell _)

theorem loadDeferred_recorded (memory : LoadMemory) (shell : ℕ) (s : Screen) :
    (loadDeferred memory shell s).pendingRestoreURLs =
      s.pendingRestoreURLs.filter (·.1 ≠ shell) := by
  unfold loadDeferred
  dsimp only
  split
  · exact loadURL_recorded ..
  · rfl

theorem loadDeferred_entry_iff (opened : isOpen s shell = true)
    (recorded : s.pendingRestoreURLs.lookup shell = some url)
    (page : url.isValid = true ∧ url.schemeIsHTTPOrHTTPS = true) :
    pendingEntry (loadDeferred deferred shell s) shell = some url ↔
      ¬ RefusesLoad deferred url (visibleURL s shell) ∨ pendingEntry s shell = some url := by
  obtain ⟨taken, took⟩ : ∃ taken, takePendingRestoreURL shell s = (taken, url) :=
    ⟨_, by rw [takePendingRestoreURL, recorded]; rfl⟩
  have windows : taken.windows = s.windows := by
    rw [takePendingRestoreURL, Prod.mk.injEq] at took
    rw [← took.1]
  have loads : loadDeferred deferred shell s = loadURL deferred shell url taken := by
    simp only [loadDeferred, took, page.1, page.2, Bool.and_self, if_true]
  have visible : visibleURL taken shell = visibleURL s shell := by
    rw [visibleURL, findWindow, windows, visibleURL, findWindow]
  have entry : pendingEntry taken shell = pendingEntry s shell := by
    rw [pendingEntry, findWindow, windows, pendingEntry, findWindow]
  have opened' : isOpen taken shell = true := by rwa [isOpen, windows]
  rw [loads, ← visible, ← entry]
  by_cases refused : RefusesLoad deferred url (visibleURL taken shell)
  · simp [(loadURL_refused refused).entry, refused]
  · simp [loadURL_granted refused opened', refused]

/-- A navigation to the address is with the navigation controller, or the address is
still recorded. -/
def HandedOrRecorded (shell : ℕ) (url : GURL) (s : Screen) : Prop :=
  pendingEntry s shell = some url ∨ s.pendingRestoreURLs.lookup shell = some url

instance (shell : ℕ) (url : GURL) (s : Screen) : Decidable (HandedOrRecorded shell url s) :=
  inferInstanceAs (Decidable (_ ∨ _))

theorem handedOrRecorded_iff (found : findWindow s shell = some tab)
    (recorded : s.pendingRestoreURLs.lookup shell = some url)
    (page : url.isValid = true ∧ url.schemeIsHTTPOrHTTPS = true) :
    HandedOrRecorded shell url (showTabWindow reload deferred shell s) ↔
      ¬ RefusesLoad deferred url (selectedTab reload tab).visibleURL ∨
        (selectedTab reload tab).pendingEntry = some url := by
  have opened : isOpen (reloadDiscarded reload tab s) shell = true :=
    ((sameShells_reloadDiscarded reload tab s).open_iff shell).mpr
      (findWindow_isSome_iff.mp (by rw [found]; rfl))
  have still := reloadDiscarded_recorded reload tab s
  have same : SameEntries (s |> reloadDiscarded reload tab |> loadDeferred deferred shell)
      (showTabWindow reload deferred shell s) := sameEntries_showTabWindow found
  obtain ⟨entries, -, records⟩ := same
  have erased : (showTabWindow reload deferred shell s).pendingRestoreURLs.lookup shell = none := by
    rw [records, loadDeferred_recorded, lookup_filter_ne, if_pos rfl]
  rw [HandedOrRecorded, erased, entries]
  obtain ⟨pending, page'⟩ := reloadDiscarded_entries found
  rw [← pending, ← page', or_iff_left nofun]
  exact loadDeferred_entry_iff opened (by rw [still, recorded]) page

end Selection

section Runs

/-- Every recorded address is one that a selection loads. -/
def Loadable (s : Screen) : Prop :=
  ∀ entry ∈ s.pendingRestoreURLs, entry.2.isValid = true ∧ entry.2.schemeIsHTTPOrHTTPS = true

theorem createNewWindow_recorded (window : MemoryReading) (load : LoadMemory) (offTheRecord : Bool)
    (url : GURL) (s : Screen) :
    (createNewWindow window load offTheRecord url s).1.pendingRestoreURLs =
      s.pendingRestoreURLs := by
  have shed : (discardBehindFront s).pendingRestoreURLs = s.pendingRestoreURLs := by
    unfold discardBehindFront
    split
    · rfl
    · exact (sameEntries_discardBackground _ s).recorded
  unfold createNewWindow
  dsimp only
  split
  · exact shed
  · dsimp only
    split
    · exact shed
    · exact (loadURL_recorded ..).trans shed

theorem showTabWindow_recorded (reload deferred : LoadMemory) (shell : ℕ) (s : Screen) :
    (showTabWindow reload deferred shell s).pendingRestoreURLs.Sublist s.pendingRestoreURLs := by
  cases found : findWindow s shell with
  | none => simp [showTabWindow, found]
  | some tab =>
    rw [(sameEntries_showTabWindow found).recorded, loadDeferred_recorded, reloadDiscarded_recorded]
    exact List.filter_sublist

theorem close_recorded (shell : ℕ) (s : Screen) :
    (TabWindows.close shell s).pendingRestoreURLs.Sublist s.pendingRestoreURLs :=
  List.filter_sublist

theorem reactivate_recorded (closing : ℕ) (preferredOpener : Option ℕ) (s : Screen) :
    (TabWindows.blinkShellWillCloseReactivate closing preferredOpener s).pendingRestoreURLs =
      s.pendingRestoreURLs := by
  unfold TabWindows.blinkShellWillCloseReactivate
  split
  · rfl
  · split <;> rfl

theorem forgetAuthPopup_recorded (source : ℕ) (s : Screen) :
    (TabWindows.forgetAuthPopup source s).pendingRestoreURLs = s.pendingRestoreURLs := by
  unfold TabWindows.forgetAuthPopup
  split <;> rfl

theorem closeContents_recorded (shell : ℕ) (s : Screen) :
    (TabWindows.closeContents shell s).pendingRestoreURLs.Sublist s.pendingRestoreURLs := by
  have closed := close_recorded shell (TabWindows.forgetAuthPopup shell
    (TabWindows.blinkShellWillCloseReactivate shell s.authPopupOpener s))
  rwa [forgetAuthPopup_recorded, reactivate_recorded] at closed

theorem addNewContents_recorded (window : MemoryReading) (source : ℕ) (contents : NewContents)
    (s : Screen) : (addNewContents window source contents s).pendingRestoreURLs =
      s.pendingRestoreURLs := by
  simp only [addNewContents, TabWindows.addNewContents]
  split
  · rfl
  · split
    · rfl
    · split <;> rfl

theorem step_recorded (s : Screen) (event : Event) :
    (step s event).pendingRestoreURLs.Sublist s.pendingRestoreURLs := by
  unfold step
  split
  · cases event with
    | createNewWindow window load offTheRecord url =>
      rw [happen, createNewWindow_recorded]
    | showTabWindow reload deferred shell => exact showTabWindow_recorded reload deferred shell s
    | loadURL memory shell url => rw [happen, loadURL_recorded]
    | close shell => exact close_recorded shell s
    | closeContents shell => exact closeContents_recorded shell s
    | addNewContents window source contents => rw [happen, addNewContents_recorded]
    | navigation shell navigation => exact .refl _
    | reorder source target => exact .refl _
    | idleSweep idle => exact .refl _
    | memoryPressure => rw [happen, (sameEntries_underPressure s).recorded]
  · exact .refl _

theorem loadable_step (s : Screen) (event : Event) (loadable : Loadable s) :
    Loadable (step s event) := fun entry mem => loadable entry ((step_recorded s event).mem mem)

variable {p : Platform} {d : Preferences}

theorem loadable_restoreTab (memory : LaunchMemory) (offTheRecord : Bool) {s : Screen}
    (loadable : Loadable s) {entry : GURL × ℕ} (restorable : Restorable p entry.1) :
    Loadable (restoreTab memory offTheRecord s entry) := by
  obtain ⟨url, i⟩ := entry
  have same := createNewWindow_recorded (memory.window i) (memory.load i) offTheRecord blankURL s
  unfold restoreTab
  dsimp only
  generalize createNewWindow (memory.window i) (memory.load i) offTheRecord blankURL s =
    created at *
  obtain ⟨t, _ | shell⟩ := created
  · intro pending mem
    exact loadable pending (same ▸ mem)
  · intro pending mem
    change pending ∈ (if url.isAboutBlank then t
      else emplacePendingRestoreURL shell url t).pendingRestoreURLs at mem
    split at mem
    · exact loadable pending (same ▸ mem)
    · rename_i real
      unfold TabWindows.emplacePendingRestoreURL at mem
      split at mem
      · exact loadable pending (same ▸ mem)
      · rcases List.mem_cons.mp mem with rfl | mem
        · rcases restorable with rfl | page
          · exact absurd (by decide) real
          · exact ⟨page.valid, page.http⟩
        · exact loadable pending (same ▸ mem)

theorem loadable_restoreTabs (memory : LaunchMemory) (offTheRecord : Bool) {s : Screen}
    (loadable : Loadable s) {entries : List (GURL × ℕ)}
    (restorable : ∀ entry ∈ entries, Restorable p entry.1) :
    Loadable (entries.foldl (restoreTab memory offTheRecord) s) := by
  induction entries generalizing s with
  | nil => exact loadable
  | cons entry entries ih =>
    rw [List.forall_mem_cons] at restorable
    exact ih (loadable_restoreTab memory offTheRecord loadable restorable.1) restorable.2

theorem loadable_launch (p : Platform) (d : Preferences) (memory : LaunchMemory) :
    Loadable (launch p d memory) := by
  have opened (url : GURL) : Loadable
      (createNewWindow (memory.window 0) (memory.load 0) d.privateBrowsing url noTabs).1 := by
    intro entry mem
    rw [createNewWindow_recorded] at mem
    cases mem
  have restored : Loadable (initializeMessageLoopContext p d memory) := by
    unfold initializeMessageLoopContext
    cases list : (getRestoreTabURLs p d).2 with
    | nil => exact opened _
    | cons first rest =>
      refine loadable_restoreTabs (p := p) memory _ (opened first) fun entry mem => ?_
      refine restorable_of_mem (d := d) ?_
      rw [list]
      exact List.mem_cons_of_mem first (List.fst_mem_of_mem_zipIdx mem)
  unfold launch
  dsimp only
  split
  · exact restored
  · exact restored

/-- A selection of a tab does not lose the address that the tab has deferred. -/
def KeepsDeferred (s : Screen) : Event → Prop
  | .showTabWindow reload deferred shell => ∀ url, s.pendingRestoreURLs.lookup shell = some url →
    HandedOrRecorded shell url (step s (.showTabWindow reload deferred shell))
  | _ => True

/-- At a selection of a tab the guards grant the load of the address that the tab has
deferred, or the address is on its way already. -/
def GrantsDeferred (s : Screen) : Event → Prop
  | .showTabWindow reload deferred shell => ∀ tab, findWindow s shell = some tab →
    ∀ url, s.pendingRestoreURLs.lookup shell = some url →
      ¬ RefusesLoad deferred url (selectedTab reload tab).visibleURL ∨
        (selectedTab reload tab).pendingEntry = some url
  | _ => True

theorem keepsDeferred_iff (loadable : Loadable s) (event : Event) :
    KeepsDeferred s event ↔ GrantsDeferred s event := by
  cases event with
  | showTabWindow reload deferred shell =>
    cases found : findWindow s shell with
    | none =>
      have closed : step s (.showTabWindow reload deferred shell) = s := by
        have shut : ¬ isOpen s shell = true := by
          rw [← findWindow_isSome_iff, found]
          exact Bool.false_ne_true
        rw [step, Event.target, Option.all_some, if_neg shut]
      simp only [KeepsDeferred, GrantsDeferred, found, closed]
      exact ⟨fun _ => nofun, fun _ url recorded => .inr recorded⟩
    | some tab =>
      have shown : step s (.showTabWindow reload deferred shell) =
          showTabWindow reload deferred shell s :=
        if_pos (findWindow_isSome_iff.mp (by rw [found]; rfl))
      simp only [KeepsDeferred, GrantsDeferred, found, shown, Option.some.injEq, forall_eq']
      refine forall_congr' fun url => imp_congr_right fun recorded => ?_
      obtain ⟨before, after, records, -⟩ := List.lookup_eq_some_iff.mp recorded
      have mem : (shell, url) ∈ s.pendingRestoreURLs := by simp [records]
      exact handedOrRecorded_iff found recorded (loadable _ mem)
  | _ => rfl

/-- Over any run from any launch, the selections keep what the tabs have deferred exactly
if the guards grant the loads. -/
theorem deferred_kept_iff (p : Platform) (d : Preferences) (memory : LaunchMemory)
    (events : List Event) : Permitted KeepsDeferred step (launch p d memory) events ↔
      Permitted GrantsDeferred step (launch p d memory) events :=
  permitted_congr loadable_step (fun _ event loadable => keepsDeferred_iff loadable event) _ events
    (loadable_launch p d memory)

end Runs

section Refusal

def frontPage : GURL :=
  ⟨true, "https://example.com/".toList, "https".toList, "example.com".toList, ['/']⟩

/-- A page of search results, which is a heavy site and may be restored. -/
def searchPage : GURL :=
  ⟨true, "https://www.google.com/search?q=a".toList, "https".toList, "www.google.com".toList,
    "/search".toList⟩

def examplePlatform : Platform where
  parse s := if s = frontPage.spec then frontPage else if s = searchPage.spec then searchPage
    else GURL.none
  newTabTitle := []

def twoTabs : Preferences :=
  ⟨"clean".toList, 0, false, false, [], [some frontPage.spec, some searchPage.spec], fun _ => none⟩

def lowLaunch : LaunchMemory := ⟨fun _ => .low, fun _ => .low⟩

def fullMemory : LoadMemory :=
  ⟨0, false, ⟨kFallbackCeiling, 800 * kMiB⟩, ⟨kFallbackCeiling, 800 * kMiB⟩⟩

/-- The second tab is selected with little memory left, and its address is gone. -/
theorem searchPage_lost : ¬ ∀ p d memory events,
    Permitted KeepsDeferred step (launch p d memory) events := by
  intro kept
  have handed := (kept examplePlatform twoTabs lowLaunch [.showTabWindow .low fullMemory 1]).1
    searchPage (by decide +kernel)
  revert handed
  decide +kernel

end Refusal

end BlinkerFluid.DeferredLoad
