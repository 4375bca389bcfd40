import BlinkerFluid.TabWindows
import BlinkerFluid.StepRun

/-! The key window's tab is live and every other tab is in the background. Selecting a
tab and presenting a new window restore this from any state. The hand-over at the end of
a script-initiated close shows a window without waking its page, and a refused new tab
may shed the tab in front of the user. -/

namespace BlinkerFluid.VisibleTab
open WebAddress TabWindows StepRun
open OpenTabs (Tab)

structure Live (tab : TabWindow) : Prop where
  shown : tab.windowHidden = false
  visible : tab.visibility = .visible
  thawed : tab.pageFrozen = false

structure Background (tab : TabWindow) : Prop where
  hidden : tab.windowHidden = true
  invisible : tab.visibility = .hidden

/-- If an open shell owns the key window, its tab is live and every other is not. -/
def OnlyKeyTabLive (s : Screen) : Prop :=
  ∀ key ∈ s.windows, s.keyWindow = some key.shell →
    Live key ∧ ∀ other ∈ s.windows, other.shell ≠ key.shell → Background other

structure Settled (s : Screen) : Prop where
  onlyKey : OnlyKeyTabLive s
  keyOpen : ∀ shell, s.keyWindow = some shell → isOpen s shell = true
  below : ∀ tab ∈ s.windows, tab.shell < s.nextShell

variable {s t : Screen}

theorem isOpen_iff {shell : ℕ} : isOpen s shell = true ↔ ∃ tab ∈ s.windows, tab.shell = shell := by
  simp [isOpen]

theorem not_live_of_invisible {tab : TabWindow} (invisible : tab.visibility = .hidden) :
    ¬Live tab := fun live => by
  have visible := live.visible
  rw [invisible] at visible
  cases visible

theorem settled_mapWindows (settled : Settled s) {f : TabWindow → TabWindow}
    (shell : ∀ tab, (f tab).shell = tab.shell)
    (live : ∀ tab, s.keyWindow = some tab.shell → Live tab → Live (f tab))
    (background : ∀ tab, s.keyWindow ≠ some tab.shell → Background tab → Background (f tab)) :
    Settled (mapWindows f s) := by
  refine ⟨?_, fun owner owns => ?_, ?_⟩
  · intro key mem owns
    obtain ⟨tab, tabMem, rfl⟩ := List.mem_map.mp mem
    rw [shell] at owns
    obtain ⟨tabLive, others⟩ := settled.onlyKey tab tabMem owns
    refine ⟨live tab owns tabLive, fun other otherMem apart => ?_⟩
    obtain ⟨behind, behindMem, rfl⟩ := List.mem_map.mp otherMem
    rw [shell, shell] at apart
    refine background behind ?_ (others behind behindMem apart)
    exact fun same => apart (Option.some.inj (same.symm.trans owns))
  · obtain ⟨tab, mem, same⟩ := isOpen_iff.mp (settled.keyOpen owner owns)
    exact isOpen_iff.mpr ⟨f tab, List.mem_map_of_mem mem, (shell tab).trans same⟩
  · intro changed mem
    obtain ⟨tab, tabMem, rfl⟩ := List.mem_map.mp mem
    rw [shell]
    exact settled.below tab tabMem

theorem navigation_shell (navigation : Navigation) (tab : Tab) :
    (navigation.apply tab).shell = tab.shell := by
  cases navigation with
  | start url => rfl
  | stop => rfl
  | commit => exact tab.commit_shell

theorem shed_shell (tab : TabWindow) : tab.shed.shell = tab.shell := tab.toTab.discard_shell

theorem shed_background {tab : TabWindow} (background : Background tab) : Background tab.shed :=
  ⟨background.hidden, rfl⟩

theorem only_shell (f : TabWindow → TabWindow) (keeps : ∀ tab, (f tab).shell = tab.shell)
    (shell : ℕ) (tab : TabWindow) : (TabWindow.only shell f tab).shell = tab.shell := by
  unfold TabWindow.only
  split
  · exact keeps tab
  · rfl

theorem settled_inTab (settled : Settled s) (shell : ℕ) {f : Tab → Tab}
    (keeps : ∀ tab, (f tab).shell = tab.shell) :
    Settled (mapWindows (TabWindow.only shell (TabWindow.inTab f)) s) := by
  refine settled_mapWindows settled (only_shell _ (fun tab => keeps tab.toTab) shell)
    (fun tab _ live => ?_) (fun tab _ background => ?_)
  · unfold TabWindow.only
    split
    · exact ⟨live.shown, live.visible, live.thawed⟩
    · exact live
  · unfold TabWindow.only
    split
    · exact ⟨background.hidden, background.invisible⟩
    · exact background

theorem settled_discardExcept (settled : Settled s) {keep : ℕ}
    (kept : ∀ shell, s.keyWindow = some shell → shell = keep) :
    Settled (blinkDiscardBackgroundTabsExcept keep s) := by
  refine settled_mapWindows settled (fun tab => ?_) (fun tab owns live => ?_)
    (fun tab _ background => ?_)
  · split
    · rfl
    · exact shed_shell tab
  · rw [if_pos (kept tab.shell owns)]
    exact live
  · split
    · exact background
    · exact shed_background background

theorem keptShell_of_owner {shell : ℕ} (owns : s.keyWindow = some shell)
    (opened : isOpen s shell = true) : keptShell s = some shell := by
  obtain ⟨tab, mem, here⟩ := isOpen_iff.mp opened
  have some_key : (s.windows.find? fun tab => s.keyWindow = some tab.shell).isSome := by
    rw [List.find?_isSome]
    exact ⟨tab, mem, by simp [owns, here]⟩
  obtain ⟨key, first⟩ := Option.isSome_iff_exists.mp some_key
  have same := List.find?_some first
  rw [decide_eq_true_eq, owns, Option.some.injEq] at same
  rw [keptShell, keyWindowShell, first, Option.map_some, Option.some_or, same]

theorem keptShell_of_key (settled : Settled s) {shell : ℕ} (owns : s.keyWindow = some shell) :
    keptShell s = some shell := keptShell_of_owner owns (settled.keyOpen shell owns)

theorem settled_underPressure (settled : Settled s) :
    Settled (blinkDiscardBackgroundTabsUnderPressure s) := by
  unfold blinkDiscardBackgroundTabsUnderPressure
  split
  · exact settled
  · cases kept : keptShell s with
    | none => exact settled
    | some keep =>
      refine settled_discardExcept settled fun shell owns => ?_
      exact Option.some.inj ((keptShell_of_key settled owns).symm.trans kept)

theorem settled_loadURL (settled : Settled s) (guard : Footprint) (shell : ℕ) (url : GURL) :
    Settled (loadURL guard shell url s) := by
  have shed : Settled (if guard.critical then blinkDiscardBackgroundTabsUnderPressure s else s) := by
    split
    · exact settled_underPressure settled
    · exact settled
  simp only [loadURL]
  split
  · exact shed
  · exact settled_inTab shed shell fun _ => rfl

theorem settled_idleSweep (settled : Settled s) (idle : List ℕ) :
    Settled (blinkDiscardIdleBackgroundTabs idle s) := by
  refine settled_mapWindows settled (fun tab => ?_) (fun tab owns live => ?_)
    (fun tab _ background => ?_)
  · unfold TabWindow.sweep
    split_ifs
    · rfl
    · rfl
    · exact shed_shell tab
    · rfl
  · rw [if_pos (keptShell_of_key settled owns).symm]
    exact live
  · unfold TabWindow.sweep
    split_ifs
    · exact background
    · exact background
    · exact shed_background background
    · exact background

theorem settled_close (settled : Settled s) (shell : ℕ) : Settled (close shell s) := by
  have remains {owner : ℕ} (owns : (close shell s).keyWindow = some owner) :
      owner ≠ shell ∧ s.keyWindow = some owner := by
    simp only [close] at owns
    split at owns
    · cases owns
    · rename_i other
      exact ⟨fun same => other (same ▸ owns), owns⟩
  refine ⟨?_, fun owner owns => ?_, ?_⟩
  · intro key mem owns
    obtain ⟨live, others⟩ := settled.onlyKey key (List.mem_of_mem_filter mem) (remains owns).2
    exact ⟨live, fun other otherMem => others other (List.mem_of_mem_filter otherMem)⟩
  · obtain ⟨apart, owned⟩ := remains owns
    obtain ⟨tab, mem, same⟩ := isOpen_iff.mp (settled.keyOpen owner owned)
    refine isOpen_iff.mpr ⟨tab, List.mem_filter.mpr ⟨mem, ?_⟩, same⟩
    exact decide_eq_true (same ▸ apart)
  · exact fun tab mem => settled.below tab (List.mem_of_mem_filter mem)

theorem settled_forgetAuthPopup (settled : Settled s) (source : ℕ) :
    Settled (forgetAuthPopup source s) := by
  unfold forgetAuthPopup
  split
  · exact ⟨settled.onlyKey, settled.keyOpen, settled.below⟩
  · exact settled

/-- The same shells are open, in the same order. -/
structure SameShells (s t : Screen) : Prop where
  shells : t.windows.map (·.shell) = s.windows.map (·.shell)
  nextShell : t.nextShell = s.nextShell

theorem SameShells.refl (s : Screen) : SameShells s s := ⟨rfl, rfl⟩

theorem SameShells.trans {u : Screen} (first : SameShells s t) (second : SameShells t u) :
    SameShells s u :=
  ⟨second.shells.trans first.shells, second.nextShell.trans first.nextShell⟩

theorem SameShells.open_iff (same : SameShells s t) (shell : ℕ) :
    isOpen t shell = true ↔ isOpen s shell = true := by
  rw [isOpen_iff, isOpen_iff, ← List.mem_map, same.shells, List.mem_map]

theorem SameShells.below (same : SameShells s t) (below : ∀ tab ∈ s.windows, tab.shell < s.nextShell) :
    ∀ tab ∈ t.windows, tab.shell < t.nextShell := by
  intro tab mem
  have shell : tab.shell ∈ s.windows.map (·.shell) := same.shells ▸ List.mem_map_of_mem mem
  obtain ⟨before, beforeMem, eq⟩ := List.mem_map.mp shell
  rw [same.nextShell, ← eq]
  exact below before beforeMem

theorem SameShells.isEmpty_eq (same : SameShells s t) :
    t.windows.isEmpty = s.windows.isEmpty := by
  have lengths := congrArg List.length same.shells
  rw [List.length_map, List.length_map] at lengths
  rw [Bool.eq_iff_iff, List.isEmpty_iff_length_eq_zero, List.isEmpty_iff_length_eq_zero, lengths]

theorem sameShells_mapWindows (s : Screen) {f : TabWindow → TabWindow}
    (keeps : ∀ tab, (f tab).shell = tab.shell) : SameShells s (mapWindows f s) := by
  refine ⟨?_, rfl⟩
  simp only [mapWindows, List.map_map]
  exact List.map_congr_left fun tab _ => keeps tab

theorem sameShells_discardExcept (s : Screen) (keep : ℕ) :
    SameShells s (blinkDiscardBackgroundTabsExcept keep s) := by
  refine sameShells_mapWindows s fun tab => ?_
  split
  · rfl
  · exact shed_shell tab

theorem sameShells_discardBackground (s : Screen) (keep : ℕ) :
    SameShells s (blinkDiscardBackgroundTabs keep s) := by
  unfold blinkDiscardBackgroundTabs
  split
  · exact .refl s
  · exact sameShells_discardExcept s keep

theorem sameShells_discardBehindFront (s : Screen) : SameShells s (discardBehindFront s) := by
  unfold discardBehindFront
  split
  · exact .refl s
  · exact sameShells_discardBackground s _

theorem sameShells_underPressure (s : Screen) :
    SameShells s (blinkDiscardBackgroundTabsUnderPressure s) := by
  unfold blinkDiscardBackgroundTabsUnderPressure
  split
  · exact .refl s
  · split
    · exact .refl s
    · exact sameShells_discardExcept s _

theorem sameShells_loadURL (s : Screen) (guard : Footprint) (shell : ℕ) (url : GURL) :
    SameShells s (loadURL guard shell url s) := by
  have shed : SameShells s
      (if guard.critical then blinkDiscardBackgroundTabsUnderPressure s else s) := by
    split
    · exact sameShells_underPressure s
    · exact .refl s
  simp only [loadURL]
  split
  · exact shed
  · exact shed.trans (sameShells_mapWindows _
      (only_shell (TabWindow.inTab (Tab.start url)) (fun _ => rfl) shell))

theorem sameShells_reloadDiscarded (s : Screen) (guard : Footprint) (tab : TabWindow) :
    SameShells s (reloadDiscarded guard tab s) := by
  have thawed : SameShells s
      (mapWindows (TabWindow.only tab.shell (TabWindow.setPageFrozen false)) s) :=
    sameShells_mapWindows s
      (only_shell (TabWindow.setPageFrozen false) (fun _ => rfl) tab.shell)
  unfold reloadDiscarded
  split
  · exact .refl s
  · dsimp only
    split
    · exact thawed.trans (sameShells_loadURL _ guard _ _)
    · exact thawed

theorem sameShells_loadDeferred (s : Screen) (guard : Footprint) (shell : ℕ) :
    SameShells s (loadDeferred guard shell s) := by
  let erased : Screen :=
    { s with pendingRestoreURLs := s.pendingRestoreURLs.filter (·.1 ≠ shell) }
  have same : SameShells s erased := ⟨rfl, rfl⟩
  simp only [loadDeferred]
  split
  · exact same.trans (sameShells_loadURL erased guard shell _)
  · exact same

/-- A hand-over that wakes the selected tab and puts every other in the background leaves
the visible tab live from any state. -/
theorem settled_handOver (below : ∀ tab ∈ s.windows, tab.shell < s.nextShell) {shell : ℕ}
    (opened : isOpen s shell = true) {f : TabWindow → TabWindow}
    (keeps : ∀ tab, (f tab).shell = tab.shell)
    (selected : ∀ tab ∈ s.windows, tab.shell = shell → Live (f tab))
    (others : ∀ tab ∈ s.windows, tab.shell ≠ shell → Background (f tab)) :
    Settled (s |> mapWindows f |> makeKeyAndVisible shell) := by
  have entry {tab : TabWindow}
      (mem : tab ∈ (s |> mapWindows f |> makeKeyAndVisible shell).windows) :
      ∃ before ∈ s.windows, tab = TabWindow.only shell (TabWindow.setHidden false) (f before) := by
    obtain ⟨middle, middleMem, rfl⟩ := List.mem_map.mp mem
    obtain ⟨before, beforeMem, rfl⟩ := List.mem_map.mp middleMem
    exact ⟨before, beforeMem, rfl⟩
  have front (tab : TabWindow) :
      (TabWindow.only shell (TabWindow.setHidden false) (f tab)).shell = tab.shell :=
    (only_shell (TabWindow.setHidden false) (fun _ => rfl) shell (f tab)).trans (keeps tab)
  refine ⟨?_, fun owner owns => ?_, fun tab mem => ?_⟩
  · intro key mem owns
    obtain ⟨tab, tabMem, rfl⟩ := entry mem
    rw [front] at owns
    have atShell : tab.shell = shell := (Option.some.inj owns).symm
    refine ⟨?_, fun other otherMem apart => ?_⟩
    · have live := selected tab tabMem atShell
      rw [TabWindow.only, if_pos ((keeps tab).trans atShell)]
      exact ⟨rfl, live.visible, live.thawed⟩
    · obtain ⟨behind, behindMem, rfl⟩ := entry otherMem
      rw [front, front, atShell] at apart
      rw [TabWindow.only, if_neg fun same => apart ((keeps behind).symm.trans same)]
      exact others behind behindMem apart
  · cases Option.some.inj owns
    obtain ⟨tab, tabMem, atShell⟩ := isOpen_iff.mp opened
    refine isOpen_iff.mpr ⟨_, List.mem_map_of_mem (List.mem_map_of_mem tabMem), ?_⟩
    exact (front tab).trans atShell
  · obtain ⟨before, beforeMem, rfl⟩ := entry mem
    rw [front]
    exact below before beforeMem

theorem settled_showTabWindow (below : ∀ tab ∈ s.windows, tab.shell < s.nextShell)
    (guard : Footprint) {shell : ℕ} (opened : isOpen s shell = true) :
    Settled (showTabWindow guard shell s) := by
  cases found : findWindow s shell with
  | none =>
    obtain ⟨tab, mem, same⟩ := isOpen_iff.mp opened
    exact absurd (decide_eq_true same) (List.find?_eq_none.mp found tab mem)
  | some tab =>
    let loaded := s |> reloadDiscarded guard tab |> loadDeferred guard shell
    have same : SameShells s loaded := (sameShells_reloadDiscarded s guard tab).trans
      (sameShells_loadDeferred _ guard shell)
    have shown : Settled
        (loaded |> mapWindows (TabWindow.select shell) |> makeKeyAndVisible shell) := by
      refine settled_handOver (same.below below) ((same.open_iff shell).mpr opened) ?_ ?_ ?_
      · intro tab
        unfold TabWindow.select
        split <;> rfl
      · intro tab _ atShell
        rw [TabWindow.select, if_pos atShell]
        exact ⟨rfl, rfl, rfl⟩
      · intro tab _ apart
        rw [TabWindow.select, if_neg apart]
        exact ⟨rfl, rfl⟩
    rw [showTabWindow, found]
    change Settled (blinkDiscardBackgroundTabs shell _)
    unfold blinkDiscardBackgroundTabs
    split
    · exact shown
    · exact settled_discardExcept shown fun owner owns => (Option.some.inj owns).symm

end BlinkerFluid.VisibleTab
