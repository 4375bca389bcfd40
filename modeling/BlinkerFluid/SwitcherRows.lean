import Mathlib.Data.List.Nodup
import BlinkerFluid.TabHandOver
import BlinkerFluid.TabSwitcher

/-! The rows of the switcher beside the open shells. While new windows are appended behind
the tabs of the snapshot, a place among the rows is the same place among the open shells;
once a row's shell is gone, the places behind it are not. -/

namespace BlinkerFluid.SwitcherRows
open WebAddress TabWindows ListMove VisibleTab TabHandOver TabSwitcher

variable {s t : Screen} {switcher : Switcher}

theorem isOpen_iff_mem {shell : ℕ} : isOpen s shell = true ↔ shell ∈ openShells s := by
  rw [isOpen_iff, openShells, List.mem_map]

theorem openShells_length (s : Screen) : (openShells s).length = s.windows.length :=
  List.length_map _

/-- The open shells stay, or a new one is appended. -/
inductive Grown (s t : Screen) : Prop
  | same (shells : openShells t = openShells s) (nextShell : t.nextShell = s.nextShell)
  | opened (shells : openShells t = openShells s ++ [s.nextShell])
      (nextShell : t.nextShell = s.nextShell + 1)

theorem grown_of_sameShells (same : SameShells s t) : Grown s t := .same same.shells same.nextShell

theorem Grown.then_same {u : Screen} (grown : Grown s t) (same : SameShells t u) : Grown s u := by
  cases grown with
  | same shells nextShell =>
    exact .same (same.shells.trans shells) (same.nextShell.trans nextShell)
  | opened shells nextShell =>
    exact .opened (same.shells.trans shells) (same.nextShell.trans nextShell)

theorem Grown.after_same {u : Screen} (same : SameShells s t) (grown : Grown t u) : Grown s u := by
  have shells : openShells t = openShells s := same.shells
  cases grown with
  | same later nextShell => exact .same (later.trans shells) (nextShell.trans same.nextShell)
  | opened later nextShell =>
    rw [shells, same.nextShell] at later
    rw [same.nextShell] at nextShell
    exact .opened later nextShell

theorem Grown.isOpen_mono (grown : Grown s t) {shell : ℕ}
    (opened : isOpen s shell = true) : isOpen t shell = true := by
  rw [isOpen_iff_mem] at opened ⊢
  cases grown with
  | same shells _ => exact shells ▸ opened
  | opened shells _ => exact shells ▸ List.mem_append_left _ opened

theorem Grown.length_mono (grown : Grown s t) :
    s.windows.length ≤ t.windows.length := by
  rw [← openShells_length, ← openShells_length t]
  cases grown with
  | same shells _ => rw [shells]
  | opened shells _ =>
    rw [shells, List.length_append]
    exact Nat.le_add_right _ _

theorem grown_createShell (offTheRecord : Bool) (s : Screen) :
    Grown s (createShell offTheRecord s) :=
  .opened (List.map_append ..) rfl

theorem sameShells_makeKeyAndVisible (s : Screen) (shell : ℕ) :
    SameShells s (makeKeyAndVisible shell s) := by
  have mapped := sameShells_mapWindows s
    (only_shell (TabWindow.setHidden false) (fun _ => rfl) shell)
  exact ⟨mapped.shells, mapped.nextShell⟩

theorem sameShells_showTabWindow (s : Screen) (guard : Footprint) (shell : ℕ) :
    SameShells s (showTabWindow guard shell s) := by
  unfold showTabWindow
  split
  · exact .refl s
  · rename_i tab _
    have select (tab : TabWindow) : (TabWindow.select shell tab).shell = tab.shell := by
      unfold TabWindow.select
      split <;> rfl
    exact (sameShells_reloadDiscarded s guard tab).trans <|
      (sameShells_loadDeferred _ guard shell).trans <| (sameShells_mapWindows _ select).trans <|
      (sameShells_makeKeyAndVisible _ shell).trans (sameShells_discardBackground _ shell)

theorem sameShells_present (s : Screen) (shell : ℕ) :
    SameShells s (blinkPresentShellWindow shell s) := by
  have present (tab : TabWindow) : (TabWindow.present shell tab).shell = tab.shell := by
    unfold TabWindow.present
    split <;> rfl
  exact (sameShells_mapWindows s present).trans (sameShells_makeKeyAndVisible _ shell)

theorem sameShells_hide (s : Screen) (shell : ℕ) :
    SameShells s (blinkHideShellWindow shell s) :=
  sameShells_mapWindows s
    (only_shell (fun tab => (tab.setHidden true).wasHidden) (fun _ => rfl) shell)

theorem grown_addNewContents (s : Screen) (guard : Footprint) (source : ℕ)
    (contents : NewContents) : Grown s (addNewContents guard source contents s) := by
  unfold addNewContents
  dsimp only
  split
  · let tracked : Screen :=
      { s with authPopupContents := some s.nextShell, authPopupOpener := some source }
    have same : SameShells s tracked := ⟨rfl, rfl⟩
    exact .after_same same ((grown_createShell _ tracked).then_same (sameShells_present _ _))
  · split
    · exact .same rfl rfl
    · split
      · exact (grown_createShell _ s).then_same (sameShells_hide _ _)
      · exact (grown_createShell _ s).then_same (sameShells_present _ _)

theorem grown_createNewWindow (s : Screen) (guard : Footprint) (offTheRecord : Bool) (url : GURL) :
    Grown s (createNewWindow guard offTheRecord url s).1 := by
  have same := sameShells_discardBehindFront s
  simp only [createNewWindow]
  split
  · exact grown_of_sameShells same
  · have created := Grown.after_same same (grown_createShell offTheRecord (discardBehindFront s))
    dsimp only
    split
    · exact created
    · exact created.then_same (sameShells_loadURL _ guard _ url)

theorem grown_openNewTab (s : Screen) (guard : Footprint) (shell : ℕ) (url : GURL) :
    Grown s (openNewTab guard shell url s) := by
  have grown := grown_createNewWindow s guard (offTheRecordOf s shell) url
  unfold openNewTab
  split
  · rename_i created refused
    rw [refused] at grown
    exact grown
  · rename_i opened shown created
    rw [created] at grown
    exact grown.then_same (sameShells_showTabWindow _ guard _)

structure Shrunk (shell : ℕ) (s t : Screen) : Prop where
  shells : openShells t = (openShells s).filter (· ≠ shell)
  nextShell : t.nextShell = s.nextShell

theorem shrunk_close (s : Screen) (shell : ℕ) : Shrunk shell s (close shell s) := by
  refine ⟨?_, rfl⟩
  rw [openShells, openShells, List.filter_map]
  rfl

theorem shrunk_closeContents (s : Screen) (shell : ℕ) :
    Shrunk shell s (TabWindows.closeContents shell s) := by
  have activated : SameShells s (blinkShellWillCloseReactivate shell s.authPopupOpener s) := by
    unfold blinkShellWillCloseReactivate
    split
    · exact .refl s
    · split
      · exact .refl s
      · exact sameShells_makeKeyAndVisible s _
  have forgotten (s : Screen) : SameShells s (forgetAuthPopup shell s) := by
    unfold forgetAuthPopup
    split
    · exact ⟨rfl, rfl⟩
    · exact .refl s
  have before := activated.trans (forgotten _)
  have closed := shrunk_close (forgetAuthPopup shell
    (blinkShellWillCloseReactivate shell s.authPopupOpener s)) shell
  have shells : openShells _ = openShells s := before.shells
  exact ⟨closed.shells.trans (congrArg _ shells), closed.nextShell.trans before.nextShell⟩

/-- No shell is open twice, and new ones are numbered on. -/
structure Distinct (s : Screen) : Prop where
  nodup : (openShells s).Nodup
  below : ∀ shell ∈ openShells s, shell < s.nextShell

theorem Distinct.grow (distinct : Distinct s) (grown : Grown s t) : Distinct t := by
  cases grown with
  | same shells nextShell =>
    refine ⟨shells ▸ distinct.nodup, ?_⟩
    rw [shells, nextShell]
    exact distinct.below
  | opened shells nextShell =>
    rw [← List.concat_eq_append] at shells
    refine ⟨?_, ?_⟩
    · rw [shells]
      exact List.Nodup.concat (fun mem => (distinct.below _ mem).false) distinct.nodup
    · rw [shells, nextShell, List.concat_eq_append]
      intro shell mem
      rcases List.mem_append.mp mem with old | new
      · exact (distinct.below shell old).trans (Nat.lt_succ_self _)
      · rw [List.mem_singleton.mp new]
        exact Nat.lt_succ_self _

theorem Distinct.shrink (distinct : Distinct s) {shell : ℕ} (shrunk : Shrunk shell s t) :
    Distinct t := by
  refine ⟨?_, ?_⟩
  · rw [shrunk.shells]
    exact distinct.nodup.filter _
  · rw [shrunk.shells, shrunk.nextShell]
    exact fun other mem => distinct.below other (List.mem_of_mem_filter mem)

theorem grown_restoreTab (s : Screen) (guard : Footprint) (offTheRecord : Bool) (url : GURL) :
    Grown s (restoreTab guard offTheRecord url s) := by
  have grown := grown_createNewWindow s guard offTheRecord OpenTabs.blankURL
  unfold restoreTab
  split
  · rename_i created refused
    rw [refused] at grown
    exact grown
  · rename_i opened shell created
    rw [created] at grown
    have deferred : SameShells opened
        (if url.isAboutBlank then opened else emplacePendingRestoreURL shell url opened) := by
      unfold emplacePendingRestoreURL
      split_ifs
      · exact .refl opened
      · exact .refl opened
      · exact ⟨rfl, rfl⟩
    exact grown.then_same (deferred.trans (sameShells_mapWindows _
      (only_shell TabWindow.wasHidden (fun _ => rfl) shell)))

theorem distinct_launch (guards : ℕ → Footprint) (offTheRecord : Bool) (first : GURL)
    (rest : List GURL) : Distinct (launch guards offTheRecord first rest) := by
  have empty : Distinct ⟨[], [], none, none, none, 0⟩ := ⟨List.nodup_nil, nofun⟩
  have opened := empty.grow (grown_createNewWindow _ (guards 0) offTheRecord first)
  have turn (s : Screen) (entry : GURL × ℕ) (distinct : Distinct s) :
      Distinct (restoreTab (guards (entry.2 + 1)) offTheRecord entry.1 s) :=
    distinct.grow (grown_restoreTab s (guards (entry.2 + 1)) offTheRecord entry.1)
  have restored := StepRun.invariant_always turn _ rest.zipIdx opened
  simp only [launch]
  split
  · exact restored
  · exact restored.grow (grown_of_sameShells (sameShells_makeKeyAndVisible _ _))

/-- The rows are the pointers; and the open shells are those of the rows that are open, in
the order of the rows, and behind them the shells that no row shows. -/
structure Shows (switcher : Switcher) (s : Screen) : Prop where
  pointers : switcher.shells = switcher.rows
  nodup : switcher.rows.Nodup
  below : ∀ shell ∈ switcher.rows, shell < s.nextShell
  presenter : isOpen s switcher.presenter = true
  aligned : ∃ behind, openShells s = switcher.rows.filter (isOpen s ·) ++ behind ∧
    ∀ shell ∈ behind, shell ∉ switcher.rows

def AllOpen (switcher : Switcher) (s : Screen) : Prop :=
  ∀ shell ∈ switcher.rows, isOpen s shell = true

theorem shows_snapshot (distinct : Distinct s) {presenter : ℕ}
    (opened : isOpen s presenter = true) :
    Shows ⟨presenter, openShells s, openShells s⟩ s := by
  refine ⟨rfl, distinct.nodup, distinct.below, opened, [], ?_, nofun⟩
  rw [List.append_nil, List.filter_eq_self.mpr fun shell mem => isOpen_iff_mem.mpr mem]

theorem Shows.grow (beside : Shows switcher s) (grown : Grown s t) : Shows switcher t := by
  obtain ⟨behind, order, unshown⟩ := beside.aligned
  cases grown with
  | same shells nextShell =>
    have same (shell : ℕ) : isOpen t shell = isOpen s shell := by
      rw [Bool.eq_iff_iff, isOpen_iff_mem, isOpen_iff_mem, shells]
    refine ⟨beside.pointers, beside.nodup, nextShell ▸ beside.below, ?_, behind, ?_, unshown⟩
    · rw [same, beside.presenter]
    · simp only [shells, same]
      exact order
  | opened shells nextShell =>
    have same (shell : ℕ) (old : shell < s.nextShell) : isOpen t shell = isOpen s shell := by
      rw [Bool.eq_iff_iff, isOpen_iff_mem, isOpen_iff_mem, shells, List.mem_append,
        List.mem_singleton]
      exact or_iff_left old.ne
    refine ⟨beside.pointers, beside.nodup, fun shell mem => ?_, ?_, behind ++ [s.nextShell], ?_, ?_⟩
    · rw [nextShell]
      exact (beside.below shell mem).trans (Nat.lt_succ_self _)
    · rw [isOpen_iff_mem, shells]
      exact List.mem_append_left _ (isOpen_iff_mem.mp beside.presenter)
    · rw [shells, ← List.append_assoc, List.filter_congr fun shell mem =>
        same shell (beside.below shell mem)]
      exact congrArg (· ++ [s.nextShell]) order
    · intro shell mem
      rcases List.mem_append.mp mem with old | new
      · exact unshown shell old
      · rw [List.mem_singleton.mp new]
        exact fun mem' => (beside.below _ mem').false

theorem Shrunk.isOpen_eq {shell : ℕ} (shrunk : Shrunk shell s t) (other : ℕ) :
    isOpen t other = (isOpen s other && decide (other ≠ shell)) := by
  rw [Bool.eq_iff_iff, isOpen_iff_mem, shrunk.shells, List.mem_filter, ← isOpen_iff_mem,
    Bool.and_eq_true]

theorem Shows.shrink (beside : Shows switcher s) {shell : ℕ} (shrunk : Shrunk shell s t)
    (other : switcher.presenter ≠ shell) : Shows switcher t := by
  obtain ⟨behind, order, unshown⟩ := beside.aligned
  refine ⟨beside.pointers, beside.nodup, ?_, ?_, behind.filter (· ≠ shell), ?_, ?_⟩
  · rw [shrunk.nextShell]
    exact beside.below
  · rw [shrunk.isOpen_eq, beside.presenter, decide_eq_true other]
    rfl
  · rw [shrunk.shells, order, List.filter_append, List.filter_filter]
    refine congrArg (· ++ _) (List.filter_congr fun row _ => ?_)
    rw [shrunk.isOpen_eq, Bool.and_comm]
  · exact fun row mem => unshown row (List.mem_of_mem_filter mem)

/-- While every row's shell is open, the rows are where the open shells start. -/
theorem Shows.order (beside : Shows switcher s) (all : AllOpen switcher s) :
    ∃ behind, openShells s = switcher.rows ++ behind ∧
      ∀ shell ∈ behind, shell ∉ switcher.rows := by
  obtain ⟨behind, order, unshown⟩ := beside.aligned
  exact ⟨behind, by rwa [List.filter_eq_self.mpr all] at order, unshown⟩

/-- The row order is that of the open shells, restricted to the rows. -/
def InOrder (rows windows : List ℕ) : Prop := rows = windows.filter (· ∈ rows)

theorem Shows.inOrder (beside : Shows switcher s) (all : AllOpen switcher s) :
    InOrder switcher.rows (openShells s) := by
  obtain ⟨behind, order, unshown⟩ := beside.order all
  rw [InOrder, order, List.filter_append, List.filter_eq_self.mpr fun row mem =>
    decide_eq_true mem, List.filter_eq_nil_iff.mpr fun row mem => by simpa using unshown row mem,
    List.append_nil]

theorem inOrder_mem {rows windows : List ℕ} (inOrder : InOrder rows windows) :
    ∀ row ∈ rows, row ∈ windows := by
  intro row mem
  rw [inOrder] at mem
  exact List.mem_of_mem_filter mem

theorem eraseIdx_eq_filter {rows : List ℕ} (nodup : rows.Nodup) {row shell : ℕ}
    (shown : rows[row]? = some shell) : rows.eraseIdx row = rows.filter (· ≠ shell) := by
  obtain ⟨bound, rfl⟩ := List.getElem?_eq_some_iff.mp shown
  rw [← nodup.erase_getElem row bound, nodup.erase_eq_filter]
  exact List.filter_congr fun other _ => by simp [bne, beq_eq_decide]

theorem Shows.dropRow (beside : Shows switcher s) {row shell : ℕ}
    (shown : switcher.rows[row]? = some shell) (gone : isOpen s shell = false) :
    Shows (switcher.eraseRow row) s := by
  obtain ⟨behind, order, unshown⟩ := beside.aligned
  have rows := eraseIdx_eq_filter beside.nodup shown
  refine ⟨congrArg (·.eraseIdx row) beside.pointers, beside.nodup.eraseIdx row, ?_,
    beside.presenter, behind, ?_, ?_⟩
  · exact fun other mem => beside.below other (List.mem_of_mem_eraseIdx mem)
  · rw [Switcher.eraseRow, rows, List.filter_filter, order]
    refine congrArg (· ++ behind) (List.filter_congr fun other _ => ?_)
    by_cases same : other = shell
    · rw [same, gone]
      rfl
    · rw [decide_eq_true same, Bool.and_true]
  · exact fun other mem row => unshown other mem (List.mem_of_mem_eraseIdx row)

theorem Shows.move (beside : Shows switcher s) (all : AllOpen switcher s) {source target : ℕ}
    (leaves : source < switcher.rows.length) (arrives : target < switcher.rows.length) :
    Shows { switcher with
      rows := moveEntry source target switcher.rows
      shells := moveEntry source target switcher.shells }
      { s with windows := moveEntry source target s.windows } := by
  obtain ⟨behind, order, unshown⟩ := beside.order all
  let moved : Screen := { s with windows := moveEntry source target s.windows }
  have perm := moveEntry_perm source target switcher.rows
  have shells : openShells moved = moveEntry source target switcher.rows ++ behind := by
    rw [openShells, ← moveEntry_map]
    exact (congrArg _ order).trans (moveEntry_append _ _ leaves arrives)
  have same (shell : ℕ) : isOpen moved shell = isOpen s shell := by
    rw [Bool.eq_iff_iff, isOpen_iff_mem, isOpen_iff_mem, shells, order]
    exact (perm.append_right behind).mem_iff
  refine ⟨congrArg (moveEntry source target) beside.pointers, perm.nodup_iff.mpr beside.nodup,
    fun shell mem => beside.below shell (perm.mem_iff.mp mem),
    (same _).trans beside.presenter, behind, ?_,
    fun shell mem row => unshown shell mem (perm.mem_iff.mp row)⟩
  rw [List.filter_eq_self.mpr fun shell mem => (same shell).trans (all shell (perm.mem_iff.mp mem))]
  exact shells

end BlinkerFluid.SwitcherRows
