import BlinkerFluid.SwitcherRows

/-! What the switcher does is what its rows show, as long as no page closes a shell that a
row or a waiting block goes back to. The snapshot is kept up by the switcher's own actions;
nothing tells it, or a waiting block, that a shell was closed by script. -/

namespace BlinkerFluid.SwitcherActions
open WebAddress ListMove StepRun TabSwitcher SwitcherRows
open TabWindows (Screen Footprint isOpen otherShell)

variable {s : State} {switcher : Switcher}

/-- An action applies to the open shell of its row, a pointer that is used is that of an open
shell, the last shell is not closed, and the rows are in the order of the open shells. -/
def AsShown : Deed → Prop
  | .acted shown applied alive => shown = some applied ∧ alive = true
  | .used _ alive => alive = true
  | .closed _ before => 1 < before
  | .ordered rows windows => InOrder rows windows

instance : DecidablePred AsShown
  | .acted _ _ _ => inferInstanceAs (Decidable (_ ∧ _))
  | .used _ alive => inferInstanceAs (Decidable (alive = true))
  | .closed _ before => inferInstanceAs (Decidable (1 < before))
  | .ordered rows windows => inferInstanceAs (Decidable (rows = windows.filter (· ∈ rows)))

def closings (record : List Deed) : List ℕ :=
  record.filterMap fun
    | .closed shell _ => some shell
    | _ => none

/-- Every deed is as shown, and no shell is closed twice. -/
structure ActsAsShown (record : List Deed) : Prop where
  each : ∀ deed ∈ record, AsShown deed
  once : (closings record).Nodup

theorem closings_append (record deeds : List Deed) :
    closings (record ++ deeds) = closings record ++ closings deeds :=
  List.filterMap_append

/-- What holds after runs in which the switcher acts as shown. -/
structure Faithful (s : State) : Prop where
  asShown : ActsAsShown s.record
  distinct : Distinct s.screen
  gone : ∀ shell ∈ closings s.record, isOpen s.screen shell = false ∧ shell < s.screen.nextShell
  beside : ∀ switcher ∈ s.switcher, Shows switcher s.screen
  waiting : ∀ switcher row, .onSelect switcher row ∈ s.blocks → switcher.shells = switcher.rows

theorem faithful_note (faithful : Faithful s) {deeds : List Deed}
    (each : ∀ deed ∈ deeds, AsShown deed) (quiet : closings deeds = []) :
    Faithful (note deeds s) := by
  have closed : closings (s.record ++ deeds) = closings s.record := by
    rw [closings_append, quiet, List.append_nil]
  refine ⟨⟨fun deed mem => ?_, ?_⟩, faithful.distinct, ?_, faithful.beside, faithful.waiting⟩
  · exact (List.mem_append.mp mem).elim (faithful.asShown.each deed) (each deed)
  · exact closed ▸ faithful.asShown.once
  · exact closed ▸ faithful.gone

theorem faithful_grow (faithful : Faithful s) {screen : Screen} (grown : Grown s.screen screen) :
    Faithful { s with screen := screen } := by
  refine ⟨faithful.asShown, faithful.distinct.grow grown, fun shell mem => ?_,
    fun switcher mem => (faithful.beside switcher mem).grow grown, faithful.waiting⟩
  obtain ⟨gone, old⟩ := faithful.gone shell mem
  rw [← Bool.not_eq_true, isOpen_iff_mem] at gone ⊢
  cases grown with
  | same shells nextShell => exact ⟨shells ▸ gone, nextShell ▸ old⟩
  | opened shells nextShell =>
    refine ⟨fun opened => ?_, nextShell ▸ old.trans (Nat.lt_succ_self _)⟩
    rw [shells, List.mem_append, List.mem_singleton] at opened
    exact opened.elim gone old.ne

theorem faithful_close (faithful : Faithful s) {shell before : ℕ} {screen : Screen}
    (opened : isOpen s.screen shell = true) (more : 1 < before)
    (shrunk : Shrunk shell s.screen screen) :
    Faithful (s |> note [.closed shell before] |> (fun s => { s with screen := screen }) |>
      dropSwitcher) := by
  have closed : closings (s.record ++ [.closed shell before]) = closings s.record ++ [shell] :=
    closings_append s.record _
  refine ⟨⟨fun deed mem => ?_, ?_⟩, faithful.distinct.shrink shrunk, fun other mem => ?_,
    fun switcher mem => ?_, faithful.waiting⟩
  · rcases List.mem_append.mp mem with old | new
    · exact faithful.asShown.each deed old
    · cases List.mem_singleton.mp new
      exact more
  · rw [dropSwitcher, note, closed, ← List.concat_eq_append]
    refine List.Nodup.concat (fun again => ?_) faithful.asShown.once
    exact Bool.false_ne_true ((faithful.gone shell again).1.symm.trans opened)
  · have among : other ∈ closings s.record ++ [shell] := closed ▸ mem
    change isOpen screen other = false ∧ other < screen.nextShell
    rw [shrunk.isOpen_eq, shrunk.nextShell]
    rcases List.mem_append.mp among with old | new
    · obtain ⟨gone, numbered⟩ := faithful.gone other old
      exact ⟨by rw [gone, Bool.false_and], numbered⟩
    · rw [List.mem_singleton.mp new]
      refine ⟨by simp, faithful.distinct.below shell (isOpen_iff_mem.mp opened)⟩
  · obtain ⟨kept, presents⟩ := Option.mem_filter_iff.mp mem
    refine (faithful.beside switcher kept).shrink shrunk ?_
    change isOpen screen switcher.presenter = true at presents
    rw [shrunk.isOpen_eq, Bool.and_eq_true] at presents
    exact of_decide_eq_true presents.2

theorem faithful_dismiss (faithful : Faithful s) (block : Block)
    (waits : ∀ switcher row, block = .onSelect switcher row → switcher.shells = switcher.rows) :
    Faithful (dismiss block s) := by
  refine ⟨faithful.asShown, faithful.distinct, faithful.gone, nofun, fun switcher row mem => ?_⟩
  rcases List.mem_append.mp mem with old | new
  · exact faithful.waiting switcher row old
  · exact waits switcher row (List.mem_singleton.mp new).symm

theorem faithful_switcher (faithful : Faithful s) (next : Option Switcher)
    (beside : ∀ switcher ∈ next, Shows switcher s.screen) :
    Faithful { s with switcher := next } :=
  ⟨faithful.asShown, faithful.distinct, faithful.gone, beside, faithful.waiting⟩

theorem faithful_noteOrder (faithful : Faithful s)
    (all : ∀ switcher ∈ s.switcher, AllOpen switcher s.screen) : Faithful (noteOrder s) := by
  unfold noteOrder
  cases shown : s.switcher with
  | none => exact faithful_note faithful nofun rfl
  | some switcher =>
    refine faithful_note faithful (fun deed mem => ?_) rfl
    cases List.mem_singleton.mp mem
    exact (faithful.beside switcher shown).inOrder (all switcher shown)

/-- What a block needs of the shells it goes back to. -/
def BlockHeeds (s : State) : Block → Prop
  | .onSelect switcher row => ∀ selected ∈ switcher.shells[row]?, isOpen s.screen selected = true
  | .onAdd _ => True
  | .handOff replacement _ => isOpen s.screen replacement = true
  | .close shell => isOpen s.screen shell = true ∧ 1 < s.screen.windows.length

/-- Before a row is moved or closed, all rows' shells are still open, unless the action is
the close of the presenting tab; the shells of a block are open when it runs; and no page
closes the last shell, nor does a waiting block. -/
def StepHeeds (s : State) : Event → Prop
  | .moveItem source target => ∀ switcher ∈ s.switcher, source ≠ target →
    source < switcher.rows.length → target < switcher.rows.length → AllOpen switcher s.screen
  | .closeTapped row => ∀ switcher ∈ s.switcher, ∀ shell ∈ switcher.shells[row]?,
    s.screen.windows.length ≤ 1 ∨ shell ≠ switcher.presenter → AllOpen switcher s.screen
  | .run index _ _ => ∀ block ∈ s.blocks[index]?, BlockHeeds s block
  | .closeContents shell => isOpen s.screen shell = true → 1 < s.screen.windows.length
  | _ => True

def movedScreen (source target : ℕ) (screen : Screen) : Screen :=
  { screen with windows := moveEntry source target screen.windows }

def movedSwitcher (source target : ℕ) (switcher : Switcher) : Switcher :=
  { switcher with
    rows := moveEntry source target switcher.rows
    shells := moveEntry source target switcher.shells }

theorem openShells_movedScreen (source target : ℕ) (screen : Screen) :
    openShells (movedScreen source target screen) = moveEntry source target (openShells screen) := by
  rw [openShells, openShells, moveEntry_map]
  rfl

theorem isOpen_movedScreen (source target : ℕ) (screen : Screen) (shell : ℕ) :
    isOpen (movedScreen source target screen) shell = isOpen screen shell := by
  rw [Bool.eq_iff_iff, isOpen_iff_mem, isOpen_iff_mem, openShells_movedScreen]
  exact (moveEntry_perm source target _).mem_iff

/-- The handler moves pointers; the rows are moved by the view controller. -/
theorem onReorder_rows (shown : s.switcher = some switcher) (source target : ℕ) :
    (∃ shells, (onReorder switcher source target s).switcher = some { switcher with shells }) ∧
      (∀ shell, isOpen (onReorder switcher source target s).screen shell =
        isOpen s.screen shell) ∧
      (onReorder switcher source target s).blocks = s.blocks := by
  unfold onReorder
  split
  · exact ⟨⟨switcher.shells, shown⟩, fun _ => rfl, rfl⟩
  · refine ⟨⟨moveEntry source target switcher.shells, ?_⟩, fun shell => ?_, rfl⟩
    · simp only [note, shown, Option.map_some]
    · exact isOpen_movedScreen source target s.screen shell

theorem faithful_moved (faithful : Faithful s) (shown : s.switcher = some switcher)
    (all : AllOpen switcher s.screen) {source target : ℕ} (leaves : source < switcher.rows.length)
    (arrives : target < switcher.rows.length) :
    Faithful { s with
      screen := movedScreen source target s.screen
      switcher := some (movedSwitcher source target switcher) } := by
  have shells := openShells_movedScreen source target s.screen
  have perm := moveEntry_perm source target (openShells s.screen)
  refine ⟨faithful.asShown, ⟨?_, ?_⟩, fun shell mem => ?_, ?_, faithful.waiting⟩
  · exact shells ▸ perm.nodup_iff.mpr faithful.distinct.nodup
  · exact fun shell mem => faithful.distinct.below shell (perm.mem_iff.mp (shells ▸ mem))
  · rw [isOpen_movedScreen]
    exact faithful.gone shell mem
  · rintro _ ⟨⟩
    exact (faithful.beside switcher shown).move all leaves arrives

theorem faithful_moveItem (faithful : Faithful s) (shown : s.switcher = some switcher)
    {source target : ℕ} (heeds : source ≠ target → source < switcher.rows.length →
      target < switcher.rows.length → AllOpen switcher s.screen) :
    Faithful (moveItem switcher source target s) := by
  have beside := faithful.beside switcher shown
  unfold moveItem
  split
  · exact faithful
  · rename_i moves
    obtain ⟨apart, leaves, arrives⟩ := not_or.mp moves |>.imp_right not_or.mp
    rw [not_le] at leaves arrives
    have all := heeds apart leaves arrives
    obtain ⟨behind, order, unshown⟩ := beside.order all
    have longer : switcher.rows.length ≤ s.screen.windows.length := by
      rw [← openShells_length, order, List.length_append]
      exact Nat.le_add_right _ _
    have within : ¬(s.screen.windows.length ≤ source ∨ s.screen.windows.length ≤ target ∨
        switcher.shells.length ≤ source ∨ switcher.shells.length ≤ target) := by
      rw [beside.pointers]
      omega
    have place : (openShells s.screen)[source]? = switcher.rows[source]? := by
      rw [order, List.getElem?_append_left leaves]
    let acted : List Deed := (openShells s.screen)[source]?.toList.map fun moved =>
      .acted switcher.rows[source]? moved true
    have noted : Faithful (note acted s) := by
      refine faithful_note faithful (fun deed mem => ?_) ?_
      · obtain ⟨moved, atPlace, rfl⟩ := List.mem_map.mp mem
        rw [place, Option.mem_toList] at atPlace
        exact ⟨atPlace, rfl⟩
      · simp only [acted, place, List.getElem?_eq_getElem leaves]
        rfl
    have moved := faithful_moved noted shown all leaves arrives
    have reordered : (s |> onReorder switcher source target |>
        fun s => { s with switcher := s.switcher.map fun switcher =>
          { switcher with rows := moveEntry source target switcher.rows } }) =
        { note acted s with
          screen := movedScreen source target s.screen
          switcher := some (movedSwitcher source target switcher) } := by
      dsimp only
      rw [onReorder, if_neg within]
      simp only [note, shown, Option.map_some]
      rfl
    rw [reordered]
    refine faithful_noteOrder moved fun _ next => ?_
    cases Option.some.inj next
    intro shell mem
    rw [isOpen_movedScreen]
    exact all shell ((moveEntry_perm source target _).mem_iff.mp mem)

theorem faithful_closePointer (faithful : Faithful s) {shell : ℕ}
    (opened : isOpen s.screen shell = true) (more : 1 < s.screen.windows.length) :
    Faithful (closePointer shell s) := by
  have used : Faithful (note [.used shell true] s) :=
    faithful_note faithful (fun deed mem => by cases List.mem_singleton.mp mem; rfl) rfl
  have closed := faithful_close used opened more (shrunk_close s.screen shell)
  have deeds : note [.used shell (isOpen s.screen shell),
      .closed shell s.screen.windows.length] s =
      note [.closed shell s.screen.windows.length] (note [.used shell true] s) := by
    rw [opened]
    simp [note]
  rw [closePointer]
  dsimp only
  rw [deeds]
  exact closed

theorem closePointer_switcher (s : State) (shell : ℕ) : (closePointer shell s).switcher =
    s.switcher.filter fun switcher => isOpen (closePointer shell s).screen switcher.presenter := rfl

theorem closePointer_isOpen (s : State) (shell other : ℕ) :
    isOpen (closePointer shell s).screen other =
      (isOpen s.screen other && decide (other ≠ shell)) :=
  (shrunk_close s.screen shell).isOpen_eq other

theorem closePointer_gone (s : State) (shell : ℕ) :
    isOpen (closePointer shell s).screen shell = false := by
  simp [closePointer_isOpen]

theorem closePointer_keeps (shown : s.switcher = some switcher) {shell row : ℕ} {next : Switcher}
    (mem : (closePointer shell s).switcher.map (Switcher.eraseRow row) = some next) :
    (closePointer shell s).switcher = some switcher ∧ next = switcher.eraseRow row := by
  obtain ⟨kept, stays, rfl⟩ := Option.map_eq_some_iff.mp mem
  have before := (Option.filter_eq_some_iff.mp stays).1
  cases Option.some.inj (before.symm.trans shown)
  exact ⟨stays, rfl⟩

theorem closePointer_allOpen (shown : s.switcher = some switcher) (nodup : switcher.rows.Nodup)
    {row shell : ℕ} (atRow : switcher.rows[row]? = some shell) (all : AllOpen switcher s.screen) :
    ∀ next ∈ (closePointer shell s).switcher.map (Switcher.eraseRow row),
      AllOpen next (closePointer shell s).screen := by
  intro next mem other among
  obtain ⟨-, rfl⟩ := closePointer_keeps shown mem
  rw [Switcher.eraseRow, eraseIdx_eq_filter nodup atRow, List.mem_filter] at among
  refine (closePointer_isOpen s shell other).trans ?_
  rw [among.2, Bool.and_true]
  exact all other among.1

theorem faithful_closeRow (faithful : Faithful s) (shown : s.switcher = some switcher)
    {row shell : ℕ} (atRow : switcher.shells[row]? = some shell)
    (all : AllOpen switcher s.screen) (more : 1 < s.screen.windows.length) :
    Faithful (closeRow switcher row shell s) := by
  have beside := faithful.beside switcher shown
  rw [beside.pointers] at atRow
  have opened := all shell (List.mem_of_getElem? atRow)
  let acted := note [.acted switcher.rows[row]? shell (isOpen s.screen shell)] s
  have noted : Faithful acted := by
    refine faithful_note faithful (fun deed mem => ?_) rfl
    cases List.mem_singleton.mp mem
    exact ⟨atRow, opened⟩
  have closed := faithful_closePointer noted opened more
  have stillShown : acted.switcher = some switcher := shown
  refine faithful_noteOrder (faithful_switcher closed _ fun erased mem => ?_)
    (closePointer_allOpen stillShown beside.nodup atRow all)
  obtain ⟨stays, rfl⟩ := closePointer_keeps stillShown mem
  exact (closed.beside switcher stays).dropRow atRow (closePointer_gone acted shell)

theorem faithful_closeTapped (faithful : Faithful s) (shown : s.switcher = some switcher)
    {row : ℕ} (heeds : ∀ shell ∈ switcher.shells[row]?,
      s.screen.windows.length ≤ 1 ∨ shell ≠ switcher.presenter → AllOpen switcher s.screen) :
    Faithful (closeTapped switcher row s) := by
  have beside := faithful.beside switcher shown
  unfold closeTapped
  split
  · exact faithful
  · rename_i shell atRow
    split
    · rename_i final
      refine faithful_noteOrder faithful fun same mem => ?_
      cases Option.some.inj (mem.symm.trans shown)
      exact heeds shell atRow (.inl final)
    · rename_i more
      split
      · rename_i current
        unfold closeCurrent
        split
        · exact faithful
        · refine faithful_dismiss (faithful_note faithful (fun deed mem => ?_) rfl) _ nofun
          cases List.mem_singleton.mp mem
          rw [beside.pointers, current] at atRow
          exact ⟨atRow, beside.presenter⟩
      · rename_i other
        exact faithful_closeRow faithful shown atRow (heeds shell atRow (.inr other))
          (not_le.mp more)

theorem faithful_onSelect (faithful : Faithful s) (guard : Footprint)
    (pointers : switcher.shells = switcher.rows) {row : ℕ}
    (heeds : ∀ selected ∈ switcher.shells[row]?, isOpen s.screen selected = true) :
    Faithful (onSelect guard switcher row s) := by
  unfold onSelect
  split
  · exact faithful
  · rename_i selected atRow
    have opened := heeds selected atRow
    have noted : Faithful (note [.acted switcher.rows[row]? selected (isOpen s.screen selected),
        .used selected (isOpen s.screen selected)] s) := by
      refine faithful_note faithful (fun deed mem => ?_) rfl
      rcases List.mem_cons.mp mem with rfl | used
      · exact ⟨pointers ▸ atRow, opened⟩
      · cases List.mem_singleton.mp used
        exact opened
    dsimp only
    split
    · exact faithful_grow noted (grown_of_sameShells (sameShells_showTabWindow _ guard selected))
    · exact noted

theorem faithful_handOff (faithful : Faithful s) (guard : Footprint) {replacement : ℕ}
    (current : ℕ) (opened : isOpen s.screen replacement = true) :
    Faithful (handOff guard replacement current s) := by
  have noted : Faithful (note [.used replacement (isOpen s.screen replacement)] s) := by
    refine faithful_note faithful (fun deed mem => ?_) rfl
    cases List.mem_singleton.mp mem
    exact opened
  have shown := faithful_grow noted
    (grown_of_sameShells (sameShells_showTabWindow s.screen guard replacement))
  refine ⟨shown.asShown, shown.distinct, shown.gone, shown.beside, fun switcher row mem => ?_⟩
  rcases List.mem_append.mp mem with old | new
  · exact faithful.waiting switcher row old
  · cases List.mem_singleton.mp new

theorem faithful_run (faithful : Faithful s) {index : ℕ} {block : Block}
    (waits : s.blocks[index]? = some block) (heeds : BlockHeeds s block) (guard : Footprint)
    (homepage : GURL) :
    Faithful (run guard homepage { s with blocks := s.blocks.eraseIdx index } block) := by
  have taken : Faithful { s with blocks := s.blocks.eraseIdx index } :=
    ⟨faithful.asShown, faithful.distinct, faithful.gone, faithful.beside,
      fun switcher row mem => faithful.waiting switcher row (List.mem_of_mem_eraseIdx mem)⟩
  cases block with
  | onSelect switcher row =>
    exact faithful_onSelect taken guard
      (faithful.waiting switcher row (List.mem_of_getElem? waits)) heeds
  | onAdd presenter =>
    simp only [run, onAdd]
    split
    · exact faithful_grow taken (grown_openNewTab _ guard presenter homepage)
    · exact taken
  | handOff replacement current => exact faithful_handOff taken guard current heeds
  | close shell => exact faithful_closePointer taken heeds.1 heeds.2

theorem faithful_closeContents (faithful : Faithful s) {shell : ℕ}
    (heeds : isOpen s.screen shell = true → 1 < s.screen.windows.length) :
    Faithful (closeContents shell s) := by
  unfold closeContents
  split
  · rename_i opened
    exact faithful_close faithful opened (heeds opened) (shrunk_closeContents s.screen shell)
  · exact faithful

theorem inSwitcher_keeps (good : State → Prop) (start : good s)
    {action : Switcher → State → State}
    (acts : ∀ switcher, s.switcher = some switcher → good (action switcher s)) :
    good (inSwitcher action s) := by
  unfold inSwitcher
  split
  · exact start
  · rename_i switcher shown
    exact acts switcher shown

theorem faithful_step (faithful : Faithful s) (event : Event) (heeds : StepHeeds s event) :
    Faithful (step s event) := by
  cases event with
  | showTabSwitcher presenter =>
    simp only [step]
    split
    · rename_i opens
      refine faithful_switcher faithful _ ?_
      rintro _ ⟨⟩
      exact shows_snapshot faithful.distinct opens.2
    · exact faithful
  | didSelectItem row =>
    refine inSwitcher_keeps Faithful faithful fun switcher shown => ?_
    unfold didSelectItem
    split
    · refine faithful_dismiss faithful _ ?_
      rintro _ _ ⟨⟩
      exact (faithful.beside switcher shown).pointers
    · exact faithful
  | moveItem source target =>
    exact inSwitcher_keeps Faithful faithful fun switcher shown => faithful_moveItem faithful shown (heeds switcher shown)
  | closeTapped row =>
    exact inSwitcher_keeps Faithful faithful fun switcher shown => faithful_closeTapped faithful shown (heeds switcher shown)
  | add => exact inSwitcher_keeps Faithful faithful fun switcher _ => faithful_dismiss faithful _ nofun
  | done => exact faithful_switcher faithful none nofun
  | run index guard homepage =>
    simp only [step]
    split
    · exact faithful
    · rename_i block waits
      exact faithful_run faithful waits (heeds block waits) guard homepage
  | addNewContents guard source contents =>
    simp only [step]
    split
    · exact faithful_grow faithful (grown_addNewContents s.screen guard source contents)
    · exact faithful
  | closeContents shell => exact faithful_closeContents faithful heeds

theorem faithful_start {screen : Screen} (distinct : Distinct screen) : Faithful (start screen) :=
  ⟨⟨nofun, List.nodup_nil⟩, distinct, nofun, nofun, nofun⟩

end BlinkerFluid.SwitcherActions
