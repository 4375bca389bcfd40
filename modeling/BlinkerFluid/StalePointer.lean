import BlinkerFluid.SwitcherActions

/-! Runs with the tab switcher from the launch on. A step is seen to go wrong exactly if it
goes back to a shell that was closed behind the switcher's back, moves or closes a row
beside such a shell's, or closes the last tab. -/

namespace BlinkerFluid.StalePointer
open WebAddress ListMove StepRun TabSwitcher SwitcherRows SwitcherActions
open TabWindows (Screen Footprint isOpen launch)
open OpenTabs (blankURL)

variable {s : State} {switcher : Switcher}

theorem not_actsAsShown {record : List Deed} {deed : Deed} (mem : deed ∈ record)
    (wrong : ¬AsShown deed) : ¬ActsAsShown record := fun acts => wrong (acts.each deed mem)

theorem noteOrder_lost (shown : s.switcher = some switcher) {shell : ℕ}
    (row : shell ∈ switcher.rows) (gone : isOpen s.screen shell = false) :
    ¬ActsAsShown (noteOrder s).record := by
  have mem : Deed.ordered switcher.rows (openShells s.screen) ∈ (noteOrder s).record := by
    rw [noteOrder, shown]
    exact List.mem_append_right _ (List.mem_singleton.mpr rfl)
  refine not_actsAsShown mem fun inOrder => ?_
  have opened := isOpen_iff_mem.mpr (inOrder_mem inOrder shell row)
  exact Bool.false_ne_true (gone.symm.trans opened)

theorem moveItem_lost (shown : s.switcher = some switcher) {source target : ℕ}
    (apart : source ≠ target) (leaves : source < switcher.rows.length)
    (arrives : target < switcher.rows.length) {shell : ℕ} (row : shell ∈ switcher.rows)
    (gone : isOpen s.screen shell = false) :
    ¬ActsAsShown (moveItem switcher source target s).record := by
  obtain ⟨⟨shells, after⟩, same, -⟩ := onReorder_rows shown source target
  have moves : ¬(source = target ∨ switcher.rows.length ≤ source ∨
      switcher.rows.length ≤ target) := by omega
  rw [moveItem, if_neg moves]
  let next : Switcher := { switcher with
    rows := moveEntry source target switcher.rows, shells }
  have there : shell ∈ next.rows := (moveEntry_perm source target _).mem_iff.mpr row
  refine noteOrder_lost ?_ there ((same shell).trans gone)
  exact (congrArg (Option.map _) after)

theorem closePointer_lost {shell : ℕ}
    (wrong : ¬(isOpen s.screen shell = true ∧ 1 < s.screen.windows.length)) :
    ¬ActsAsShown (closePointer shell s).record := by
  by_cases opened : isOpen s.screen shell = true
  · have mem : Deed.closed shell s.screen.windows.length ∈ (closePointer shell s).record :=
      List.mem_append_right _ (List.mem_cons_of_mem _ (List.mem_singleton.mpr rfl))
    exact not_actsAsShown mem fun more => wrong ⟨opened, more⟩
  · exact not_actsAsShown (List.mem_append_right _ List.mem_cons_self) opened

theorem noteOrder_keeps (lost : ¬ActsAsShown s.record) : ¬ActsAsShown (noteOrder s).record := by
  refine fun acts => lost ⟨fun deed mem => acts.each deed (List.mem_append_left _ mem), ?_⟩
  have once := acts.once
  rw [noteOrder, note, closings_append] at once
  exact once.of_append_left

theorem closeRow_lost (faithful : Faithful s) (shown : s.switcher = some switcher)
    {row shell : ℕ} (atRow : switcher.shells[row]? = some shell)
    (other : shell ≠ switcher.presenter) {stale : ℕ} (shows : stale ∈ switcher.rows)
    (gone : isOpen s.screen stale = false) :
    ¬ActsAsShown (closeRow switcher row shell s).record := by
  have beside := faithful.beside switcher shown
  rw [beside.pointers] at atRow
  let acted := note [.acted switcher.rows[row]? shell (isOpen s.screen shell)] s
  cases opened : isOpen s.screen shell with
  | false =>
    refine noteOrder_keeps ?_
    change ¬ActsAsShown (closePointer shell acted).record
    refine closePointer_lost fun both => ?_
    exact Bool.false_ne_true (opened.symm.trans both.1)
  | true =>
    have apart : stale ≠ shell := fun same => by
      rw [same, opened] at gone
      cases gone
    have stays : (closePointer shell acted).switcher = some switcher := by
      rw [closePointer_switcher, Option.filter_eq_some_iff]
      refine ⟨shown, ?_⟩
      rw [closePointer_isOpen, decide_eq_true other.symm, Bool.and_true]
      exact beside.presenter
    have remains : stale ∈ (switcher.eraseRow row).rows := by
      rw [Switcher.eraseRow, eraseIdx_eq_filter beside.nodup atRow, List.mem_filter]
      exact ⟨shows, decide_eq_true apart⟩
    have still : isOpen (closePointer shell acted).screen stale = false := by
      rw [closePointer_isOpen]
      exact Bool.and_eq_false_imp.mpr fun was => absurd (gone.symm.trans was) Bool.false_ne_true
    exact noteOrder_lost (congrArg (Option.map _) stays) remains still

theorem not_allOpen {screen : Screen} (stale : ¬AllOpen switcher screen) :
    ∃ shell ∈ switcher.rows, isOpen screen shell = false := by
  simpa [AllOpen] using stale

theorem closeTapped_lost (faithful : Faithful s) (shown : s.switcher = some switcher)
    {row shell : ℕ} (atRow : switcher.shells[row]? = some shell)
    (stays : s.screen.windows.length ≤ 1 ∨ shell ≠ switcher.presenter)
    (stale : ¬AllOpen switcher s.screen) :
    ¬ActsAsShown (closeTapped switcher row s).record := by
  obtain ⟨other, shows, gone⟩ := not_allOpen stale
  rw [closeTapped, atRow]
  dsimp only
  split
  · exact noteOrder_lost shown shows gone
  · rename_i more
    have elsewhere := stays.resolve_left more
    rw [if_neg elsewhere]
    exact closeRow_lost faithful shown atRow elsewhere shows gone

theorem run_lost {block : Block} (wrong : ¬BlockHeeds s block) (index : ℕ) (guard : Footprint)
    (homepage : GURL) : ¬ActsAsShown
      (run guard homepage { s with blocks := s.blocks.eraseIdx index } block).record := by
  cases block with
  | onSelect switcher row =>
    simp only [BlockHeeds, not_forall] at wrong
    obtain ⟨selected, atRow, gone⟩ := wrong
    have record (s : State) : Deed.used selected (isOpen s.screen selected) ∈
        (onSelect guard switcher row s).record := by
      rw [onSelect, Option.mem_def.mp atRow]
      dsimp only
      split
      · exact List.mem_append_right _ (List.mem_cons_of_mem _ (List.mem_singleton.mpr rfl))
      · exact List.mem_append_right _ (List.mem_cons_of_mem _ (List.mem_singleton.mpr rfl))
    exact not_actsAsShown (record _) gone
  | onAdd presenter => exact absurd trivial wrong
  | handOff replacement current =>
    exact not_actsAsShown (List.mem_append_right _ (List.mem_singleton.mpr rfl)) wrong
  | close shell => exact closePointer_lost wrong

theorem closeContents_lost {shell : ℕ} (opened : isOpen s.screen shell = true)
    (last : ¬1 < s.screen.windows.length) : ¬ActsAsShown (closeContents shell s).record := by
  rw [closeContents, if_pos opened]
  exact not_actsAsShown (List.mem_append_right _ (List.mem_singleton.mpr rfl)) last

theorem step_lost (faithful : Faithful s) (event : Event) (wrong : ¬StepHeeds s event) :
    ¬ActsAsShown (step s event).record := by
  have inOpen (action : Switcher → State → State) {switcher : Switcher}
      (shown : s.switcher = some switcher) : inSwitcher action s = action switcher s := by
    rw [inSwitcher, shown]
  cases event with
  | moveItem source target =>
    simp only [StepHeeds, not_forall] at wrong
    obtain ⟨switcher, shown, apart, leaves, arrives, stale⟩ := wrong
    obtain ⟨shell, row, gone⟩ := not_allOpen stale
    rw [step, inOpen _ shown]
    exact moveItem_lost shown apart leaves arrives row gone
  | closeTapped row =>
    simp only [StepHeeds, not_forall] at wrong
    obtain ⟨switcher, shown, shell, atRow, stays, stale⟩ := wrong
    rw [step, inOpen _ shown]
    exact closeTapped_lost faithful shown atRow stays stale
  | run index guard homepage =>
    simp only [StepHeeds, not_forall] at wrong
    obtain ⟨block, waits, fails⟩ := wrong
    rw [step, Option.mem_def.mp waits]
    exact run_lost fails index guard homepage
  | closeContents shell =>
    simp only [StepHeeds, not_forall] at wrong
    obtain ⟨opened, last⟩ := wrong
    exact closeContents_lost opened last
  | _ => exact absurd trivial wrong

theorem actsAsShown_iff_stepHeeds (guards : ℕ → Footprint) (offTheRecord : Bool) (first : GURL)
    (rest : List GURL) (events : List Event) :
    (∀ past, past <+: events → ActsAsShown
      (past.foldl step (start (launch guards offTheRecord first rest))).record) ↔
      Permitted StepHeeds step (start (launch guards offTheRecord first rest)) events := by
  let acts (s : State) : Prop := ActsAsShown s.record
  have preserved (s : State) (event : Event) (faithful : Faithful s)
      (heeds : StepHeeds s event) : Faithful (step s event) := faithful_step faithful event heeds
  have sound (s : State) (faithful : Faithful s) : acts s := faithful.asShown
  have seen (s : State) (event : Event) (faithful : Faithful s) (wrong : ¬StepHeeds s event) :
      ¬acts (step s event) := step_lost faithful event wrong
  exact good_iff_permitted preserved sound seen _ events
    (faithful_start (distinct_launch guards offTheRecord first rest))

/-- A switcher opened from the first of the tabs, and what happens then. -/
def switched (tabs : ℕ) (events : List Event) : State :=
  (.showTabSwitcher 0 :: events).foldl step
    (start (launch (fun _ => .low) false blankURL (List.replicate (tabs - 1) blankURL)))

/-- The page of the second tab closes itself before its row is selected. -/
def selectedStale : List Event := [.closeContents 1, .didSelectItem 1, .run 0 .low blankURL]

/-- The page of the second of three tabs closes itself, and its row is moved to the front:
the third tab is moved. -/
def movedOther : List Event := [.closeContents 1, .moveItem 1 0]

def closedTwice : List Event :=
  [.closeTapped 0, .run 0 .low blankURL, .closeContents 0, .run 0 .low blankURL]

/-- The other tab closes itself while the close of the current tab is delayed. -/
def closedLast : List Event :=
  [.closeTapped 0, .run 0 .low blankURL, .closeContents 1, .run 0 .low blankURL]

theorem actsAsShown_counterexample :
    ¬ActsAsShown (switched 2 selectedStale).record ∧ ¬ActsAsShown (switched 3 movedOther).record ∧
      ¬ActsAsShown (switched 2 closedTwice).record ∧
      ¬ActsAsShown (switched 2 closedLast).record := by
  refine ⟨fun acts => ?_, fun acts => ?_, fun acts => ?_, fun acts => ?_⟩
  · exact absurd acts.each (by decide +kernel)
  · exact absurd acts.each (by decide +kernel)
  · exact absurd acts.once (by decide +kernel)
  · exact absurd acts.each (by decide +kernel)

end BlinkerFluid.StalePointer
