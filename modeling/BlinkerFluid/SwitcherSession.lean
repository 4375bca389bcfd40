import BlinkerFluid.SwitcherActions

/-! The switcher in a session in which pages only open windows. If it is opened again only
when the last block has run, no row and no block ever goes back to a shell that is gone,
whatever is selected, moved and closed. -/

namespace BlinkerFluid.SwitcherSession
open WebAddress ListMove StepRun TabSwitcher SwitcherRows SwitcherActions
open TabWindows (Screen Footprint isOpen otherShell launch)

variable {s : State} {switcher : Switcher}

/-- Pages close nothing, and no block waits when the switcher is opened. -/
def Quiet (s : State) : Event → Prop
  | .showTabSwitcher _ => s.blocks = []
  | .closeContents _ => False
  | _ => True

theorem otherShell_open {screen : Screen} {shell other : ℕ}
    (found : otherShell screen shell = some other) : isOpen screen other = true := by
  obtain ⟨tab, atTab, rfl⟩ := Option.map_eq_some_iff.mp found
  exact isOpen_iff_mem.mpr (List.mem_map_of_mem (List.mem_of_find?_eq_some atTab))

def Awaits (screen : Screen) : Block → Prop
  | .onSelect switcher _ => ∀ shell ∈ switcher.shells, isOpen screen shell = true
  | .onAdd _ => True
  | .handOff replacement current => isOpen screen replacement = true ∧
    isOpen screen current = true ∧ 1 < screen.windows.length
  | .close shell => isOpen screen shell = true ∧ 1 < screen.windows.length

/-- An open switcher shows open shells and nothing waits; else at most one block does. -/
structure Undisturbed (s : State) : Prop where
  faithful : Faithful s
  rows : ∀ switcher ∈ s.switcher, AllOpen switcher s.screen ∧ s.blocks = []
  waiting : ∀ block ∈ s.blocks, Awaits s.screen block
  single : s.blocks.length ≤ 1

theorem Undisturbed.pointers (undisturbed : Undisturbed s) (shown : s.switcher = some switcher) :
    ∀ shell ∈ switcher.shells, isOpen s.screen shell = true := by
  rw [(undisturbed.faithful.beside switcher shown).pointers]
  exact (undisturbed.rows switcher shown).1

theorem blockHeeds_of_awaits {block : Block} (awaits : Awaits s.screen block) :
    BlockHeeds s block := by
  cases block with
  | onSelect switcher row => exact fun selected atRow => awaits selected (List.mem_of_getElem? atRow)
  | onAdd presenter => trivial
  | handOff replacement current => exact awaits.1
  | close shell => exact awaits

theorem stepHeeds_of_quiet (undisturbed : Undisturbed s) (event : Event) (quiet : Quiet s event) :
    StepHeeds s event := by
  cases event with
  | moveItem source target =>
    exact fun switcher shown _ _ _ => (undisturbed.rows switcher shown).1
  | closeTapped row => exact fun switcher shown _ _ _ => (undisturbed.rows switcher shown).1
  | run index guard homepage =>
    exact fun block waits =>
      blockHeeds_of_awaits (undisturbed.waiting block (List.mem_of_getElem? waits))
  | closeContents shell => exact quiet.elim
  | _ => trivial

theorem Awaits.grow {screen next : Screen} {block : Block} (awaits : Awaits screen block)
    (grown : Grown screen next) : Awaits next block := by
  cases block with
  | onSelect switcher row => exact fun shell mem => grown.isOpen_mono (awaits shell mem)
  | onAdd presenter => trivial
  | handOff replacement current =>
    exact ⟨grown.isOpen_mono awaits.1, grown.isOpen_mono awaits.2.1,
      awaits.2.2.trans_le grown.length_mono⟩
  | close shell =>
    exact ⟨grown.isOpen_mono awaits.1, awaits.2.trans_le grown.length_mono⟩

theorem undisturbed_dismiss (undisturbed : Undisturbed s) (shown : s.switcher = some switcher)
    {t : State} {block : Block} (faithful : Faithful (dismiss block t))
    (blocks : t.blocks = s.blocks) (awaits : Awaits t.screen block) :
    Undisturbed (dismiss block t) := by
  have none : t.blocks = [] := blocks.trans (undisturbed.rows switcher shown).2
  have one : (dismiss block t).blocks = [block] := congrArg (· ++ [block]) none
  refine ⟨faithful, nofun, fun waits mem => ?_, ?_⟩
  · rw [one] at mem
    cases List.mem_singleton.mp mem
    exact awaits
  · rw [one]
    exact Nat.le_refl 1

theorem undisturbed_stay (undisturbed : Undisturbed s) (shown : s.switcher = some switcher)
    {t : State} (faithful : Faithful t) (blocks : t.blocks = s.blocks)
    (rows : ∀ next ∈ t.switcher, AllOpen next t.screen) : Undisturbed t := by
  have none : t.blocks = [] := blocks.trans (undisturbed.rows switcher shown).2
  refine ⟨faithful, fun next mem => ⟨rows next mem, none⟩, ?_, ?_⟩
  · rw [none]
    exact nofun
  · rw [none]
    exact Nat.zero_le 1

theorem moveItem_rows (shown : s.switcher = some switcher) (source target : ℕ) :
    (moveItem switcher source target s).blocks = s.blocks ∧
      ∀ next ∈ (moveItem switcher source target s).switcher, AllOpen switcher s.screen →
        AllOpen next (moveItem switcher source target s).screen := by
  have perm := moveEntry_perm source target switcher.rows
  unfold moveItem
  split
  · refine ⟨rfl, fun next mem all => ?_⟩
    cases Option.some.inj (mem.symm.trans shown)
    exact all
  · obtain ⟨⟨shells, after⟩, same, blocks⟩ := onReorder_rows shown source target
    refine ⟨blocks, fun next mem all shell row => ?_⟩
    change (onReorder switcher source target s).switcher.map _ = some next at mem
    rw [after] at mem
    cases mem
    exact (same shell).trans (all shell (perm.mem_iff.mp row))

theorem undisturbed_closeTapped (undisturbed : Undisturbed s)
    (shown : s.switcher = some switcher) (row : ℕ) :
    Undisturbed (closeTapped switcher row s) := by
  have beside := undisturbed.faithful.beside switcher shown
  have all := (undisturbed.rows switcher shown).1
  have heeds : ∀ shell ∈ switcher.shells[row]?,
      s.screen.windows.length ≤ 1 ∨ shell ≠ switcher.presenter → AllOpen switcher s.screen :=
    fun _ _ _ => all
  have faithful := faithful_closeTapped undisturbed.faithful shown heeds
  unfold closeTapped at faithful ⊢
  split at faithful
  · exact undisturbed
  · rename_i shell atRow
    split at faithful
    · rename_i final
      rw [if_pos final]
      refine undisturbed_stay undisturbed shown faithful rfl fun next mem => ?_
      cases Option.some.inj (mem.symm.trans shown)
      exact all
    · rename_i more
      rw [if_neg more]
      split at faithful
      · rename_i current
        rw [if_pos current]
        unfold closeCurrent at faithful ⊢
        split at faithful
        · exact undisturbed
        · rename_i replacement found
          exact undisturbed_dismiss undisturbed shown faithful rfl
            ⟨otherShell_open found, beside.presenter, not_le.mp more⟩
      · rename_i other
        rw [if_neg other]
        rw [beside.pointers] at atRow
        exact undisturbed_stay undisturbed shown faithful rfl
          (closePointer_allOpen shown beside.nodup atRow all)

theorem undisturbed_idle (faithful : Faithful s) (noSwitcher : s.switcher = none)
    (idle : s.blocks = []) : Undisturbed s := by
  refine ⟨faithful, fun switcher mem => ?_, fun block mem => ?_, ?_⟩
  · rw [noSwitcher] at mem
    cases mem
  · rw [idle] at mem
    cases mem
  · rw [idle]
    exact Nat.zero_le 1

theorem onSelect_idle (guard : Footprint) (row : ℕ) : (onSelect guard switcher row s).switcher =
    s.switcher ∧ (onSelect guard switcher row s).blocks = s.blocks := by
  unfold onSelect
  split
  · exact ⟨rfl, rfl⟩
  · dsimp only
    split
    · exact ⟨rfl, rfl⟩
    · exact ⟨rfl, rfl⟩

theorem onAdd_idle (guard : Footprint) (presenter : ℕ) (homepage : GURL) :
    (onAdd guard presenter homepage s).switcher = s.switcher ∧
      (onAdd guard presenter homepage s).blocks = s.blocks := by
  unfold onAdd
  split
  · exact ⟨rfl, rfl⟩
  · exact ⟨rfl, rfl⟩

theorem undisturbed_run (undisturbed : Undisturbed s) {index : ℕ} {block : Block}
    (waits : s.blocks[index]? = some block) (guard : Footprint) (homepage : GURL) :
    Undisturbed (run guard homepage { s with blocks := s.blocks.eraseIdx index } block) := by
  have mem := List.mem_of_getElem? waits
  have awaits := undisturbed.waiting block mem
  have faithful := faithful_run undisturbed.faithful waits (blockHeeds_of_awaits awaits) guard
    homepage
  have noSwitcher : s.switcher = none := by
    cases shown : s.switcher with
    | none => rfl
    | some switcher =>
      rw [(undisturbed.rows switcher shown).2] at mem
      cases mem
  have emptied : s.blocks.eraseIdx index = [] := by
    obtain ⟨bound, -⟩ := List.getElem?_eq_some_iff.mp waits
    have single := undisturbed.single
    rw [← List.length_eq_zero_iff, List.length_eraseIdx_of_lt bound]
    omega
  rw [emptied] at faithful ⊢
  cases block with
  | onSelect switcher row =>
    obtain ⟨presented, blocks⟩ := onSelect_idle (s := { s with blocks := [] }) guard row
    exact undisturbed_idle faithful (presented.trans noSwitcher) blocks
  | onAdd presenter =>
    obtain ⟨presented, blocks⟩ := onAdd_idle (s := { s with blocks := [] }) guard presenter homepage
    exact undisturbed_idle faithful (presented.trans noSwitcher) blocks
  | handOff replacement current =>
    have grown := grown_of_sameShells (sameShells_showTabWindow s.screen guard replacement)
    have close : Awaits (TabWindows.showTabWindow guard replacement s.screen) (.close current) :=
      ⟨grown.isOpen_mono awaits.2.1, awaits.2.2.trans_le grown.length_mono⟩
    refine ⟨faithful, fun switcher shown => ?_, fun waits mem => ?_, Nat.le_refl 1⟩
    · cases shown.symm.trans noSwitcher
    · cases List.mem_singleton.mp mem
      exact close
  | close shell =>
    refine undisturbed_idle faithful ?_ rfl
    exact congrArg (Option.filter _) noSwitcher

theorem undisturbed_step (undisturbed : Undisturbed s) (event : Event) (quiet : Quiet s event) :
    Undisturbed (step s event) := by
  have faithful := faithful_step undisturbed.faithful event
    (stepHeeds_of_quiet undisturbed event quiet)
  cases event with
  | showTabSwitcher presenter =>
    simp only [step] at faithful ⊢
    split at faithful
    · rename_i opens
      rw [if_pos opens]
      refine ⟨faithful, fun switcher shown => ⟨fun shell mem => ?_, quiet⟩,
        undisturbed.waiting, undisturbed.single⟩
      cases shown
      exact isOpen_iff_mem.mpr mem
    · rename_i stays
      rw [if_neg stays]
      exact undisturbed
  | didSelectItem row =>
    refine inSwitcher_keeps Undisturbed undisturbed fun switcher shown => ?_
    have pointers := undisturbed.pointers shown
    unfold didSelectItem
    split
    · refine undisturbed_dismiss undisturbed shown (faithful_dismiss undisturbed.faithful _ ?_) rfl
        pointers
      rintro _ _ ⟨⟩
      exact (undisturbed.faithful.beside switcher shown).pointers
    · exact undisturbed
  | moveItem source target =>
    refine inSwitcher_keeps Undisturbed undisturbed fun switcher shown => ?_
    have all := (undisturbed.rows switcher shown).1
    obtain ⟨blocks, rows⟩ := moveItem_rows shown source target
    have moved : Faithful (moveItem switcher source target s) :=
      faithful_moveItem undisturbed.faithful shown fun _ _ _ => all
    exact undisturbed_stay undisturbed shown moved blocks fun next mem => rows next mem all
  | closeTapped row =>
    exact inSwitcher_keeps Undisturbed undisturbed fun switcher shown => undisturbed_closeTapped undisturbed shown row
  | add =>
    refine inSwitcher_keeps Undisturbed undisturbed fun switcher shown => ?_
    refine undisturbed_dismiss undisturbed shown (faithful_dismiss undisturbed.faithful _ ?_) rfl
      trivial
    rintro _ _ ⟨⟩
  | done =>
    refine ⟨faithful, fun switcher shown => ?_, undisturbed.waiting, undisturbed.single⟩
    cases shown
  | run index guard homepage =>
    simp only [step]
    split
    · exact undisturbed
    · rename_i block waits
      exact undisturbed_run undisturbed waits guard homepage
  | addNewContents guard source contents =>
    simp only [step] at faithful ⊢
    have grown := grown_addNewContents s.screen guard source contents
    split at faithful
    · rename_i received
      rw [if_pos received]
      refine ⟨faithful, fun switcher shown => ?_, fun block mem =>
        (undisturbed.waiting block mem).grow grown, undisturbed.single⟩
      obtain ⟨all, idle⟩ := undisturbed.rows switcher shown
      exact ⟨fun shell mem => grown.isOpen_mono (all shell mem), idle⟩
    · rename_i closed
      rw [if_neg closed]
      exact undisturbed
  | closeContents shell => exact quiet.elim

theorem undisturbed_start {screen : Screen} (distinct : Distinct screen) :
    Undisturbed (start screen) :=
  undisturbed_idle (faithful_start distinct) rfl rfl

theorem actsAsShown_of_quiet (guards : ℕ → Footprint) (offTheRecord : Bool) (first : GURL)
    (rest : List GURL) (events : List Event)
    (quiet : Permitted Quiet step (start (launch guards offTheRecord first rest)) events) :
    ActsAsShown (events.foldl step (start (launch guards offTheRecord first rest))).record := by
  have preserved (s : State) (event : Event) (undisturbed : Undisturbed s)
      (quiet : Quiet s event) : Undisturbed (step s event) :=
    undisturbed_step undisturbed event quiet
  have begins := undisturbed_start (distinct_launch guards offTheRecord first rest)
  exact (invariant_run preserved _ events begins quiet).faithful.asShown

example : Permitted Quiet step
    (start (launch (fun _ => .low) false OpenTabs.blankURL [OpenTabs.blankURL]))
    [.showTabSwitcher 0, .moveItem 1 0, .closeTapped 1, .run 0 .low OpenTabs.blankURL,
      .run 0 .low OpenTabs.blankURL, .showTabSwitcher 1] :=
  ⟨rfl, trivial, trivial, trivial, trivial, rfl, trivial⟩

end BlinkerFluid.SwitcherSession
