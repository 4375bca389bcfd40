import BlinkerFluid.KeyboardSettled

/-! The viewport inset against the keyboard that is shown, over every run. The inset is
exact behind every event in the runs whose steps leave nothing behind, and in no
others. -/

namespace BlinkerFluid.KeyboardInset
open StepRun Keyboard KeyboardOwner KeyboardHide KeyboardSettled

/-- Where nothing is pending the inset is the height of the shown keyboard, and a hidden
keyboard without an owner has no height. -/
def InsetAgrees (s : State) : Prop :=
  (s.pending = [] → s.viewportInset = shownHeight s) ∧
    (s.keyboardState = .hidden → s.keyboardOwner = none → s.lastKeyboardHeight = 0)

variable {s : State} {self : View}

theorem insetAgrees_of_exact (exact : InsetExact s) : InsetAgrees s := ⟨fun _ => exact.1, exact.2⟩

theorem dealloc_of_owner (owns : s.keyboardOwner = some self) :
    (dealloc self s).keyboardOwner = none := by
  unfold dealloc
  dsimp only
  split
  · rfl
  · exact if_pos owns

theorem settled_dealloc (settled : Settled s) (released : retained self s = false)
    (keeps : s.keyboardOwner = some self → s.weakReadsInDealloc = true ∨ ¬KeyboardShown s) :
    Settled (dealloc self s) := by
  have owned := owned_dealloc settled.owned released
  have removed := owned_removeView settled.owned released
  unfold dealloc at owned ⊢
  dsimp only at owned ⊢
  split_ifs at owned ⊢ with reads
  · exact settled_of_down owned ⟨rfl, rfl⟩
  · by_cases owns : s.keyboardOwner = some self
    · have unowned : (removeView self s).keyboardOwner = none := if_pos owns
      have shown : ¬KeyboardShown s := (keeps owns).resolve_left fun weak => reads ⟨owns, weak⟩
      refine ⟨owned, settled.height, ?_, settled.hidden, fun visible _ => ?_⟩
      · exact (settled.inset_of_not_shown shown).trans (shownHeight_of_unowned unowned).symm
      · by_contra height
        refine shown ((keyboardShown_iff settled.owned).mpr ⟨?_, visible, settled.real height⟩)
        rw [owns]
        exact Option.some_ne_none self
    · exact settled.congr removed (if_neg owns) rfl rfl rfl

theorem dealloc_not_exact (settled : Settled s) (owns : s.keyboardOwner = some self)
    (reads : s.weakReadsInDealloc ≠ true) (shown : KeyboardShown s) :
    ¬InsetExact (dealloc self s) := by
  have removed : dealloc self s = removeView self s := if_neg fun both => reads both.2
  have unowned := dealloc_of_owner owns
  refine not_exact_of_inset ?_ fun atEnd => ?_
  · rw [removed]
    exact settled.inset_of_shown shown
  · have owner := atEnd.1
    rw [unowned] at owner
    cases owner

theorem settled_dequeue (settled : Settled s) (index : ℕ) : Settled (dequeue index s) :=
  settled.congr (owned_dequeue settled.owned index) rfl rfl rfl rfl

theorem settled_step (settled : Settled s) (event : Event) (keeps : StepKeeps s event) :
    Settled (step s event) := by
  have owned := owned_step settled.owned event
  cases event with
  | elapse seconds => exact settled.congr owned rfl rfl rfl rfl
  | create view =>
    simp only [step] at owned ⊢
    split at owned
    · rwa [if_pos ‹_›]
    · rw [if_neg ‹_›]
      exact settled.congr owned rfl rfl rfl rfl
  | dealloc view =>
    simp only [step]
    split
    · rename_i gone
      simp only [Bool.and_eq_true, Bool.not_eq_true'] at gone
      exact settled_dealloc settled gone.2 (keeps gone.1 gone.2)
    · exact settled
  | pressesBegan => exact settled.congr owned rfl rfl rfl rfl
  | fire index uikit =>
    simp only [step]
    split
    · exact settled
    · rename_i delayed due
      have mem : delayed ∈ s.pending := List.mem_of_getElem? (Option.filter_eq_some_iff.mp due).1
      exact settled_perform (settled_dequeue settled index) uikit delayed.work
        (settled.owned.delayed delayed mem) (keeps delayed due)
  | call view call uikit =>
    simp only [step]
    split
    · exact settled_answer settled ‹_› uikit call (keeps ‹_›)
    · exact settled

theorem step_not_exact (settled : Settled s) (event : Event) (leaves : ¬StepKeeps s event) :
    ¬InsetExact (step s event) := by
  cases event with
  | elapse seconds => exact absurd trivial leaves
  | create view => exact absurd trivial leaves
  | pressesBegan => exact absurd trivial leaves
  | dealloc view =>
    simp only [StepKeeps, Classical.not_imp, not_or, not_not] at leaves
    obtain ⟨alive, released, owns, reads, shown⟩ := leaves
    have gone : (s.live view && !retained view s) = true := by rw [alive, released]; rfl
    rw [step, if_pos gone]
    exact dealloc_not_exact settled owns reads shown
  | fire index uikit =>
    simp only [StepKeeps, not_forall] at leaves
    obtain ⟨delayed, due, leaves⟩ := leaves
    have due : dueAt index s = some delayed := due
    simp only [step, due]
    exact perform_not_exact (settled_dequeue settled index) uikit delayed.work leaves
  | call view call uikit =>
    obtain ⟨alive, leaves⟩ := Classical.not_imp.mp leaves
    rw [step, if_pos alive]
    exact answer_not_exact settled uikit call leaves

theorem settled_launch (now : ℚ) (pad weakReads : Bool) : Settled (launch now pad weakReads) :=
  settled_of_down (owned_launch now pad weakReads) ⟨rfl, rfl⟩

section Runs
variable (now : ℚ) (pad weakReads : Bool) (events : List Event)

/-- The inset is exact behind every event if and only if every step meets the condition. -/
theorem insetExact_iff_stepKeeps :
    (∀ past, past <+: events → InsetExact (past.foldl step (launch now pad weakReads))) ↔
      Permitted StepKeeps step (launch now pad weakReads) events := by
  have preserved (s : State) (event : Event) (settled : Settled s) (keeps : StepKeeps s event) :
      Settled (step s event) := settled_step settled event keeps
  have sound (s : State) (settled : Settled s) : InsetExact s := settled.exact
  have seen (s : State) (event : Event) (settled : Settled s) (leaves : ¬StepKeeps s event) :
      ¬InsetExact (step s event) := step_not_exact settled event leaves
  exact good_iff_permitted preserved sound seen _ events (settled_launch now pad weakReads)

theorem insetAgrees_of_stepKeeps
    (keeps : Permitted StepKeeps step (launch now pad weakReads) events) (past : List Event)
    (before : past <+: events) : InsetAgrees (past.foldl step (launch now pad weakReads)) :=
  insetAgrees_of_exact ((insetExact_iff_stepKeeps now pad weakReads events).mpr keeps past before)

end Runs

instance (s : State) : Decidable (InsetAgrees s) :=
  inferInstanceAs (Decidable ((_ → _) ∧ (_ → _ → _)))

/-- A keyboard of height 336 comes up, and the recovery finds nothing to do. -/
def keyboardUp : List Event :=
  [.create 0,
    .call 0 (.showKeyboard ⟨100, 40⟩) { self := { after := [(0, .keyboardWillShow 336)] } },
    .elapse (1 / 20), .fire 0 {}, .elapse (2 / 5), .fire 0 {}]

/-- The keyboard is hidden, and the next field has it up again before the block of
`keyboardDidHide` runs. -/
def keyboardAgain : List Event :=
  keyboardUp ++
    [.call 0 .hideKeyboard { self := { after := [(0, .keyboardWillHide)] } }, .elapse (1 / 4),
      .call 0 (.notification .keyboardDidHide) {}, .elapse (1 / 100),
      .call 0 (.showKeyboard ⟨100, 40⟩) { self := { after := [(0, .keyboardWillShow 336)] } },
      .elapse (1 / 20), .fire 1 {}, .elapse (3 / 50), .fire 0 {}, .elapse (2 / 5), .fire 0 {}]

/-- A scroll takes the keyboard from the view before UIKit has posted its hide. -/
def scrolledAway : List Event :=
  keyboardUp ++
    [.call 0 (.touchesBegan (some ⟨0, 0⟩)) {}, .call 0 (.touchesMoved [⟨0, 20⟩]) {},
      .call 0 (.notification .keyboardWillHide) {}, .call 0 .touchesEnded {}]

theorem insetAgrees_counterexample :
    ¬InsetAgrees (keyboardAgain.foldl step (launch 10 false false)) ∧
      ¬InsetAgrees (scrolledAway.foldl step (launch 10 false false)) := by decide +kernel

theorem insetAgrees_of_stepKeeps_example :
    InsetAgrees (keyboardUp.foldl step (launch 10 false false)) :=
  insetAgrees_of_stepKeeps 10 false false keyboardUp (by decide +kernel) keyboardUp
    List.prefix_rfl

end BlinkerFluid.KeyboardInset
