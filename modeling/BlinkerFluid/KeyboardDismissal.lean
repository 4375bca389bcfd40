import Mathlib.Tactic.Linarith
import BlinkerFluid.KeyboardCooldown

/-! A dismissed keyboard stays dismissed until a request comes a cooldown later. Only the
request asks for the cooldown; a retry scheduled earlier presents the keyboard without
it, and the hide of a previous owner counts as a dismissal in the middle of a request. -/

namespace BlinkerFluid.KeyboardDismissal
open StepRun Keyboard KeyboardRecord KeyboardCooldown

variable {s t : State} {self : View}

/-- The first hide to reach a visible previous owner is a will-hide. -/
def DismissesPrevious (self : View) (uikit : Responder) (s : State) : Prop :=
  ∃ owner, s.keyboardOwner = some owner ∧ owner ≠ self ∧ s.keyboardState = .visible ∧
    ((uikit.before ++ uikit.after).find? (isHideOf owner)).map Prod.snd = some .keyboardWillHide

theorem resign_visible {owner : View} (owns : s.keyboardOwner = some owner)
    (visible : s.keyboardState = .visible) (uikit : Responder)
    (closed : unanswered s.record = none) :
    unanswered (resignFirstResponder owner uikit s).record = none ↔
      ((uikit.before ++ uikit.after).find? (isHideOf owner)).map Prod.snd ≠
        some .keyboardWillHide := by
  have before := deliver_visible owns visible uikit.before
  rw [List.find?_append]
  cases first : uikit.before.find? (isHideOf owner) with
  | some hide =>
    rw [first] at before
    dsimp only at before
    split at before
    · rename_i willHide
      refine iff_of_false ?_ (not_not.mpr (by simp [willHide]))
      refine ((same_leaveResponder _ owner uikit).follows.trans
        (follows_deliver uikit.after _)).unanswered_ne before
    · rename_i didHide
      refine iff_of_true ?_ (by simpa using didHide)
      have left := same_leaveResponder (deliver uikit.before s) owner uikit
      have unowned : (leaveResponder owner uikit (deliver uikit.before s)).keyboardOwner = none :=
        (leaveResponder_keyboardOwner owner uikit _).trans before.2
      rw [resignFirstResponder, deliver_unowned unowned, left.record, before.1.record]
      exact closed
  | none =>
    rw [first] at before
    obtain ⟨same, atOwner, atState⟩ := before
    have left := same_leaveResponder (deliver uikit.before s) owner uikit
    have after := deliver_visible (s := leaveResponder owner uikit (deliver uikit.before s))
      ((leaveResponder_keyboardOwner owner uikit _).trans atOwner)
      ((leaveResponder_keyboardState owner uikit _).trans atState) uikit.after
    rw [Option.none_or]
    cases second : uikit.after.find? (isHideOf owner) with
    | none =>
      rw [second] at after
      refine iff_of_true ?_ (by simp)
      rw [resignFirstResponder, after.1.record, left.record, same.record]
      exact closed
    | some hide =>
      rw [second] at after
      dsimp only at after
      split at after
      · rename_i willHide
        exact iff_of_false after (not_not.mpr (by simp [willHide]))
      · rename_i didHide
        refine iff_of_true ?_ (by simpa using didHide)
        rw [resignFirstResponder, after.1.record, left.record, same.record]
        exact closed

/-- Making way for the next owner is a dismissal exactly where a visible previous owner
sees the keyboard hide. -/
theorem release_unanswered (uikit : Answers) (closed : unanswered s.record = none) :
    unanswered (releasePreviousOwner self uikit s).record = none ↔
      ¬DismissesPrevious self uikit.previous s := by
  cases atOwner : s.keyboardOwner with
  | none =>
    have stays : releasePreviousOwner self uikit s = s := by
      rw [releasePreviousOwner, atOwner]
    rw [stays]
    exact iff_of_true closed fun ⟨owner, owns, _⟩ => by simp [atOwner] at owns
  | some owner =>
    by_cases same : owner = self
    · have stays : releasePreviousOwner self uikit s = s := by
        rw [releasePreviousOwner, atOwner]
        exact if_pos same
      rw [stays]
      refine iff_of_true closed fun ⟨other, owns, apart, _⟩ => apart ?_
      exact (Option.some.inj (owns.symm.trans atOwner)).trans same
    · have record : (releasePreviousOwner self uikit s).record =
          (resignFirstResponder owner uikit.previous s).record := by
        rw [releasePreviousOwner, atOwner]
        dsimp only
        rw [if_neg same]
        exact (same_setIsEditable _ owner false).record
      rw [record]
      by_cases visible : s.keyboardState = .visible
      · rw [resign_visible atOwner visible uikit.previous closed]
        simp [DismissesPrevious, atOwner, same, visible]
      · refine iff_of_true ?_ fun ⟨_, _, _, shown, _⟩ => visible shown
        rw [(resign_not_visible visible owner uikit.previous).record]
        exact closed

theorem release_isFirstResponder (s : State) (self : View) (uikit : Answers) :
    (releasePreviousOwner self uikit s).isFirstResponder self = s.isFirstResponder self := by
  unfold releasePreviousOwner
  split
  · rfl
  · rename_i owner _
    split
    · rfl
    · rename_i other
      have left : (leaveResponder owner uikit.previous
          (deliver uikit.previous.before s)).isFirstResponder self = s.isFirstResponder self := by
        rw [leaveResponder]
        split
        · exact (Function.update_of_ne (Ne.symm other) _ _).trans
            (congrFun (deliver_isFirstResponder _ s) self)
        · rw [deliver_isFirstResponder]
      refine (congrFun (setIsEditable_isFirstResponder owner false _) self).trans ?_
      rw [resignFirstResponder, deliver_isFirstResponder]
      exact left

theorem cooled_takeResponder (cooled : Cooled s) (self : View) (uikit : Responder) :
    Cooled (takeResponder self uikit s) := by
  have none : Cooled { s with record := s.record ++ [] } := by
    rw [List.append_nil]
    exact cooled
  have one : Cooled { s with record := s.record ++ [.responder self] } := by
    refine ⟨ordered_snoc cooled.ordered _ nofun, fun time mem => ?_, fun time opened => ?_⟩
    · rcases List.mem_append.mp mem with mem | mem
      · exact cooled.past time mem
      · cases List.mem_singleton.mp mem
    · rw [unanswered_snoc] at opened
      exact cooled.armed time opened
  unfold takeResponder
  split
  · split
    · exact none.congr ⟨rfl, rfl, rfl, rfl⟩
    · exact one.congr ⟨rfl, rfl, rfl, rfl⟩
  · exact cooled

theorem respects_takeResponder (cooled : Cooled s) (self : View) (uikit : Responder) :
    Respects (takeResponder self uikit s).record ↔ Respects s.record ∧
      (uikit.accepted = true → s.isFirstResponder self = false → unanswered s.record = none) := by
  unfold takeResponder
  cases uikit.accepted with
  | false => simp
  | true =>
    cases s.isFirstResponder self with
    | true => simp
    | false =>
      simp only [if_true, Bool.false_eq_true, if_false, true_implies]
      exact respects_snoc_responder cooled.ordered self

theorem become_respects (cooled : Cooled s) (visible : s.keyboardState ≠ .visible) (self : View)
    (uikit : Responder) :
    Cooled (becomeFirstResponder self uikit s) ∧
      (Respects (becomeFirstResponder self uikit s).record ↔ Respects s.record ∧
        (uikit.accepted = true → s.isFirstResponder self = false →
          unanswered s.record = none)) := by
  have before := (deliver_not_visible visible uikit.before).1
  have cooled' := cooled.congr before
  have after := follows_deliver uikit.after (takeResponder self uikit (deliver uikit.before s))
  refine ⟨(cooled_takeResponder cooled' self uikit).follows after, ?_⟩
  rw [becomeFirstResponder, after.respects_iff, respects_takeResponder cooled',
    deliver_isFirstResponder, before.record]

theorem claimKeyboard_not_visible (s : State) (self : View) :
    (claimKeyboard self s).keyboardState ≠ .visible := by
  have state : (claimKeyboard self s).keyboardState = .presenting :=
    setIsEditable_keyboardState self true _
  rw [state]
  decide

theorem claimKeyboard_isFirstResponder (s : State) (self : View) :
    (claimKeyboard self s).isFirstResponder = s.isFirstResponder :=
  setIsEditable_isFirstResponder self true _

theorem retry_respects (cooled : Cooled s) (self : View) (uikit : Answers) :
    Cooled (retryKeyboardAfterAccessoryOnlyFailure self uikit s) ∧
      (Respects (retryKeyboardAfterAccessoryOnlyFailure self uikit s).record ↔
        Respects s.record ∧ (uikit.self.accepted = true → s.isFirstResponder self = false →
          unanswered s.record = none)) := by
  have claimed := same_claimKeyboard s self
  obtain ⟨became, respects⟩ := become_respects (cooled.congr claimed)
    (claimKeyboard_not_visible s self) self uikit.self
  have after : Follows (becomeFirstResponder self uikit.self (claimKeyboard self s))
      (retryKeyboardAfterAccessoryOnlyFailure self uikit s) :=
    (((follows_deliver uikit.reload _).trans
      (same_editableIfPresented _ self uikit.self).follows).trans
      (same_disownUnlessPresented _ self uikit.self).follows).trans
      (same_performAfterDelay _ self _ _).follows
  refine ⟨became.follows after, ?_⟩
  rw [after.respects_iff, respects, claimed.record, claimKeyboard_isFirstResponder]

theorem startFocusSession_respects (cooled : Cooled s) (self : View) (uikit : Answers) :
    Cooled (startFocusSession self uikit s) ∧
      (Respects (startFocusSession self uikit s).record ↔
        Respects s.record ∧ (uikit.self.accepted = true → s.isFirstResponder self = false →
          unanswered s.record = none)) := by
  have begun := same_beginSession s self
  obtain ⟨became, respects⟩ := become_respects (cooled.congr begun)
    (claimKeyboard_not_visible _ self) self uikit.self
  have responder : (beginSession self s).isFirstResponder = s.isFirstResponder :=
    claimKeyboard_isFirstResponder _ self
  have after : Follows (becomeFirstResponder self uikit.self (beginSession self s))
      (startFocusSession self uikit s) :=
    (((same_abandonUnlessPresented _ self uikit.self).follows.trans
      (follows_deliver uikit.reload _)).trans
      (same_editableIfPresented _ self uikit.self).follows).trans
      (same_performAfterDelay _ self _ _).follows
  refine ⟨became.follows after, ?_⟩
  rw [after.respects_iff, respects, begun.record, responder]

theorem cooled_noteRequest (cooled : Cooled s) : Cooled (noteRequest s) := by
  refine ⟨ordered_snoc cooled.ordered _ nofun, fun time mem => ?_, fun time opened => ?_⟩
  · rcases List.mem_append.mp mem with mem | mem
    · exact cooled.past time mem
    · cases List.mem_singleton.mp mem
  · rw [noteRequest, unanswered_snoc] at opened
    exact cooled.armed time (Option.filter_eq_some_iff.mp opened).1

theorem respects_noteRequest (s : State) :
    Respects (noteRequest s).record ↔ Respects s.record := by
  rw [noteRequest, respects_snoc]
  exact and_iff_left nofun

theorem noteRequest_answers (cooled : Cooled s) (warm : requestCoolingDown s = false) :
    unanswered (noteRequest s).record = none := by
  rw [noteRequest, unanswered_snoc]
  cases opened : unanswered s.record with
  | none => rfl
  | some time =>
    obtain ⟨dismissed, atTime⟩ := cooled.armed time opened
    simp only [requestCoolingDown, dismissed, atTime, Bool.true_and, decide_eq_false_iff_not,
      not_lt] at warm
    have late : time + keyboardDismissCooldown ≤ s.now := by linarith
    simpa [answerOccurrence] using late

/-- The request presents the keyboard only where it does not dismiss that of a previous
owner, or UIKit refuses. -/
def ShowRespects (self : View) (bounds : CGSize) (uikit : Answers) (s : State) : Prop :=
  requestSuppressed self bounds s = false → requestCoolingDown s = false →
    requestRefreshes self s = false → uikit.self.accepted = true →
    ¬DismissesPrevious self uikit.previous s

theorem showKeyboard_respects (cooled : Cooled s) (self : View) (bounds : CGSize)
    (uikit : Answers) :
    Cooled (showKeyboard self bounds uikit s) ∧
      (Respects (showKeyboard self bounds uikit s).record ↔
        Respects s.record ∧ ShowRespects self bounds uikit s) := by
  have requested := cooled_noteRequest cooled
  unfold showKeyboard ShowRespects
  cases suppressed : requestSuppressed self bounds s with
  | true =>
    have same := same_setIsEditable (noteRequest s) self false
    refine ⟨requested.congr same, ?_⟩
    rw [if_pos rfl, same.record, respects_noteRequest]
    exact (and_iff_left nofun).symm
  | false =>
    rw [if_neg Bool.false_ne_true]
    cases cooling : requestCoolingDown s with
    | true =>
      refine ⟨requested, ?_⟩
      rw [if_pos rfl, respects_noteRequest]
      exact (and_iff_left fun _ => nofun).symm
    | false =>
      rw [if_neg Bool.false_ne_true]
      have closed := noteRequest_answers cooled cooling
      have warm : Cooled (endCooldown (noteRequest s)) :=
        ⟨requested.ordered, requested.past, fun time opened =>
          absurd (closed.symm.trans opened) nofun⟩
      cases refreshes : requestRefreshes self s with
      | true =>
        have same := (same_refreshRelocationAfterTextCommit (endCooldown (noteRequest s))).trans
          (same_setIsEditable _ self true)
        refine ⟨warm.congr same, ?_⟩
        rw [if_pos rfl, same.record]
        exact (respects_noteRequest s).trans (and_iff_left fun _ _ => nofun).symm
      | false =>
        rw [if_neg Bool.false_ne_true]
        have released := follows_releasePreviousOwner (endCooldown (noteRequest s)) self uikit
        obtain ⟨started, respects⟩ :=
          startFocusSession_respects (warm.follows released) self uikit
        have responder : s.isFirstResponder self = false :=
          ((Bool.or_eq_false_iff).mp refreshes).1
        have atRelease : (releasePreviousOwner self uikit
            (endCooldown (noteRequest s))).isFirstResponder self = false :=
          (release_isFirstResponder _ self uikit).trans responder
        have unopened : unanswered (releasePreviousOwner self uikit
            (endCooldown (noteRequest s))).record = none ↔
            ¬DismissesPrevious self uikit.previous s := release_unanswered uikit closed
        refine ⟨started, ?_⟩
        rw [presentKeyboardForNewFocusSession, respects, released.respects_iff, unopened,
          atRelease]
        simp only [true_implies]
        exact and_congr_left fun _ => respects_noteRequest s

/-- A retry does not present the keyboard while a dismissal is open. -/
def WorkRespects (uikit : Answers) (s : State) : Work → Prop
  | .perform self .retryKeyboardAfterAccessoryOnlyFailure =>
    uikit.self.accepted = true → s.isFirstResponder self = false → unanswered s.record = none
  | .perform _ _ => True
  | .zeroInset => True

def CallRespects (self : View) (uikit : Answers) (s : State) : Call → Prop
  | .showKeyboard bounds => ShowRespects self bounds uikit s
  | _ => True

/-- A step that makes no view first responder while a dismissal is open. -/
def StepRespects (s : State) : Event → Prop
  | .fire index uikit =>
    ∀ delayed ∈ dueAt index s, WorkRespects uikit (dequeue index s) delayed.work
  | .call view call uikit => s.live view = true → CallRespects view uikit s call
  | _ => True

theorem respects_of_follows (cooled : Cooled s) (follows : Follows s t) :
    Cooled t ∧ (Respects t.record ↔ Respects s.record ∧ True) :=
  ⟨cooled.follows follows, follows.respects_iff.trans (and_true _).symm.to_iff⟩

theorem perform_respects (cooled : Cooled s) (uikit : Answers) (work : Work) :
    Cooled (perform uikit s work) ∧
      (Respects (perform uikit s work).record ↔
        Respects s.record ∧ WorkRespects uikit s work) := by
  cases work with
  | zeroInset => exact respects_of_follows cooled (Same.follows ⟨rfl, rfl, rfl, rfl⟩)
  | perform self selector =>
    cases selector with
    | applyPendingKeyboardFrame =>
      exact respects_of_follows cooled (same_applyPendingKeyboardFrame s self).follows
    | attemptAccessoryOnlyRecovery =>
      exact respects_of_follows cooled (follows_attemptAccessoryOnlyRecovery s self uikit)
    | retryKeyboardAfterAccessoryOnlyFailure => exact retry_respects cooled self uikit
    | finishAccessoryOnlyRecovery =>
      exact respects_of_follows cooled (follows_finishAccessoryOnlyRecovery s self uikit)

theorem answer_respects (cooled : Cooled s) (self : View) (uikit : Answers) (call : Call) :
    Cooled (answer self uikit s call) ∧
      (Respects (answer self uikit s call).record ↔
        Respects s.record ∧ CallRespects self uikit s call) := by
  cases call with
  | notification posted => exact respects_of_follows cooled (follows_observe s (self, posted))
  | touchesBegan firstTouch =>
    cases firstTouch <;> exact respects_of_follows cooled (Same.follows ⟨rfl, rfl, rfl, rfl⟩)
  | touchesMoved touches =>
    exact respects_of_follows cooled (follows_touchesMoved s self touches uikit.self)
  | touchesEnded => exact respects_of_follows cooled (follows_touchesEnded s self uikit.self)
  | showKeyboard bounds => exact showKeyboard_respects cooled self bounds uikit
  | hideKeyboard => exact respects_of_follows cooled (follows_hideKeyboard s self uikit)
  | userDismissKeyboard =>
    exact respects_of_follows cooled
      ((follows_noteDismissal s).trans (follows_hideKeyboard _ self uikit))
  | resign =>
    exact respects_of_follows cooled (follows_resignFirstResponder s self uikit.self)

theorem step_respects (cooled : Cooled s) (event : Event) :
    Cooled (step s event) ∧
      (Respects (step s event).record ↔ Respects s.record ∧ StepRespects s event) := by
  cases event with
  | elapse seconds =>
    refine ⟨⟨cooled.ordered, fun time mem => ?_, cooled.armed⟩, (and_true _).symm.to_iff⟩
    exact (cooled.past time mem).trans (le_add_of_nonneg_right (le_max_left 0 seconds))
  | create view =>
    simp only [step]
    split
    · exact respects_of_follows cooled (Follows.refl s)
    · exact respects_of_follows cooled (Same.follows ⟨rfl, rfl, rfl, rfl⟩)
  | dealloc view =>
    simp only [step]
    split
    · exact respects_of_follows cooled (same_dealloc s view).follows
    · exact respects_of_follows cooled (Follows.refl s)
  | pressesBegan => exact respects_of_follows cooled (Same.follows ⟨rfl, rfl, rfl, rfl⟩)
  | fire index uikit =>
    simp only [step, StepRespects]
    cases due : dueAt index s with
    | none =>
      obtain ⟨kept, respects⟩ := respects_of_follows cooled (Follows.refl s)
      exact ⟨kept, respects.trans (and_congr_right fun _ => iff_of_true trivial nofun)⟩
    | some delayed =>
      have rest : Same s (dequeue index s) := ⟨rfl, rfl, rfl, rfl⟩
      obtain ⟨kept, respects⟩ := perform_respects (cooled.congr rest) uikit delayed.work
      exact ⟨kept, respects.trans (and_congr_right fun _ => by simp)⟩
  | call view call uikit =>
    simp only [step, StepRespects]
    split
    · rename_i alive
      obtain ⟨kept, respects⟩ := answer_respects cooled view uikit call
      exact ⟨kept, respects.trans (and_congr_right fun _ => by simp [alive])⟩
    · rename_i dead
      obtain ⟨kept, respects⟩ := respects_of_follows cooled (Follows.refl s)
      exact ⟨kept, respects.trans (and_congr_right fun _ => by simp [dead])⟩

theorem cooled_launch (now : ℚ) (pad weakReads : Bool) : Cooled (launch now pad weakReads) :=
  ⟨List.Pairwise.nil, fun _ mem => absurd mem List.not_mem_nil, nofun⟩

theorem dismissalRespected_iff_stepRespects (now : ℚ) (pad weakReads : Bool)
    (events : List Event) :
    Respects (events.foldl step (launch now pad weakReads)).record ↔
      Permitted StepRespects step (launch now pad weakReads) events := by
  let respected (s : State) : Prop := Respects s.record
  have each (s : State) (event : Event) (cooled : Cooled s) : Cooled (step s event) ∧
      (respected (step s event) ↔ respected s ∧ StepRespects s event) :=
    step_respects cooled event
  have lasting := lasting_iff_permitted each _ events (cooled_launch now pad weakReads)
  exact lasting.trans (and_iff_right respects_nil)

/-- The accessory bar comes up alone, the user dismisses it, and the recovery that was
scheduled before resigns the view again and presents the keyboard. -/
def dismissedAccessory : List Event :=
  [.create 0,
    .call 0 (.showKeyboard ⟨100, 40⟩) { self := { after := [(0, .keyboardWillShow 60)] } },
    .elapse (2 / 5),
    .call 0 .userDismissKeyboard { self := { after := [(0, .keyboardWillHide)] } },
    .elapse (1 / 20), .fire 0 {}, .elapse (1 / 5),
    .call 0 (.notification .keyboardDidHide) {}, .elapse (1 / 20), .fire 0 {}]

/-- A request of the second view ends the visible keyboard of the first. -/
def changedOwner : List Event :=
  [.create 0, .create 1,
    .call 0 (.showKeyboard ⟨100, 40⟩) { self := { after := [(0, .keyboardWillShow 336)] } },
    .elapse (1 / 20), .fire 0 {},
    .call 1 (.showKeyboard ⟨100, 40⟩) { previous := { after := [(0, .keyboardWillHide)] } }]

theorem dismissalRespected_counterexample :
    ¬Respects (dismissedAccessory.foldl step (launch 10 false false)).record ∧
      ¬Respects (changedOwner.foldl step (launch 10 false false)).record := by
  have again : (dismissedAccessory.foldl step (launch 10 false false)).record =
      [.requested 10, .responder 0] ++ [.dismissed (52 / 5), .responder 0] := by decide +kernel
  have changed : (changedOwner.foldl step (launch 10 false false)).record =
      [.requested 10, .responder 0, .requested (201 / 20)] ++
        [.dismissed (201 / 20), .responder 1] := by decide +kernel
  rw [again, changed]
  exact ⟨not_respects_dismissed _ _ _, not_respects_dismissed _ _ _⟩

end BlinkerFluid.KeyboardDismissal
