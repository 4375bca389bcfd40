import BlinkerFluid.KeyboardRecord

/-! What the calls add to the record of the keyboard. Only a hide that reaches the owner
of a visible keyboard is recorded as a dismissal, and it arms the cooldown; every
other delivery leaves record and cooldown alone. -/

namespace BlinkerFluid.KeyboardCooldown
open StepRun Keyboard KeyboardRecord

variable {s t u : State} {self : View}

/-- The record and the cooldown are as they were. -/
structure Same (s t : State) : Prop where
  now : t.now = s.now
  record : t.record = s.record
  dismissed : t.keyboardUserDismissed = s.keyboardUserDismissed
  time : t.keyboardDismissTime = s.keyboardDismissTime

theorem Same.refl (s : State) : Same s s := ⟨rfl, rfl, rfl, rfl⟩

theorem Same.trans (first : Same s t) (second : Same t u) : Same s u :=
  ⟨second.now.trans first.now, second.record.trans first.record,
    second.dismissed.trans first.dismissed, second.time.trans first.time⟩

/-- Nothing but dismissals was recorded, and they armed the cooldown. -/
def Follows (s t : State) : Prop :=
  Same s t ∨ t.now = s.now ∧ t.keyboardUserDismissed = true ∧ t.keyboardDismissTime = s.now ∧
    ∃ count, t.record = s.record ++ List.replicate (count + 1) (.dismissed s.now)

theorem Follows.now (follows : Follows s t) : t.now = s.now :=
  follows.elim Same.now And.left

theorem Same.follows (same : Same s t) : Follows s t := .inl same

theorem Follows.refl (s : State) : Follows s s := .inl (Same.refl s)

theorem Follows.trans (first : Follows s t) (second : Follows t u) : Follows s u := by
  rcases second with same | ⟨now, dismissed, time, count, record⟩
  · rcases first with first | ⟨now, dismissed, time, count, record⟩
    · exact .inl (first.trans same)
    · exact .inr ⟨same.now.trans now, same.dismissed.trans dismissed, same.time.trans time,
        count, same.record.trans record⟩
  · refine .inr ⟨now.trans first.now, dismissed, time.trans first.now, ?_⟩
    rcases first with first | ⟨atFirst, -, -, earlier, recorded⟩
    · exact ⟨count, by rw [record, first.record, first.now]⟩
    · refine ⟨earlier + (count + 1), ?_⟩
      rw [record, recorded, atFirst, List.append_assoc, List.replicate_append_replicate,
        Nat.add_right_comm]

/-- The dismissals are in order and past, and an open one has armed the cooldown. -/
structure Cooled (s : State) : Prop where
  ordered : Ordered s.record
  past : ∀ time, .dismissed time ∈ s.record → time ≤ s.now
  armed : ∀ time, unanswered s.record = some time →
    s.keyboardUserDismissed = true ∧ s.keyboardDismissTime = time

theorem Cooled.congr (cooled : Cooled s) (same : Same s t) : Cooled t := by
  obtain ⟨now, record, dismissed, time⟩ := same
  refine ⟨record ▸ cooled.ordered, ?_, ?_⟩
  · rw [record, now]
    exact cooled.past
  · rw [record, dismissed, time]
    exact cooled.armed

theorem Cooled.follows (cooled : Cooled s) (follows : Follows s t) : Cooled t := by
  rcases follows with same | ⟨now, dismissed, time, count, record⟩
  · exact cooled.congr same
  · refine ⟨?_, fun past mem => ?_, fun open' atOpen => ?_⟩
    · rw [record]
      refine List.pairwise_append.mpr ⟨cooled.ordered, List.pairwise_replicate.mpr (.inr ?_), ?_⟩
      · intro first second atFirst atSecond
        exact le_of_eq (Occurrence.dismissed.inj (atFirst.symm.trans atSecond))
      · intro earlier mem later isNow first second atFirst atSecond
        obtain rfl := Occurrence.dismissed.inj
          (atSecond.symm.trans (List.eq_of_mem_replicate isNow))
        exact cooled.past first (atFirst ▸ mem)
    · rw [now]
      rw [record] at mem
      rcases List.mem_append.mp mem with mem | mem
      · exact cooled.past past mem
      · exact le_of_eq (Occurrence.dismissed.inj (List.eq_of_mem_replicate mem))
    · rw [record, unanswered_append_dismissed] at atOpen
      exact ⟨dismissed, time.trans (Option.some.inj atOpen)⟩

theorem Follows.respects_iff (follows : Follows s t) :
    Respects t.record ↔ Respects s.record := by
  rcases follows with same | ⟨-, -, -, count, record⟩
  · rw [same.record]
  · rw [record, respects_append_dismissed]

theorem Follows.unanswered_ne (follows : Follows s t) (opened : unanswered s.record ≠ none) :
    unanswered t.record ≠ none := by
  rcases follows with same | ⟨-, -, -, count, record⟩
  · rwa [same.record]
  · rw [record, unanswered_append_dismissed]
    exact Option.some_ne_none _

/-! ### What each call records -/

theorem same_setIsEditable (s : State) (view : View) (value : Bool) :
    Same s (setIsEditable view value s) := by
  unfold setIsEditable
  split <;> exact ⟨rfl, rfl, rfl, rfl⟩

theorem same_coalesceKeyboardNotification (s : State) (self : View) (height : ℚ) :
    Same s (coalesceKeyboardNotification self height s) := by
  unfold coalesceKeyboardNotification
  split_ifs
  all_goals exact ⟨rfl, rfl, rfl, rfl⟩

theorem follows_noteDismissal (s : State) : Follows s (noteDismissal s) :=
  .inr ⟨rfl, rfl, rfl, 0, rfl⟩

theorem follows_noteHide (s : State) : Follows s (noteHide s) := by
  unfold noteHide
  split
  · exact follows_noteDismissal s
  · exact Follows.refl s

theorem same_hideFrame (s : State) (self : View) : Same s (hideFrame self s) :=
  ⟨rfl, rfl, rfl, rfl⟩

theorem follows_keyboardWillHide (s : State) (self : View) :
    Follows s (keyboardWillHide self s) := by
  unfold keyboardWillHide
  dsimp only
  split_ifs
  · exact Follows.refl s
  · exact Follows.refl s
  · exact follows_noteHide s
  · exact (follows_noteHide s).trans (.inl (same_hideFrame _ self))

theorem same_keyboardDidHide (s : State) (self : View) : Same s (keyboardDidHide self s) := by
  have ended (retry : Bool) : Same s (s |> handKeyboard none .hidden |> forgetHeights
      |> setRecovery retry retry |> cancelRecovery self) := ⟨rfl, rfl, rfl, rfl⟩
  have zeroed {t : State} (same : Same s t) (inset : ℚ) :
      Same s (setKeyboardViewportInset inset t) := same.trans ⟨rfl, rfl, rfl, rfl⟩
  unfold keyboardDidHide
  split
  · exact Same.refl s
  · dsimp only
    generalize s.keyboardBodyRetryInProgress = retry
    split_ifs
    · exact (zeroed (ended retry) 0).trans ⟨rfl, rfl, rfl, rfl⟩
    · exact (zeroed ((ended retry).trans (same_setIsEditable _ self false)) 0).trans
        ⟨rfl, rfl, rfl, rfl⟩

theorem follows_observe (s : State) (delivery : Delivery) : Follows s (observe s delivery) := by
  refine observe_cases (P := fun _ t => Follows s t) delivery ?_ ?_ ?_
  · exact fun view _ height => .inl (same_coalesceKeyboardNotification s view height)
  · exact follows_keyboardWillHide s
  · exact fun view => .inl (same_keyboardDidHide s view)

theorem follows_deliver (deliveries : List Delivery) (s : State) :
    Follows s (deliver deliveries s) := by
  induction deliveries generalizing s with
  | nil => exact Follows.refl s
  | cons delivery deliveries ih => exact (follows_observe s delivery).trans (ih _)

theorem same_leaveResponder (s : State) (self : View) (uikit : Responder) :
    Same s (leaveResponder self uikit s) := by
  unfold leaveResponder
  split <;> exact ⟨rfl, rfl, rfl, rfl⟩

theorem follows_resignFirstResponder (s : State) (self : View) (uikit : Responder) :
    Follows s (resignFirstResponder self uikit s) :=
  (follows_deliver uikit.before s).trans
    ((same_leaveResponder _ self uikit).follows.trans (follows_deliver uikit.after _))

theorem same_handKeyboard (s : State) (owner : Option View) (state : KeyboardState) :
    Same s (handKeyboard owner state s) := ⟨rfl, rfl, rfl, rfl⟩

theorem same_performAfterDelay (s : State) (view : View) (selector : Selector) (delay : ℚ) :
    Same s (performAfterDelay view selector delay s) := ⟨rfl, rfl, rfl, rfl⟩

theorem follows_endForScroll (s : State) (self : View) (uikit : Responder) :
    Follows s (endForScroll self uikit s) := by
  have resigned := (follows_resignFirstResponder s self uikit).trans
    (same_setIsEditable _ self false).follows
  have ended (t : State) : Same t (setKeyboardViewportInset 0 (handKeyboard none .hidden t)) :=
    ⟨rfl, rfl, rfl, rfl⟩
  exact resigned.trans (ended _).follows

theorem follows_touchMoved (s : State) (self : View) (uikit : Responder) (point : CGPoint) :
    Follows s (touchMoved self uikit s point) := by
  have marked : Same s (markMoved s) := ⟨rfl, rfl, rfl, rfl⟩
  unfold touchMoved
  dsimp only
  split_ifs
  · exact marked.follows.trans (follows_endForScroll _ self uikit)
  · exact marked.follows
  · exact Follows.refl s

theorem follows_touchesMoved (s : State) (self : View) (touches : List CGPoint)
    (uikit : Responder) : Follows s (touchesMoved self touches uikit s) := by
  induction touches generalizing s with
  | nil => exact Follows.refl s
  | cons point touches ih => exact (follows_touchMoved s self uikit point).trans (ih _)

theorem follows_touchesEnded (s : State) (self : View) (uikit : Responder) :
    Follows s (touchesEnded self uikit s) := by
  have marked : Same s (markScrollEnd s) := ⟨rfl, rfl, rfl, rfl⟩
  have cleared (t : State) : Same t (clearMoved t) := ⟨rfl, rfl, rfl, rfl⟩
  unfold touchesEnded
  dsimp only
  split_ifs
  · exact (marked.follows.trans (follows_endForScroll _ self uikit)).trans (cleared _).follows
  · exact marked.follows.trans (cleared _).follows
  · exact (cleared s).follows

theorem same_applyPendingKeyboardFrame (s : State) (self : View) :
    Same s (applyPendingKeyboardFrame self s) := by
  unfold applyPendingKeyboardFrame
  split_ifs
  all_goals exact ⟨rfl, rfl, rfl, rfl⟩

theorem follows_attemptAccessoryOnlyRecovery (s : State) (self : View) (uikit : Answers) :
    Follows s (attemptAccessoryOnlyRecovery self uikit s) := by
  have visible : Same s (s |> handKeyboard (some self) .visible |> setKeyboardViewportInset 0) :=
    ⟨rfl, rfl, rfl, rfl⟩
  have dismissing : Same s (s |> setRecovery true true |> enterState .dismissing) :=
    ⟨rfl, rfl, rfl, rfl⟩
  unfold attemptAccessoryOnlyRecovery
  split_ifs
  · exact Follows.refl s
  · exact Follows.refl s
  · exact visible.follows
  · exact (dismissing.follows.trans (follows_resignFirstResponder _ self uikit.self)).trans
      (same_performAfterDelay _ self _ _).follows

theorem follows_finishAccessoryOnlyRecovery (s : State) (self : View) (uikit : Answers) :
    Follows s (finishAccessoryOnlyRecovery self uikit s) := by
  have ended : Same s { s with keyboardBodyRetryInProgress := false } := ⟨rfl, rfl, rfl, rfl⟩
  have dismissing : Same s
      (enterState .dismissing { s with keyboardBodyRetryInProgress := false }) :=
    ⟨rfl, rfl, rfl, rfl⟩
  unfold finishAccessoryOnlyRecovery
  dsimp only
  split
  · exact ended.follows
  · exact (dismissing.follows.trans (follows_resignFirstResponder _ self uikit.self)).trans
      (same_setIsEditable _ self false).follows

theorem follows_hideKeyboard (s : State) (self : View) (uikit : Answers) :
    Follows s (hideKeyboard self uikit s) := by
  have dismissing : Same s (enterState .dismissing s) := ⟨rfl, rfl, rfl, rfl⟩
  exact ((dismissing.follows.trans (follows_resignFirstResponder _ self uikit.self)).trans
    (follows_deliver uikit.reload _)).trans (same_setIsEditable _ self false).follows

theorem follows_releasePreviousOwner (s : State) (self : View) (uikit : Answers) :
    Follows s (releasePreviousOwner self uikit s) := by
  have released (t : State) : Same t
      (t |> resetFocusedInputRelocation |> handKeyboard none .hidden |> forgetHeights) :=
    ⟨rfl, rfl, rfl, rfl⟩
  unfold releasePreviousOwner
  split
  · exact Follows.refl s
  · split
    · exact Follows.refl s
    · exact ((follows_resignFirstResponder s _ uikit.previous).trans
        (same_setIsEditable _ _ false).follows).trans (released _).follows

theorem same_claimKeyboard (s : State) (self : View) : Same s (claimKeyboard self s) :=
  (same_handKeyboard s (some self) .presenting).trans (same_setIsEditable _ self true)

theorem same_beginSession (s : State) (self : View) : Same s (beginSession self s) := by
  have fresh : Same s (setRecovery false false s) := ⟨rfl, rfl, rfl, rfl⟩
  exact fresh.trans (same_claimKeyboard _ self)

theorem same_editableIfPresented (s : State) (self : View) (uikit : Responder) :
    Same s (editableIfPresented self uikit s) := same_setIsEditable s self _

theorem same_disownUnlessPresented (s : State) (self : View) (uikit : Responder) :
    Same s (disownUnlessPresented self uikit s) := by
  unfold disownUnlessPresented
  split
  · exact Same.refl s
  · exact same_handKeyboard s none .hidden

theorem same_abandonUnlessPresented (s : State) (self : View) (uikit : Responder) :
    Same s (abandonUnlessPresented self uikit s) := by
  unfold abandonUnlessPresented
  split
  · exact Same.refl s
  · exact (same_handKeyboard s none .hidden).trans (same_setIsEditable _ self false)

theorem same_refreshRelocationAfterTextCommit (s : State) :
    Same s (refreshRelocationAfterTextCommit s) := by
  unfold refreshRelocationAfterTextCommit
  split
  · exact Same.refl s
  · exact ⟨rfl, rfl, rfl, rfl⟩

theorem same_dealloc (s : State) (self : View) : Same s (dealloc self s) := by
  unfold dealloc
  dsimp only
  split
  · exact ⟨rfl, rfl, rfl, rfl⟩
  · exact ⟨rfl, rfl, rfl, rfl⟩

/-! ### Deliveries while a keyboard is presented, and while one is visible -/

theorem noteHide_not_visible (visible : s.keyboardState ≠ .visible) : noteHide s = s :=
  if_neg visible

theorem keyboardDidHide_owned (owns : s.keyboardOwner = some self) :
    (keyboardDidHide self s).keyboardState = .hidden ∧
      (keyboardDidHide self s).keyboardOwner = none := by
  have ended (retry : Bool) : (s |> handKeyboard none .hidden |> forgetHeights
      |> setRecovery retry retry |> cancelRecovery self).keyboardState = .hidden := rfl
  have disowned (retry : Bool) : (s |> handKeyboard none .hidden |> forgetHeights
      |> setRecovery retry retry |> cancelRecovery self).keyboardOwner = none := rfl
  unfold keyboardDidHide
  rw [if_neg (not_not.mpr owns)]
  dsimp only
  generalize s.keyboardBodyRetryInProgress = retry
  split_ifs
  · exact ⟨ended retry, disowned retry⟩
  · exact ⟨(setIsEditable_keyboardState self false _).trans (ended retry),
      (setIsEditable_keyboardOwner self false _).trans (disowned retry)⟩

theorem coalesce_core (s : State) (self : View) (height : ℚ) :
    (coalesceKeyboardNotification self height s).keyboardState = s.keyboardState ∧
      (coalesceKeyboardNotification self height s).keyboardOwner = s.keyboardOwner := by
  unfold coalesceKeyboardNotification
  split_ifs
  all_goals exact ⟨rfl, rfl⟩

/-- Outside of a visible keyboard no delivery is a dismissal, or makes it visible. -/
theorem observe_not_visible (visible : s.keyboardState ≠ .visible) (delivery : Delivery) :
    Same s (observe s delivery) ∧ (observe s delivery).keyboardState ≠ .visible := by
  refine observe_cases (P := fun _ t => Same s t ∧ t.keyboardState ≠ .visible) delivery ?_ ?_ ?_
  · intro view _ height
    refine ⟨same_coalesceKeyboardNotification s view height, ?_⟩
    rwa [(coalesce_core s view height).1]
  · intro view
    simp only [keyboardWillHide, noteHide_not_visible visible]
    split_ifs
    · exact ⟨Same.refl s, visible⟩
    · exact ⟨Same.refl s, visible⟩
    · exact ⟨Same.refl s, visible⟩
    · exact ⟨same_hideFrame s view, nofun⟩
  · intro view
    refine ⟨same_keyboardDidHide s view, ?_⟩
    by_cases owns : s.keyboardOwner = some view
    · simp [(keyboardDidHide_owned owns).1]
    · simpa [keyboardDidHide, owns] using visible

theorem deliver_not_visible (visible : s.keyboardState ≠ .visible) (deliveries : List Delivery) :
    Same s (deliver deliveries s) ∧ (deliver deliveries s).keyboardState ≠ .visible := by
  induction deliveries generalizing s with
  | nil => exact ⟨Same.refl s, visible⟩
  | cons delivery deliveries ih =>
    obtain ⟨same, still⟩ := observe_not_visible visible delivery
    exact ⟨same.trans (ih still).1, (ih still).2⟩

theorem resign_not_visible (visible : s.keyboardState ≠ .visible) (self : View)
    (uikit : Responder) : Same s (resignFirstResponder self uikit s) := by
  obtain ⟨before, still⟩ := deliver_not_visible visible uikit.before
  have left := same_leaveResponder (deliver uikit.before s) self uikit
  have hidden : (leaveResponder self uikit (deliver uikit.before s)).keyboardState ≠ .visible := by
    rwa [leaveResponder_keyboardState]
  exact (before.trans left).trans (deliver_not_visible hidden uikit.after).1

theorem observe_isFirstResponder (s : State) (delivery : Delivery) :
    (observe s delivery).isFirstResponder = s.isFirstResponder := by
  refine observe_cases (P := fun _ t => t.isFirstResponder = s.isFirstResponder) delivery ?_ ?_ ?_
  · intro view _ height
    unfold coalesceKeyboardNotification
    split_ifs
    all_goals rfl
  · intro view
    have noted : (noteHide s).isFirstResponder = s.isFirstResponder := by
      unfold noteHide
      split <;> rfl
    simp only [keyboardWillHide]
    split_ifs
    · rfl
    · rfl
    · exact noted
    · exact noted
  · intro view
    have ended (retry : Bool) : (s |> handKeyboard none .hidden |> forgetHeights
        |> setRecovery retry retry |> cancelRecovery view).isFirstResponder =
        s.isFirstResponder := rfl
    simp only [keyboardDidHide]
    generalize s.keyboardBodyRetryInProgress = retry
    split_ifs
    · rfl
    · exact ended retry
    · exact (setIsEditable_isFirstResponder view false _).trans (ended retry)

theorem deliver_isFirstResponder (deliveries : List Delivery) (s : State) :
    (deliver deliveries s).isFirstResponder = s.isFirstResponder := by
  induction deliveries generalizing s with
  | nil => rfl
  | cons delivery deliveries ih => exact (ih _).trans (observe_isFirstResponder s delivery)

def isHideOf (owner : View) (delivery : Delivery) : Bool :=
  delivery.1 = owner && (delivery.2 = .keyboardWillHide || delivery.2 = .keyboardDidHide)

theorem deliver_unowned (owner : s.keyboardOwner = none) (deliveries : List Delivery) :
    deliver deliveries s = s := by
  induction deliveries with
  | nil => rfl
  | cons delivery deliveries ih =>
    have first : observe s delivery = s := by
      obtain ⟨view, posted⟩ := delivery
      cases posted <;>
        simp [observe, coalesceKeyboardNotification, keyboardWillHide, keyboardDidHide, owner]
    rw [deliver, List.foldl_cons, first]
    exact ih

theorem observe_spared {owner : View} (owns : s.keyboardOwner = some owner)
    {delivery : Delivery} (spared : isHideOf owner delivery = false) :
    Same s (observe s delivery) ∧
      (observe s delivery).keyboardOwner = s.keyboardOwner ∧
      (observe s delivery).keyboardState = s.keyboardState := by
  revert spared
  refine observe_cases (P := fun delivery t => isHideOf owner delivery = false → Same s t ∧
    t.keyboardOwner = s.keyboardOwner ∧ t.keyboardState = s.keyboardState) delivery ?_ ?_ ?_
  · intro view _ height _
    exact ⟨same_coalesceKeyboardNotification s view height, (coalesce_core s view height).2,
      (coalesce_core s view height).1⟩
  · intro view spared
    have other : s.keyboardOwner ≠ some view := by
      rw [owns]
      rintro ⟨⟩
      simp [isHideOf] at spared
    have ignored : keyboardWillHide view s = s := if_pos other
    rw [ignored]
    exact ⟨Same.refl s, rfl, rfl⟩
  · intro view spared
    have other : s.keyboardOwner ≠ some view := by
      rw [owns]
      rintro ⟨⟩
      simp [isHideOf] at spared
    have ignored : keyboardDidHide view s = s := if_pos other
    rw [ignored]
    exact ⟨Same.refl s, rfl, rfl⟩

/-- The first hide that reaches the owner of a visible keyboard decides. -/
theorem deliver_visible {owner : View} (owns : s.keyboardOwner = some owner)
    (visible : s.keyboardState = .visible) (deliveries : List Delivery) :
    match deliveries.find? (isHideOf owner) with
    | none => Same s (deliver deliveries s) ∧ (deliver deliveries s).keyboardOwner = some owner ∧
        (deliver deliveries s).keyboardState = .visible
    | some first =>
      if first.2 = .keyboardWillHide then unanswered (deliver deliveries s).record ≠ none
      else Same s (deliver deliveries s) ∧ (deliver deliveries s).keyboardOwner = none := by
  induction deliveries generalizing s with
  | nil => exact ⟨Same.refl s, owns, visible⟩
  | cons delivery deliveries ih =>
    rw [deliver, List.foldl_cons]
    cases hides : isHideOf owner delivery with
    | false =>
      obtain ⟨same, atOwner, atState⟩ := observe_spared owns hides
      have rest := ih (atOwner.trans owns) (atState.trans visible)
      rw [List.find?_cons_of_neg (by simp [hides])]
      split at rest
      · exact ⟨same.trans rest.1, rest.2⟩
      · split at rest
        · rw [if_pos ‹_›]
          exact rest
        · rw [if_neg ‹_›]
          exact ⟨same.trans rest.1, rest.2⟩
    | true =>
      obtain ⟨view, posted⟩ := delivery
      obtain ⟨rfl, hide⟩ : view = owner ∧ (posted = .keyboardWillHide ∨ posted = .keyboardDidHide) := by
        simpa [isHideOf] using hides
      rw [List.find?_cons_of_pos hides]
      rcases hide with rfl | rfl
      · refine (follows_deliver deliveries _).unanswered_ne ?_
        have noted : unanswered (noteHide s).record ≠ none := by
          rw [noteHide, if_pos visible, noteDismissal, unanswered_snoc]
          exact Option.some_ne_none _
        have acts : ¬(s.keyboardState = .presenting ∧ s.keyboardUserDismissed = false ∧
            s.isFirstResponder view = true) := fun both => by simp [visible] at both
        simp only [observe, keyboardWillHide]
        rw [if_neg (not_not.mpr owns), if_neg acts]
        split
        · exact noted
        · exact noted
      · have gone := (keyboardDidHide_owned owns).2
        have rest : deliveries.foldl observe (observe s (view, .keyboardDidHide)) =
            keyboardDidHide view s := deliver_unowned gone deliveries
        rw [rest]
        exact ⟨same_keyboardDidHide s view, gone⟩

end BlinkerFluid.KeyboardCooldown
