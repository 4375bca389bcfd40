import BlinkerFluid.Keyboard

/-! Hides that reach the owner of the keyboard. A keyboard is down when both its last
height and the inset are zero, and stays down whatever is called or posted; a
keyboard with a height is taken down by the first hide its owner acts on, and keeps
its height through everything else that is posted. -/

namespace BlinkerFluid.KeyboardHide
open StepRun Keyboard

/-- The delivery is a hide that the owner of the keyboard acts on. -/
def Ends (s : State) (delivery : Delivery) : Prop :=
  s.keyboardOwner = some delivery.1 ∧
    (delivery.2 = .keyboardDidHide ∨ delivery.2 = .keyboardWillHide ∧
      ¬(s.keyboardState = .presenting ∧ s.keyboardUserDismissed = false ∧
        s.isFirstResponder delivery.1 = true))

instance (s : State) (delivery : Delivery) : Decidable (Ends s delivery) :=
  inferInstanceAs (Decidable (_ ∧ (_ ∨ _ ∧ ¬(_ ∧ _ ∧ _))))

def EndedBy (deliveries : List Delivery) (s : State) : Prop := ∃ d ∈ deliveries, Ends s d

instance (deliveries : List Delivery) (s : State) : Decidable (EndedBy deliveries s) :=
  inferInstanceAs (Decidable (∃ d ∈ deliveries, Ends s d))

/-- A hide reaches the owner while the view gives up first responder. -/
def ResignEnds (self : View) (uikit : Responder) (s : State) : Prop :=
  EndedBy uikit.before s ∨ EndedBy uikit.after (leaveResponder self uikit s)

instance (self : View) (uikit : Responder) (s : State) : Decidable (ResignEnds self uikit s) :=
  inferInstanceAs (Decidable (_ ∨ _))

/-- A hide reaches the owner while the view becomes first responder. -/
def BecomeEnds (self : View) (uikit : Responder) (s : State) : Prop :=
  EndedBy uikit.before s ∨ EndedBy uikit.after (takeResponder self uikit s)

instance (self : View) (uikit : Responder) (s : State) : Decidable (BecomeEnds self uikit s) :=
  inferInstanceAs (Decidable (_ ∨ _))

def Down (s : State) : Prop := s.lastKeyboardHeight = 0 ∧ s.viewportInset = 0

/-- What the agreement depends on is as it was. -/
structure Kept (s t : State) : Prop where
  owner : t.keyboardOwner = s.keyboardOwner
  state : t.keyboardState = s.keyboardState
  height : t.lastKeyboardHeight = s.lastKeyboardHeight
  inset : t.viewportInset = s.viewportInset
  editable : t.isEditable = s.isEditable
  responder : t.isFirstResponder = s.isFirstResponder
  dismissed : t.keyboardUserDismissed = s.keyboardUserDismissed

theorem Kept.refl (s : State) : Kept s s := ⟨rfl, rfl, rfl, rfl, rfl, rfl, rfl⟩

theorem Kept.trans {s t u : State} (first : Kept s t) (second : Kept t u) : Kept s u :=
  ⟨second.owner.trans first.owner, second.state.trans first.state,
    second.height.trans first.height, second.inset.trans first.inset,
    second.editable.trans first.editable, second.responder.trans first.responder,
    second.dismissed.trans first.dismissed⟩

variable {s t : State} {self : View}

theorem Kept.ends_iff (kept : Kept s t) (delivery : Delivery) :
    Ends t delivery ↔ Ends s delivery := by
  rw [Ends, Ends, kept.owner, kept.state, kept.responder, kept.dismissed]

theorem Kept.endedBy_iff (kept : Kept s t) (deliveries : List Delivery) :
    EndedBy deliveries t ↔ EndedBy deliveries s := by
  simp only [EndedBy, kept.ends_iff]

theorem Kept.leaveResponder (kept : Kept s t) (self : View) (uikit : Responder) :
    Kept (leaveResponder self uikit s) (leaveResponder self uikit t) := by
  unfold Keyboard.leaveResponder
  split
  · exact { kept with responder := by rw [kept.responder] }
  · exact kept

theorem Kept.takeResponder (kept : Kept s t) (self : View) (uikit : Responder) :
    Kept (takeResponder self uikit s) (takeResponder self uikit t) := by
  unfold Keyboard.takeResponder
  split
  · exact { kept with responder := by rw [kept.responder] }
  · exact kept

theorem Kept.resignEnds_iff (kept : Kept s t) (self : View) (uikit : Responder) :
    ResignEnds self uikit t ↔ ResignEnds self uikit s := by
  rw [ResignEnds, ResignEnds, kept.endedBy_iff, (kept.leaveResponder self uikit).endedBy_iff]

theorem kept_coalesceKeyboardNotification (s : State) (self : View) (height : ℚ) :
    Kept s (coalesceKeyboardNotification self height s) := by
  unfold coalesceKeyboardNotification
  split_ifs
  all_goals exact ⟨rfl, rfl, rfl, rfl, rfl, rfl, rfl⟩

theorem down_setIsEditable (down : Down s) (view : View) (value : Bool) :
    Down (setIsEditable view value s) := by
  unfold setIsEditable
  split
  · exact down
  · cases value
    · exact ⟨down.1, rfl⟩
    · exact down

theorem noteHide_height (s : State) : (noteHide s).lastKeyboardHeight = s.lastKeyboardHeight := by
  unfold noteHide
  split <;> rfl

theorem down_noteHide (down : Down s) : Down (noteHide s) := by
  unfold noteHide
  split
  · exact ⟨down.1, down.2⟩
  · exact down

theorem down_hideFrame (s : State) (self : View) : Down (hideFrame self s) := ⟨rfl, rfl⟩

theorem down_keyboardWillHide (down : Down s) : Down (keyboardWillHide self s) := by
  unfold keyboardWillHide
  dsimp only
  split_ifs
  · exact down
  · exact down
  · exact down_noteHide down
  · exact down_hideFrame _ _

/-- Whoever handles the end of the keyboard leaves it down. -/
theorem down_keyboardDidHide (owns : s.keyboardOwner = some self) :
    Down (keyboardDidHide self s) := by
  have ended (retry : Bool) : (s |> handKeyboard none .hidden |> forgetHeights
      |> setRecovery retry retry |> cancelRecovery self).lastKeyboardHeight = 0 := rfl
  have zeroed {t : State} (height : t.lastKeyboardHeight = 0) :
      Down (setKeyboardViewportInset 0 t) := ⟨height, rfl⟩
  have edited {t : State} (height : t.lastKeyboardHeight = 0) :
      (setIsEditable self false t).lastKeyboardHeight = 0 := by
    rw [setIsEditable_lastKeyboardHeight]
    exact height
  unfold keyboardDidHide
  rw [if_neg (not_not.mpr owns)]
  dsimp only
  generalize s.keyboardBodyRetryInProgress = retry at *
  split_ifs
  · exact zeroed (ended retry)
  · exact zeroed (edited (ended retry))

theorem down_observe (down : Down s) (delivery : Delivery) : Down (observe s delivery) := by
  refine observe_cases (P := fun _ t => Down t) delivery ?_ ?_ ?_
  · intro view _ height
    have kept := kept_coalesceKeyboardNotification s view height
    exact ⟨kept.height.trans down.1, kept.inset.trans down.2⟩
  · exact fun view => down_keyboardWillHide down
  · intro view
    by_cases owns : s.keyboardOwner = some view
    · exact down_keyboardDidHide owns
    · simpa [keyboardDidHide, owns] using down

theorem down_deliver (down : Down s) (deliveries : List Delivery) :
    Down (deliver deliveries s) := by
  have kept (t : State) (delivery : Delivery) (down : Down t) : Down (observe t delivery) :=
    down_observe down delivery
  exact invariant_always kept s deliveries down

theorem down_observe_of_ends (height : s.lastKeyboardHeight ≠ 0) {delivery : Delivery}
    (ends : Ends s delivery) : Down (observe s delivery) := by
  obtain ⟨view, posted⟩ := delivery
  obtain ⟨owns, didHide | ⟨willHide, acts⟩⟩ := ends
  · obtain rfl : posted = .keyboardDidHide := didHide
    exact down_keyboardDidHide owns
  · obtain rfl : posted = .keyboardWillHide := willHide
    have raised : ¬((noteHide s).lastKeyboardHeight = 0 ∧
        recentNotification (noteHide s) = true) := by
      rw [noteHide_height]
      exact fun both => height both.1
    simp only [observe, keyboardWillHide]
    rw [if_neg (not_not.mpr owns), if_neg acts, if_neg raised]
    exact down_hideFrame _ _

theorem kept_observe {delivery : Delivery} (kept : ¬Ends s delivery) :
    Kept s (observe s delivery) := by
  revert kept
  refine observe_cases (P := fun delivery t => ¬Ends s delivery → Kept s t) delivery ?_ ?_ ?_
  · exact fun view _ height _ => kept_coalesceKeyboardNotification s view height
  · intro view kept
    simp only [keyboardWillHide]
    split_ifs with other stays
    · exact Kept.refl s
    · exact Kept.refl s
    · exact absurd ⟨not_not.mp other, .inr ⟨rfl, stays⟩⟩ kept
    · exact absurd ⟨not_not.mp other, .inr ⟨rfl, stays⟩⟩ kept
  · intro view kept
    simp only [keyboardDidHide]
    split_ifs with other
    · exact Kept.refl s
    all_goals exact absurd ⟨not_not.mp other, .inl rfl⟩ kept

theorem kept_deliver (deliveries : List Delivery) (kept : ¬EndedBy deliveries s) :
    Kept s (deliver deliveries s) := by
  induction deliveries generalizing s with
  | nil => exact Kept.refl s
  | cons delivery deliveries ih =>
    have first : Kept s (observe s delivery) :=
      kept_observe fun ends => kept ⟨delivery, List.mem_cons_self, ends⟩
    refine first.trans (ih fun ended => kept ?_)
    obtain ⟨later, mem, ends⟩ := (first.endedBy_iff deliveries).mp ended
    exact ⟨later, List.mem_cons_of_mem _ mem, ends⟩

theorem down_deliver_of_endedBy (height : s.lastKeyboardHeight ≠ 0) (deliveries : List Delivery)
    (ended : EndedBy deliveries s) : Down (deliver deliveries s) := by
  induction deliveries generalizing s with
  | nil => simp [EndedBy] at ended
  | cons delivery deliveries ih =>
    by_cases ends : Ends s delivery
    · exact down_deliver (down_observe_of_ends height ends) deliveries
    · have first : Kept s (observe s delivery) := kept_observe ends
      refine ih (first.height ▸ height) ((first.endedBy_iff deliveries).mpr ?_)
      obtain ⟨later, mem, atLater⟩ := ended
      rcases List.mem_cons.mp mem with rfl | mem
      · exact absurd atLater ends
      · exact ⟨later, mem, atLater⟩

theorem down_leaveResponder (down : Down s) (uikit : Responder) :
    Down (leaveResponder self uikit s) := by
  unfold leaveResponder
  split <;> exact down

theorem down_takeResponder (down : Down s) (uikit : Responder) :
    Down (takeResponder self uikit s) := by
  unfold takeResponder
  split <;> exact down

theorem down_resignFirstResponder (down : Down s) (self : View) (uikit : Responder) :
    Down (resignFirstResponder self uikit s) :=
  down_deliver (down_leaveResponder (down_deliver down _) uikit) _

theorem down_becomeFirstResponder (down : Down s) (self : View) (uikit : Responder) :
    Down (becomeFirstResponder self uikit s) :=
  down_deliver (down_takeResponder (down_deliver down _) uikit) _

theorem kept_resignFirstResponder (uikit : Responder) (kept : ¬ResignEnds self uikit s) :
    Kept (leaveResponder self uikit s) (resignFirstResponder self uikit s) := by
  obtain ⟨before, after⟩ := not_or.mp kept
  have left := (kept_deliver uikit.before before).leaveResponder self uikit
  exact left.trans (kept_deliver uikit.after fun ended => after ((left.endedBy_iff _).mp ended))

theorem kept_becomeFirstResponder (uikit : Responder) (kept : ¬BecomeEnds self uikit s) :
    Kept (takeResponder self uikit s) (becomeFirstResponder self uikit s) := by
  obtain ⟨before, after⟩ := not_or.mp kept
  have taken := (kept_deliver uikit.before before).takeResponder self uikit
  exact taken.trans (kept_deliver uikit.after fun ended => after ((taken.endedBy_iff _).mp ended))

theorem down_resign_of_ends (height : s.lastKeyboardHeight ≠ 0) (uikit : Responder)
    (ends : ResignEnds self uikit s) : Down (resignFirstResponder self uikit s) := by
  by_cases before : EndedBy uikit.before s
  · exact down_deliver (down_leaveResponder (down_deliver_of_endedBy height _ before) uikit) _
  · have left := (kept_deliver uikit.before before).leaveResponder self uikit
    refine down_deliver_of_endedBy ?_ _ ((left.endedBy_iff _).mpr (ends.resolve_left before))
    rw [left.height, leaveResponder_lastKeyboardHeight]
    exact height

theorem down_become_of_ends (height : s.lastKeyboardHeight ≠ 0) (uikit : Responder)
    (ends : BecomeEnds self uikit s) : Down (becomeFirstResponder self uikit s) := by
  by_cases before : EndedBy uikit.before s
  · exact down_deliver (down_takeResponder (down_deliver_of_endedBy height _ before) uikit) _
  · have taken := (kept_deliver uikit.before before).takeResponder self uikit
    refine down_deliver_of_endedBy ?_ _ ((taken.endedBy_iff _).mpr (ends.resolve_left before))
    rw [taken.height, takeResponder_lastKeyboardHeight]
    exact height

theorem down_disownUnlessPresented (down : Down s) (uikit : Responder) :
    Down (disownUnlessPresented self uikit s) := by
  unfold disownUnlessPresented
  split <;> exact down

theorem down_abandonUnlessPresented (down : Down s) (uikit : Responder) :
    Down (abandonUnlessPresented self uikit s) := by
  have disowned : Down (handKeyboard none .hidden s) := down
  unfold abandonUnlessPresented
  split
  · exact down
  · exact down_setIsEditable disowned self false

theorem down_claimKeyboard (down : Down s) (self : View) : Down (claimKeyboard self s) := by
  have handed : Down (handKeyboard (some self) .presenting s) := down
  exact down_setIsEditable handed self true

/-! ### A keyboard that is down stays down -/

theorem down_endForScroll (down : Down s) (uikit : Responder) :
    Down (endForScroll self uikit s) := by
  have resigned := down_setIsEditable (down_resignFirstResponder down self uikit) self false
  exact ⟨resigned.1, rfl⟩

theorem down_attemptAccessoryOnlyRecovery (down : Down s) (uikit : Answers) :
    Down (attemptAccessoryOnlyRecovery self uikit s) := by
  have dismissing : Down (s |> setRecovery true true |> enterState .dismissing) := down
  unfold attemptAccessoryOnlyRecovery
  split_ifs
  · exact down
  · exact down
  · exact ⟨down.1, rfl⟩
  · exact down_resignFirstResponder dismissing self uikit.self

theorem down_retryKeyboardAfterAccessoryOnlyFailure (down : Down s) (uikit : Answers) :
    Down (retryKeyboardAfterAccessoryOnlyFailure self uikit s) := by
  have tried := down_deliver
    (down_becomeFirstResponder (down_claimKeyboard down self) self uikit.self) uikit.reload
  exact down_disownUnlessPresented (down_setIsEditable tried self _) uikit.self

theorem down_finishAccessoryOnlyRecovery (down : Down s) (uikit : Answers) :
    Down (finishAccessoryOnlyRecovery self uikit s) := by
  have dismissing : Down
      (enterState .dismissing { s with keyboardBodyRetryInProgress := false }) := down
  unfold finishAccessoryOnlyRecovery
  dsimp only
  split
  · exact down
  · exact down_setIsEditable (down_resignFirstResponder dismissing self uikit.self) self false

theorem down_startFocusSession (down : Down s) (uikit : Answers) :
    Down (startFocusSession self uikit s) := by
  have fresh : Down (setRecovery false false s) := down
  have tried := down_becomeFirstResponder (down_claimKeyboard fresh self) self uikit.self
  exact down_setIsEditable (down_deliver (down_abandonUnlessPresented tried _) _) self _

theorem down_releasePreviousOwner {owner : View} (owns : s.keyboardOwner = some owner)
    (other : owner ≠ self) (uikit : Answers) : Down (releasePreviousOwner self uikit s) := by
  unfold releasePreviousOwner
  rw [owns]
  dsimp only
  rw [if_neg other]
  exact ⟨rfl, rfl⟩

theorem down_hideKeyboard (down : Down s) (uikit : Answers) :
    Down (hideKeyboard self uikit s) := by
  have dismissing : Down (enterState .dismissing s) := down
  exact down_setIsEditable (down_deliver
    (down_resignFirstResponder dismissing self uikit.self) uikit.reload) self false

/-! ### What becomes of a raised keyboard that no hide ends -/

theorem hideKeyboard_unended (uikit : Answers)
    (kept : ¬(ResignEnds self uikit.self (enterState .dismissing s) ∨
      EndedBy uikit.reload (leaveResponder self uikit.self (enterState .dismissing s)))) :
    (hideKeyboard self uikit s).keyboardState = .dismissing ∧
      (hideKeyboard self uikit s).lastKeyboardHeight = s.lastKeyboardHeight ∧
      (hideKeyboard self uikit s).viewportInset =
        if s.isEditable self = true then 0 else s.viewportInset := by
  obtain ⟨resigned, reloaded⟩ := not_or.mp kept
  have upTo := kept_resignFirstResponder uikit.self resigned
  have throughout := upTo.trans (kept_deliver uikit.reload fun ended =>
    reloaded ((upTo.endedBy_iff _).mp ended))
  refine ⟨?_, ?_, ?_⟩
  · rw [hideKeyboard, setIsEditable_keyboardState, throughout.state, leaveResponder_keyboardState]
    rfl
  · rw [hideKeyboard, setIsEditable_lastKeyboardHeight, throughout.height, leaveResponder_lastKeyboardHeight]
    rfl
  · rw [hideKeyboard, setIsEditable_false_viewportInset, throughout.editable, throughout.inset,
      leaveResponder_isEditable, leaveResponder_viewportInset]
    rfl

theorem presented_of_kept (uikit : Responder)
    (kept : Kept (takeResponder self uikit (claimKeyboard self s)) t) :
    presented self uikit t = presented self uikit s := by
  have claimed : (claimKeyboard self s).isFirstResponder = s.isFirstResponder :=
    setIsEditable_isFirstResponder self true _
  rw [presented, presented, kept.responder, takeResponder_isFirstResponder, claimed,
    ← Bool.or_assoc, Bool.or_self]

/-- What the retry leaves where no hide ends the keyboard during it. -/
structure Unended (view : View) (shows : Bool) (s t : State) : Prop where
  height : t.lastKeyboardHeight = s.lastKeyboardHeight
  owner : t.keyboardOwner = if shows then some view else none
  state : t.keyboardState = if shows then .presenting else .hidden
  inset : shows = true → t.viewportInset = s.viewportInset

theorem unended_of_kept (uikit : Responder)
    (kept : Kept (takeResponder self uikit (claimKeyboard self s)) t) :
    Unended self (presented self uikit s) s
      (t |> editableIfPresented self uikit |> disownUnlessPresented self uikit) := by
  have height : t.lastKeyboardHeight = s.lastKeyboardHeight := by
    rw [kept.height, takeResponder_lastKeyboardHeight, claimKeyboard_lastKeyboardHeight]
  have owner : t.keyboardOwner = some self := by
    rw [kept.owner, takeResponder_keyboardOwner]
    exact setIsEditable_keyboardOwner self true _
  have state : t.keyboardState = .presenting := by
    rw [kept.state, takeResponder_keyboardState]
    exact setIsEditable_keyboardState self true _
  have inset : t.viewportInset = s.viewportInset := by
    rw [kept.inset, takeResponder_viewportInset]
    exact setIsEditable_true_viewportInset self _
  have atEnd : presented self uikit (editableIfPresented self uikit t) =
      presented self uikit s := by
    rw [presented, editableIfPresented, setIsEditable_isFirstResponder]
    exact presented_of_kept uikit kept
  have before : presented self uikit t = presented self uikit s := presented_of_kept uikit kept
  simp only [disownUnlessPresented, atEnd]
  cases shows : presented self uikit s with
  | true =>
    rw [shows] at before
    have edited : editableIfPresented self uikit t = setIsEditable self true t := by
      rw [editableIfPresented, before]
    rw [if_pos rfl, edited]
    exact ⟨by rw [setIsEditable_lastKeyboardHeight, height],
      by rw [setIsEditable_keyboardOwner, owner]; rfl,
      by rw [setIsEditable_keyboardState, state]; rfl,
      fun _ => by rw [setIsEditable_true_viewportInset, inset]⟩
  | false =>
    rw [if_neg Bool.false_ne_true]
    refine ⟨?_, rfl, rfl, nofun⟩
    exact (setIsEditable_lastKeyboardHeight self _ t).trans height

theorem retry_unended (uikit : Answers) (became : ¬BecomeEnds self uikit.self (claimKeyboard self s))
    (reloaded : ¬EndedBy uikit.reload (takeResponder self uikit.self (claimKeyboard self s))) :
    Unended self (presented self uikit.self s) s
      (retryKeyboardAfterAccessoryOnlyFailure self uikit s) := by
  have upTo := kept_becomeFirstResponder uikit.self became
  have kept := upTo.trans (kept_deliver uikit.reload fun ended =>
    reloaded ((upTo.endedBy_iff _).mp ended))
  have unended := unended_of_kept uikit.self kept
  exact ⟨unended.height, unended.owner, unended.state, unended.inset⟩

theorem endForScroll_unended (uikit : Responder) (kept : ¬ResignEnds self uikit s) :
    (endForScroll self uikit s).lastKeyboardHeight = s.lastKeyboardHeight := by
  have left := kept_resignFirstResponder uikit kept
  exact (setIsEditable_lastKeyboardHeight self false _).trans
    (left.height.trans (leaveResponder_lastKeyboardHeight self uikit s))

theorem releasePreviousOwner_alone (uikit : Answers)
    (alone : ∀ owner, s.keyboardOwner = some owner → owner = self) :
    releasePreviousOwner self uikit s = s := by
  unfold releasePreviousOwner
  split
  · rfl
  · exact if_pos (alone _ ‹_›)

theorem kept_markMoved (s : State) : Kept s (markMoved s) := ⟨rfl, rfl, rfl, rfl, rfl, rfl, rfl⟩

theorem kept_touchesMoved (touches : List CGPoint) (uikit : Responder)
    (other : s.keyboardOwner ≠ some self) : Kept s (touchesMoved self touches uikit s) := by
  induction touches generalizing s with
  | nil => exact Kept.refl s
  | cons point touches ih =>
    have first : Kept s (touchMoved self uikit s point) := by
      unfold touchMoved
      dsimp only
      split_ifs with beyond owns
      · exact absurd owns other
      · exact kept_markMoved s
      · exact Kept.refl s
    exact first.trans (ih (first.owner.symm ▸ other))

end BlinkerFluid.KeyboardHide
