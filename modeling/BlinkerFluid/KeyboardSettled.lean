import BlinkerFluid.KeyboardHide
import BlinkerFluid.KeyboardOwner

/-! Steps that leave neither an inset nor a height behind. A raised keyboard that changes
hands or state without a hide reaching its owner keeps its height or its inset; the
condition names each such step, and every other one keeps the keyboard settled. -/

namespace BlinkerFluid.KeyboardSettled
open StepRun Keyboard KeyboardOwner KeyboardHide

/-- A live view owns a visible keyboard of a real height. -/
def KeyboardShown (s : State) : Prop :=
  s.keyboardOwner.any s.live = true ∧ s.keyboardState = .visible ∧
    realKeyboardMinHeight < s.lastKeyboardHeight

instance (s : State) : Decidable (KeyboardShown s) :=
  inferInstanceAs (Decidable (_ ∧ _ ∧ _))

def shownHeight (s : State) : ℚ := if KeyboardShown s then s.lastKeyboardHeight else 0

/-- The inset is right at once, whether anything is pending or not. -/
def InsetExact (s : State) : Prop :=
  s.viewportInset = shownHeight s ∧
    (s.keyboardState = .hidden → s.keyboardOwner = none → s.lastKeyboardHeight = 0)

/-- A hide ends a keyboard that the view gives up, or it had no height. -/
def ScrollKeeps (self : View) (uikit : Responder) (s : State) : Prop :=
  s.keyboardOwner = some self → s.lastKeyboardHeight = 0 ∨ ResignEnds self uikit s

/-- No shown keyboard is dismissed but by a hide, or by the end of editing in the view. -/
def HideKeeps (self : View) (uikit : Answers) (s : State) : Prop :=
  KeyboardShown s → s.isEditable self = true ∨
    ResignEnds self uikit.self (enterState .dismissing s) ∨
    EndedBy uikit.reload (leaveResponder self uikit.self (enterState .dismissing s))

/-- The retry finds no height, or a hide ends the keyboard during the retry, or it
succeeds where no keyboard is shown. -/
def RetryKeeps (self : View) (uikit : Answers) (s : State) : Prop :=
  s.lastKeyboardHeight = 0 ∨
    BecomeEnds self uikit.self (claimKeyboard self s) ∨
    EndedBy uikit.reload (takeResponder self uikit.self (claimKeyboard self s)) ∨
    ¬KeyboardShown s ∧ presented self uikit.self s = true

/-- A presentation that no previous owner makes way for finds no height, or succeeds, or
a hide ends the keyboard during it. -/
def PresentKeeps (self : View) (uikit : Answers) (s : State) : Prop :=
  (∀ owner, s.keyboardOwner = some owner → owner = self) →
    s.lastKeyboardHeight = 0 ∨ uikit.self.accepted = true ∨
      BecomeEnds self uikit.self (beginSession self s)

def ShowKeeps (self : View) (bounds : CGSize) (uikit : Answers) (s : State) : Prop :=
  if requestSuppressed self bounds s then KeyboardShown s → s.isEditable self = false
  else if requestCoolingDown s then True
  else if requestRefreshes self s then True
  else PresentKeeps self uikit (s |> noteRequest |> endCooldown)

def CallKeeps (self : View) (uikit : Answers) (s : State) : Call → Prop
  | .notification _ => True
  | .touchesBegan _ => True
  | .touchesMoved touches =>
    (∃ point ∈ touches, beyondTap s.touchSequenceOrigin point = true) →
      ScrollKeeps self uikit.self s
  | .touchesEnded => s.touchSequenceMoved = true → ScrollKeeps self uikit.self s
  | .showKeyboard bounds => ShowKeeps self bounds uikit s
  | .hideKeyboard => HideKeeps self uikit s
  | .userDismissKeyboard => HideKeeps self uikit (noteDismissal s)
  | .resign => True

/-- The block of `keyboardDidHide` finds no keyboard shown. -/
def WorkKeeps (uikit : Answers) (s : State) : Work → Prop
  | .zeroInset => ¬KeyboardShown s
  | .perform self .retryKeyboardAfterAccessoryOnlyFailure => RetryKeeps self uikit s
  | .perform _ _ => True

/-- A step that leaves neither an inset nor a height behind. -/
def StepKeeps (s : State) : Event → Prop
  | .elapse _ => True
  | .create _ => True
  | .dealloc view => s.live view = true → retained view s = false →
      s.keyboardOwner = some view → s.weakReadsInDealloc = true ∨ ¬KeyboardShown s
  | .pressesBegan => True
  | .fire index uikit =>
    ∀ delayed ∈ dueAt index s, WorkKeeps uikit (dequeue index s) delayed.work
  | .call view call uikit => s.live view = true → CallKeeps view uikit s call

/-- The inset is exact, every height is that of a real keyboard, a hidden keyboard has
none, nor has a visible one that nobody owns. -/
structure Settled (s : State) : Prop where
  owned : Owned s
  height : s.lastKeyboardHeight = 0 ∨ realKeyboardMinHeight < s.lastKeyboardHeight
  inset : s.viewportInset = shownHeight s
  hidden : s.keyboardState = .hidden → s.lastKeyboardHeight = 0
  visible : s.keyboardState = .visible → s.keyboardOwner = none → s.lastKeyboardHeight = 0

theorem Settled.exact {s : State} (settled : Settled s) : InsetExact s :=
  ⟨settled.inset, fun hidden _ => settled.hidden hidden⟩

instance (self : View) (uikit : Responder) (s : State) : Decidable (ScrollKeeps self uikit s) :=
  inferInstanceAs (Decidable (_ → _ ∨ _))

instance (self : View) (uikit : Answers) (s : State) : Decidable (HideKeeps self uikit s) :=
  inferInstanceAs (Decidable (_ → _ ∨ _ ∨ _))

instance (self : View) (uikit : Answers) (s : State) : Decidable (RetryKeeps self uikit s) :=
  inferInstanceAs (Decidable (_ ∨ _ ∨ _ ∨ _ ∧ _))

instance (self : View) (uikit : Answers) (s : State) : Decidable (PresentKeeps self uikit s) :=
  have : Decidable (∀ owner, s.keyboardOwner = some owner → owner = self) :=
    inferInstanceAs (Decidable (∀ owner ∈ s.keyboardOwner, owner = self))
  inferInstanceAs (Decidable (_ → _ ∨ _ ∨ _))

instance (self : View) (bounds : CGSize) (uikit : Answers) (s : State) :
    Decidable (ShowKeeps self bounds uikit s) :=
  inferInstanceAs (Decidable
    (if requestSuppressed self bounds s then KeyboardShown s → s.isEditable self = false
    else if requestCoolingDown s then True
    else if requestRefreshes self s then True
    else PresentKeeps self uikit (s |> noteRequest |> endCooldown)))

instance (self : View) (uikit : Answers) (s : State) : DecidablePred (CallKeeps self uikit s)
  | .notification _ => isTrue trivial
  | .touchesBegan _ => isTrue trivial
  | .touchesMoved _ => inferInstanceAs (Decidable ((∃ _ ∈ _, _) → _))
  | .touchesEnded => inferInstanceAs (Decidable (_ → _))
  | .showKeyboard bounds => inferInstanceAs (Decidable (ShowKeeps self bounds uikit s))
  | .hideKeyboard => inferInstanceAs (Decidable (HideKeeps self uikit s))
  | .userDismissKeyboard => inferInstanceAs (Decidable (HideKeeps self uikit _))
  | .resign => isTrue trivial

instance (uikit : Answers) (s : State) : DecidablePred (WorkKeeps uikit s)
  | .zeroInset => inferInstanceAs (Decidable (¬_))
  | .perform self .retryKeyboardAfterAccessoryOnlyFailure =>
    inferInstanceAs (Decidable (RetryKeeps self uikit s))
  | .perform _ .applyPendingKeyboardFrame => isTrue trivial
  | .perform _ .attemptAccessoryOnlyRecovery => isTrue trivial
  | .perform _ .finishAccessoryOnlyRecovery => isTrue trivial

instance (s : State) : DecidablePred (StepKeeps s)
  | .elapse _ => isTrue trivial
  | .create _ => isTrue trivial
  | .dealloc _ => inferInstanceAs (Decidable (_ → _ → _ → _ ∨ _))
  | .pressesBegan => isTrue trivial
  | .fire index uikit =>
    inferInstanceAs (Decidable (∀ delayed ∈ dueAt index s,
      WorkKeeps uikit (dequeue index s) delayed.work))
  | .call view call uikit =>
    inferInstanceAs (Decidable (s.live view = true → CallKeeps view uikit s call))

variable {s t : State} {self : View}

theorem keyboardShown_iff (owned : Owned s) :
    KeyboardShown s ↔ s.keyboardOwner ≠ none ∧ s.keyboardState = .visible ∧
      realKeyboardMinHeight < s.lastKeyboardHeight := by
  have owners : s.keyboardOwner.any s.live = true ↔ s.keyboardOwner ≠ none := by
    cases atOwner : s.keyboardOwner with
    | none => simp
    | some view => simp [owned.owner view atOwner]
  rw [KeyboardShown, owners]

theorem KeyboardShown.height_ne (shown : KeyboardShown s) : s.lastKeyboardHeight ≠ 0 := by
  intro zero
  have real := shown.2.2
  rw [zero] at real
  exact absurd real (by decide)

theorem shownHeight_of_not_shown (shown : ¬KeyboardShown s) : shownHeight s = 0 := if_neg shown

theorem shownHeight_of_down (down : s.lastKeyboardHeight = 0) : shownHeight s = 0 :=
  shownHeight_of_not_shown fun shown => shown.height_ne down

theorem shownHeight_of_state (state : s.keyboardState ≠ .visible) : shownHeight s = 0 :=
  shownHeight_of_not_shown fun shown => state shown.2.1

theorem shownHeight_of_unowned (owner : s.keyboardOwner = none) : shownHeight s = 0 :=
  shownHeight_of_not_shown fun shown => by simp [KeyboardShown, owner] at shown

theorem settled_of_down (owned : Owned s) (down : Down s) : Settled s :=
  ⟨owned, .inl down.1, down.2.trans (shownHeight_of_down down.1).symm, fun _ => down.1,
    fun _ _ => down.1⟩

theorem Settled.down (settled : Settled s) (height : s.lastKeyboardHeight = 0) : Down s :=
  ⟨height, settled.inset.trans (shownHeight_of_down height)⟩

theorem Settled.real (settled : Settled s) (height : s.lastKeyboardHeight ≠ 0) :
    realKeyboardMinHeight < s.lastKeyboardHeight := settled.height.resolve_left height

theorem Settled.congr (settled : Settled s) (owned : Owned t)
    (owner : t.keyboardOwner = s.keyboardOwner) (state : t.keyboardState = s.keyboardState)
    (height : t.lastKeyboardHeight = s.lastKeyboardHeight)
    (inset : t.viewportInset = s.viewportInset) : Settled t := by
  have shown : KeyboardShown t ↔ KeyboardShown s := by
    rw [keyboardShown_iff owned, keyboardShown_iff settled.owned, owner, state, height]
  refine ⟨owned, height ▸ settled.height, ?_, ?_, ?_⟩
  · rw [inset, settled.inset, shownHeight, shownHeight, height]
    simp only [shown]
  · rw [state, height]
    exact settled.hidden
  · rw [state, owner, height]
    exact settled.visible

theorem Settled.kept (settled : Settled s) (owned : Owned t) (kept : Kept s t) : Settled t :=
  settled.congr owned kept.owner kept.state kept.height kept.inset

theorem settled_of_raised (owned : Owned t) (height : realKeyboardMinHeight < t.lastKeyboardHeight)
    (inset : t.viewportInset = 0) (hidden : t.keyboardState ≠ .hidden)
    (visible : t.keyboardState ≠ .visible) : Settled t :=
  ⟨owned, .inr height, inset.trans (shownHeight_of_state visible).symm,
    fun atHidden => absurd atHidden hidden, fun atVisible => absurd atVisible visible⟩

theorem settled_observe (settled : Settled s) (delivery : Delivery) :
    Settled (observe s delivery) := by
  have owned := (ownedBy_observe settled.owned delivery).owned
  by_cases height : s.lastKeyboardHeight = 0
  · exact settled_of_down owned (down_observe (settled.down height) delivery)
  · by_cases ends : Ends s delivery
    · exact settled_of_down owned (down_observe_of_ends height ends)
    · exact settled.kept owned (kept_observe ends)

theorem settled_deliver (settled : Settled s) (deliveries : List Delivery) :
    Settled (deliver deliveries s) := by
  have kept (t : State) (delivery : Delivery) (settled : Settled t) :
      Settled (observe t delivery) := settled_observe settled delivery
  exact invariant_always kept s deliveries settled

theorem settled_resignFirstResponder (settled : Settled s) (self : View) (uikit : Responder) :
    Settled (resignFirstResponder self uikit s) := by
  have before := settled_deliver settled uikit.before
  refine settled_deliver ?_ uikit.after
  unfold leaveResponder
  split
  · exact before.congr (before.owned.congr rfl rfl rfl) rfl rfl rfl rfl
  · exact before

theorem settled_applyPendingKeyboardFrame (settled : Settled s) :
    Settled (applyPendingKeyboardFrame self s) := by
  have owned : Owned (applyPendingKeyboardFrame self s) :=
    (ownedBy_applyPendingKeyboardFrame settled.owned).owned
  unfold applyPendingKeyboardFrame at owned ⊢
  split_ifs with other ignored accessory short
  · exact settled
  · exact settled
  · exact settled
  · exact settled
  · rw [if_neg other, if_neg ignored, if_neg accessory, if_neg short] at owned
    have owns : s.keyboardOwner = some self := not_not.mp other
    have real : realKeyboardMinHeight < s.pendingKeyboardHeight := not_le.mp short
    refine ⟨owned, .inr real, ?_, nofun, fun _ unowned => ?_⟩
    · refine (if_pos ((keyboardShown_iff owned).mpr ⟨?_, rfl, real⟩)).symm
      exact fun unowned => Option.some_ne_none self (owns.symm.trans unowned)
    · exact absurd (owns.symm.trans unowned) (Option.some_ne_none self)

/-! ### A step that meets the condition settles the keyboard, one that does not disagrees -/

theorem not_exact_of_height (height : s.lastKeyboardHeight ≠ 0)
    (hidden : s.keyboardState = .hidden) (owner : s.keyboardOwner = none) : ¬InsetExact s :=
  fun exact => height (exact.2 hidden owner)

theorem not_exact_of_inset (inset : s.viewportInset ≠ 0) (shown : ¬KeyboardShown s) :
    ¬InsetExact s := fun exact => inset (exact.1.trans (shownHeight_of_not_shown shown))

theorem Settled.inset_of_shown (settled : Settled s) (shown : KeyboardShown s) :
    s.viewportInset ≠ 0 := by
  rw [settled.inset, shownHeight, if_pos shown]
  exact shown.height_ne

theorem Settled.inset_of_not_shown (settled : Settled s) (shown : ¬KeyboardShown s) :
    s.viewportInset = 0 := settled.inset.trans (shownHeight_of_not_shown shown)

theorem settled_endForScroll (settled : Settled s) (uikit : Responder)
    (keeps : s.lastKeyboardHeight = 0 ∨ ResignEnds self uikit s) :
    Settled (endForScroll self uikit s) := by
  have owned : Owned (endForScroll self uikit s) :=
    (ownedBy_endForScroll settled.owned uikit).owned
  by_cases height : s.lastKeyboardHeight = 0
  · exact settled_of_down owned (down_endForScroll (settled.down height) uikit)
  · have resigned := down_resign_of_ends height uikit (keeps.resolve_left height)
    exact settled_of_down owned ⟨(down_setIsEditable resigned self false).1, rfl⟩

theorem settled_hideKeyboard (settled : Settled s) (uikit : Answers)
    (keeps : HideKeeps self uikit s) : Settled (hideKeyboard self uikit s) := by
  have owned : Owned (hideKeyboard self uikit s) :=
    (ownedBy_hideKeyboard settled.owned uikit).owned
  by_cases height : s.lastKeyboardHeight = 0
  · exact settled_of_down owned (down_hideKeyboard (settled.down height) uikit)
  by_cases ends : ResignEnds self uikit.self (enterState .dismissing s) ∨
      EndedBy uikit.reload (leaveResponder self uikit.self (enterState .dismissing s))
  · refine settled_of_down owned (down_setIsEditable ?_ self false)
    by_cases resigned : ResignEnds self uikit.self (enterState .dismissing s)
    · have raised : (enterState .dismissing s).lastKeyboardHeight ≠ 0 := height
      exact down_deliver (down_resign_of_ends raised uikit.self resigned) uikit.reload
    · have left := kept_resignFirstResponder uikit.self resigned
      refine down_deliver_of_endedBy ?_ uikit.reload
        ((left.endedBy_iff _).mpr (ends.resolve_left resigned))
      rw [left.height, leaveResponder_lastKeyboardHeight]
      exact height
  · obtain ⟨state, kept, inset⟩ := hideKeyboard_unended uikit ends
    refine settled_of_raised owned ?_ ?_ (by simp [state]) (by simp [state])
    · rw [kept]
      exact settled.real height
    · rw [inset]
      split
      · rfl
      · rename_i uneditable
        refine settled.inset_of_not_shown fun shown => ?_
        exact (keeps shown).elim uneditable ends

theorem hideKeyboard_not_exact (settled : Settled s) (uikit : Answers)
    (leaves : ¬HideKeeps self uikit s) : ¬InsetExact (hideKeyboard self uikit s) := by
  obtain ⟨shown, kept⟩ := Classical.not_imp.mp leaves
  obtain ⟨uneditable, ends⟩ := not_or.mp kept
  obtain ⟨state, -, inset⟩ := hideKeyboard_unended uikit ends
  refine not_exact_of_inset ?_ fun atEnd => by simp [atEnd.2.1] at state
  rw [inset, if_neg uneditable]
  exact settled.inset_of_shown shown

theorem settled_retry (settled : Settled s) (alive : s.live self = true) (uikit : Answers)
    (keeps : RetryKeeps self uikit s) :
    Settled (retryKeyboardAfterAccessoryOnlyFailure self uikit s) := by
  have owned : Owned (retryKeyboardAfterAccessoryOnlyFailure self uikit s) :=
    (ownedBy_retryKeyboardAfterAccessoryOnlyFailure settled.owned alive uikit).owned
  by_cases height : s.lastKeyboardHeight = 0
  · exact settled_of_down owned
      (down_retryKeyboardAfterAccessoryOnlyFailure (settled.down height) uikit)
  have claimed : (claimKeyboard self s).lastKeyboardHeight ≠ 0 := by
    rwa [claimKeyboard_lastKeyboardHeight]
  by_cases became : BecomeEnds self uikit.self (claimKeyboard self s)
  · have tried := down_deliver (down_become_of_ends claimed uikit.self became) uikit.reload
    exact settled_of_down owned
      (down_disownUnlessPresented (down_setIsEditable tried self _) uikit.self)
  by_cases reloaded :
      EndedBy uikit.reload (takeResponder self uikit.self (claimKeyboard self s))
  · have taken := kept_becomeFirstResponder uikit.self became
    have tried := down_deliver_of_endedBy
      (by rw [taken.height, takeResponder_lastKeyboardHeight]; exact claimed) uikit.reload
      ((taken.endedBy_iff _).mpr reloaded)
    exact settled_of_down owned
      (down_disownUnlessPresented (down_setIsEditable tried self _) uikit.self)
  · obtain ⟨shown, shows⟩ :=
      ((keeps.resolve_left height).resolve_left became).resolve_left reloaded
    have unended := retry_unended uikit became reloaded
    have state := unended.state
    rw [if_pos shows] at state
    refine settled_of_raised owned ?_ ?_ (by simp [state]) (by simp [state])
    · rw [unended.height]
      exact settled.real height
    · rw [unended.inset shows]
      exact settled.inset_of_not_shown shown

theorem retry_not_exact (settled : Settled s) (uikit : Answers)
    (leaves : ¬RetryKeeps self uikit s) :
    ¬InsetExact (retryKeyboardAfterAccessoryOnlyFailure self uikit s) := by
  simp only [RetryKeeps, not_or, not_and] at leaves
  obtain ⟨height, became, reloaded, shows⟩ := leaves
  have unended := retry_unended uikit became reloaded
  cases atEnd : presented self uikit.self s with
  | false =>
    rw [atEnd] at unended
    exact not_exact_of_height (unended.height ▸ height) unended.state unended.owner
  | true =>
    rw [atEnd] at unended
    have shown : KeyboardShown s := by
      by_contra hidden
      exact shows hidden atEnd
    have state := unended.state
    refine not_exact_of_inset ?_ fun visible => by simp [visible.2.1] at state
    rw [unended.inset rfl]
    exact settled.inset_of_shown shown

theorem settled_startFocusSession (settled : Settled s) (alive : s.live self = true)
    (uikit : Answers) (shown : ¬KeyboardShown s)
    (keeps : s.lastKeyboardHeight = 0 ∨ uikit.self.accepted = true ∨
      BecomeEnds self uikit.self (beginSession self s)) :
    Settled (startFocusSession self uikit s) := by
  have owned : Owned (startFocusSession self uikit s) :=
    (ownedBy_startFocusSession settled.owned alive uikit).owned
  by_cases height : s.lastKeyboardHeight = 0
  · exact settled_of_down owned (down_startFocusSession (settled.down height) uikit)
  have fresh : (beginSession self s).lastKeyboardHeight ≠ 0 := by
    rwa [beginSession_lastKeyboardHeight]
  by_cases became : BecomeEnds self uikit.self (beginSession self s)
  · have tried := down_become_of_ends fresh uikit.self became
    exact settled_of_down owned
      (down_setIsEditable (down_deliver (down_abandonUnlessPresented tried _) _) self _)
  have accepted := (keeps.resolve_left height).resolve_right became
  have shows (u : State) : presented self uikit.self u = true := by
    rw [presented, accepted, Bool.true_or]
  have final : startFocusSession self uikit s =
      performAfterDelay self .attemptAccessoryOnlyRecovery (45 / 100)
        (editableIfPresented self uikit.self (deliver uikit.reload
          (becomeFirstResponder self uikit.self (beginSession self s)))) := by
    rw [startFocusSession, abandonUnlessPresented, if_pos (shows _)]
  have kept := kept_becomeFirstResponder uikit.self became
  by_cases reloaded : EndedBy uikit.reload (takeResponder self uikit.self (beginSession self s))
  · have raised : (becomeFirstResponder self uikit.self (beginSession self s)).lastKeyboardHeight
        ≠ 0 := by rwa [kept.height, takeResponder_lastKeyboardHeight]
    have ended := down_deliver_of_endedBy raised uikit.reload ((kept.endedBy_iff _).mpr reloaded)
    refine settled_of_down owned ?_
    rw [final]
    exact down_setIsEditable ended self _
  · have throughout := kept.trans (kept_deliver uikit.reload fun ended =>
      reloaded ((kept.endedBy_iff _).mp ended))
    have unended := unended_of_kept uikit.self throughout
    rw [shows, disownUnlessPresented, if_pos (shows _)] at unended
    have state := unended.state
    have left := settled.inset_of_not_shown shown
    rw [final] at owned ⊢
    refine settled_of_raised owned ?_ ?_ ?_ ?_
    · exact (settled.real height).trans_eq unended.height.symm
    · exact (unended.inset rfl).trans left
    · exact fun hidden => by cases hidden.symm.trans state
    · exact fun visible => by cases visible.symm.trans state

theorem startFocusSession_not_exact (uikit : Answers) (height : s.lastKeyboardHeight ≠ 0)
    (shows : presented self uikit.self s = false)
    (kept : ¬BecomeEnds self uikit.self (beginSession self s)) :
    ¬InsetExact (startFocusSession self uikit s) := by
  have upTo := kept_becomeFirstResponder uikit.self kept
  have unpresented : presented self uikit.self (becomeFirstResponder self uikit.self
      (beginSession self s)) = false :=
    (presented_of_kept uikit.self upTo).trans shows
  have abandoned : abandonUnlessPresented self uikit.self
      (becomeFirstResponder self uikit.self (beginSession self s)) =
      setIsEditable self false
        (handKeyboard none .hidden (becomeFirstResponder self uikit.self (beginSession self s))) :=
    if_neg (by rw [unpresented]; exact Bool.false_ne_true)
  have unowned : ¬EndedBy uikit.reload (setIsEditable self false
      (handKeyboard none .hidden (becomeFirstResponder self uikit.self (beginSession self s)))) := by
    rintro ⟨delivery, -, owns, -⟩
    rw [setIsEditable_keyboardOwner] at owns
    cases owns
  have after := kept_deliver uikit.reload unowned
  rw [startFocusSession, abandoned]
  refine not_exact_of_height (fun zero => height ?_) ?_ ?_
  · rw [← zero]
    refine Eq.symm ((setIsEditable_lastKeyboardHeight self _ _).trans (after.height.trans ?_))
    refine (setIsEditable_lastKeyboardHeight self false _).trans (upTo.height.trans ?_)
    rw [takeResponder_lastKeyboardHeight, beginSession_lastKeyboardHeight]
  · refine (setIsEditable_keyboardState self _ _).trans (after.state.trans ?_)
    exact setIsEditable_keyboardState self false _
  · refine (setIsEditable_keyboardOwner self _ _).trans (after.owner.trans ?_)
    exact setIsEditable_keyboardOwner self false _

theorem not_shown_of_presents (owned : Owned s) (refreshes : requestRefreshes self s = false)
    (alone : ∀ owner, s.keyboardOwner = some owner → owner = self) : ¬KeyboardShown s := by
  intro shown
  obtain ⟨owned', visible, -⟩ := (keyboardShown_iff owned).mp shown
  obtain ⟨owner, owns⟩ := Option.ne_none_iff_exists'.mp owned'
  obtain rfl := alone owner owns
  simp [requestRefreshes, owns, visible] at refreshes

theorem settled_present (settled : Settled s) (alive : s.live self = true) (uikit : Answers)
    (refreshes : requestRefreshes self s = false) (keeps : PresentKeeps self uikit s) :
    Settled (presentKeyboardForNewFocusSession self uikit s) := by
  by_cases alone : ∀ owner, s.keyboardOwner = some owner → owner = self
  · rw [presentKeyboardForNewFocusSession, releasePreviousOwner_alone uikit alone]
    have shown := not_shown_of_presents settled.owned refreshes alone
    exact settled_startFocusSession settled alive uikit shown (keeps alone)
  · obtain ⟨owner, owns, other⟩ : ∃ owner, s.keyboardOwner = some owner ∧ owner ≠ self := by
      simpa only [not_forall, exists_prop] using alone
    have released := down_releasePreviousOwner owns other uikit
    exact settled_of_down
      (ownedBy_presentKeyboardForNewFocusSession settled.owned alive uikit).owned
      (down_startFocusSession released uikit)

theorem present_not_exact (uikit : Answers) (refreshes : requestRefreshes self s = false)
    (leaves : ¬PresentKeeps self uikit s) :
    ¬InsetExact (presentKeyboardForNewFocusSession self uikit s) := by
  obtain ⟨alone, kept⟩ := Classical.not_imp.mp leaves
  obtain ⟨height, refused, became⟩ : s.lastKeyboardHeight ≠ 0 ∧
      ¬uikit.self.accepted = true ∧ ¬BecomeEnds self uikit.self (beginSession self s) := by
    simpa only [not_or] using kept
  have shows : presented self uikit.self s = false := by
    rw [requestRefreshes, Bool.or_eq_false_iff] at refreshes
    rw [presented, refreshes.1, Bool.or_false]
    exact Bool.eq_false_iff.mpr refused
  rw [presentKeyboardForNewFocusSession, releasePreviousOwner_alone uikit alone]
  exact startFocusSession_not_exact uikit height shows became

theorem settled_setIsEditable_true (settled : Settled s) :
    Settled (setIsEditable self true s) :=
  settled.congr (ownedBy_setIsEditable settled.owned self true).owned
    (setIsEditable_keyboardOwner ..) (setIsEditable_keyboardState ..)
    (setIsEditable_lastKeyboardHeight ..) (setIsEditable_true_viewportInset ..)

theorem settled_refresh (settled : Settled s) :
    Settled (refreshRelocationAfterTextCommit s) := by
  unfold refreshRelocationAfterTextCommit
  split
  · exact settled
  · rename_i visible
    obtain ⟨visible, real⟩ := not_or.mp visible
    have raised : s.lastKeyboardHeight ≠ 0 := fun zero => real (by rw [zero]; decide)
    have shown : KeyboardShown s := by
      refine (keyboardShown_iff settled.owned).mpr ⟨fun unowned => raised ?_, ?_, not_le.mp real⟩
      · exact settled.visible (not_not.mp visible) unowned
      · exact not_not.mp visible
    have same : s.viewportInset = s.lastKeyboardHeight := by
      rw [settled.inset, shownHeight, if_pos shown]
    exact settled.congr (settled.owned.congr rfl rfl rfl) rfl rfl rfl same.symm

theorem settled_showKeyboard (settled : Settled s) (alive : s.live self = true)
    (bounds : CGSize) (uikit : Answers) (keeps : ShowKeeps self bounds uikit s) :
    Settled (showKeyboard self bounds uikit s) := by
  have requested : Settled (noteRequest s) :=
    settled.congr (settled.owned.congr rfl rfl rfl) rfl rfl rfl rfl
  have warm : Settled (s |> noteRequest |> endCooldown) :=
    requested.congr (settled.owned.congr rfl rfl rfl) rfl rfl rfl rfl
  unfold showKeyboard
  unfold ShowKeeps at keeps
  split_ifs at keeps ⊢ with suppressed cooling refreshes
  · by_cases shown : KeyboardShown s
    · have same : setIsEditable self false (noteRequest s) = noteRequest s :=
        if_pos (keeps shown).symm
      rwa [same]
    · refine requested.congr (ownedBy_setIsEditable requested.owned self false).owned
        (setIsEditable_keyboardOwner ..) (setIsEditable_keyboardState ..)
        (setIsEditable_lastKeyboardHeight ..) ?_
      have left : (noteRequest s).viewportInset = 0 := settled.inset_of_not_shown shown
      rw [setIsEditable_false_viewportInset, left, ite_self]
  · exact requested
  · exact settled_setIsEditable_true (settled_refresh warm)
  · refine settled_present warm alive uikit ?_ keeps
    exact Bool.eq_false_iff.mpr refreshes

theorem showKeyboard_not_exact (settled : Settled s) (bounds : CGSize) (uikit : Answers)
    (leaves : ¬ShowKeeps self bounds uikit s) : ¬InsetExact (showKeyboard self bounds uikit s) := by
  unfold showKeyboard
  unfold ShowKeeps at leaves
  split_ifs at leaves ⊢ with suppressed cooling refreshes
  · obtain ⟨shown, editable⟩ := Classical.not_imp.mp leaves
    have zeroed : (setIsEditable self false (noteRequest s)).viewportInset = 0 := by
      rw [setIsEditable_false_viewportInset]
      exact if_pos (Bool.not_eq_false _ ▸ editable)
    have owned : Owned (noteRequest s) := settled.owned.congr rfl rfl rfl
    have stays : KeyboardShown (setIsEditable self false (noteRequest s)) := by
      rw [keyboardShown_iff (ownedBy_setIsEditable owned self false).owned,
        setIsEditable_keyboardOwner, setIsEditable_keyboardState, setIsEditable_lastKeyboardHeight]
      exact (keyboardShown_iff settled.owned).mp shown
    intro exact
    have inset := exact.1
    rw [zeroed, shownHeight, if_pos stays] at inset
    exact stays.height_ne inset.symm
  · exact absurd trivial leaves
  · exact absurd trivial leaves
  · exact present_not_exact uikit (Bool.eq_false_iff.mpr refreshes) leaves

theorem settled_touchesMoved (settled : Settled s) (touches : List CGPoint) (uikit : Responder)
    (keeps : (∃ point ∈ touches, beyondTap s.touchSequenceOrigin point = true) →
      ScrollKeeps self uikit s) : Settled (touchesMoved self touches uikit s) := by
  have owned : Owned (touchesMoved self touches uikit s) :=
    (ownedBy_touchesMoved settled.owned touches uikit).owned
  by_cases other : s.keyboardOwner ≠ some self
  · exact settled.kept owned (kept_touchesMoved touches uikit other)
  have owns := not_not.mp other
  induction touches with
  | nil => exact settled
  | cons point touches ih =>
    by_cases beyond : beyondTap s.touchSequenceOrigin point = true
    · have first : touchMoved self uikit s point = endForScroll self uikit (markMoved s) := by
        rw [touchMoved, if_pos beyond]
        exact if_pos owns
      have marked := kept_markMoved s
      have before : Settled (markMoved s) := settled.kept (settled.owned.congr rfl rfl rfl) marked
      have ended : Settled (endForScroll self uikit (markMoved s)) := by
        refine settled_endForScroll before uikit ?_
        rw [marked.resignEnds_iff, marked.height]
        exact keeps ⟨point, List.mem_cons_self, beyond⟩ owns
      rw [touchesMoved, List.foldl_cons, first] at owned ⊢
      exact ended.kept owned (kept_touchesMoved touches uikit nofun)
    · have first : touchMoved self uikit s point = s := if_neg beyond
      rw [touchesMoved, List.foldl_cons, first] at owned ⊢
      refine ih (fun ⟨later, mem, far⟩ => keeps ⟨later, List.mem_cons_of_mem _ mem, far⟩) owned

theorem touchesMoved_not_exact (touches : List CGPoint) (uikit : Responder)
    (beyond : ∃ point ∈ touches, beyondTap s.touchSequenceOrigin point = true)
    (leaves : ¬ScrollKeeps self uikit s) : ¬InsetExact (touchesMoved self touches uikit s) := by
  obtain ⟨owns, kept⟩ := Classical.not_imp.mp leaves
  obtain ⟨height, kept⟩ := not_or.mp kept
  induction touches with
  | nil => simp at beyond
  | cons point touches ih =>
    by_cases far : beyondTap s.touchSequenceOrigin point = true
    · have first : touchMoved self uikit s point = endForScroll self uikit (markMoved s) := by
        rw [touchMoved, if_pos far]
        exact if_pos owns
      have unended := endForScroll_unended uikit
        (fun ends => kept (((kept_markMoved s).resignEnds_iff self uikit).mp ends))
      have rest : Kept (endForScroll self uikit (markMoved s))
          (touchesMoved self touches uikit (endForScroll self uikit (markMoved s))) :=
        kept_touchesMoved touches uikit nofun
      rw [touchesMoved, List.foldl_cons, first]
      refine not_exact_of_height ?_ rest.state rest.owner
      rw [← touchesMoved, rest.height, unended]
      exact height
    · have first : touchMoved self uikit s point = s := if_neg far
      rw [touchesMoved, List.foldl_cons, first]
      obtain ⟨later, mem, farLater⟩ := beyond
      rcases List.mem_cons.mp mem with rfl | mem
      · exact absurd farLater far
      · exact ih ⟨later, mem, farLater⟩

theorem settled_touchesEnded (settled : Settled s) (uikit : Responder)
    (keeps : s.touchSequenceMoved = true → ScrollKeeps self uikit s) :
    Settled (touchesEnded self uikit s) := by
  have owned : Owned (touchesEnded self uikit s) :=
    (ownedBy_touchesEnded settled.owned uikit).owned
  have marked : Kept s (markScrollEnd s) := ⟨rfl, rfl, rfl, rfl, rfl, rfl, rfl⟩
  have settled' : Settled (markScrollEnd s) :=
    settled.kept (settled.owned.congr rfl rfl rfl) marked
  unfold touchesEnded at owned ⊢
  dsimp only at owned ⊢
  split_ifs at owned ⊢ with moved owns
  · refine (settled_endForScroll settled' uikit ?_).congr owned rfl rfl rfl rfl
    rw [marked.resignEnds_iff, marked.height]
    exact keeps moved owns
  · exact settled'.congr owned rfl rfl rfl rfl
  · exact settled.congr owned rfl rfl rfl rfl

theorem touchesEnded_not_exact (uikit : Responder) (moved : s.touchSequenceMoved = true)
    (leaves : ¬ScrollKeeps self uikit s) : ¬InsetExact (touchesEnded self uikit s) := by
  obtain ⟨owns, kept⟩ := Classical.not_imp.mp leaves
  obtain ⟨height, kept⟩ := not_or.mp kept
  have marked : Kept s (markScrollEnd s) := ⟨rfl, rfl, rfl, rfl, rfl, rfl, rfl⟩
  have ends : touchesEnded self uikit s =
      clearMoved (endForScroll self uikit (markScrollEnd s)) := by
    rw [touchesEnded, if_pos moved]
    exact congrArg clearMoved (if_pos owns)
  rw [ends]
  refine not_exact_of_height (fun zero => height ?_) rfl rfl
  exact (endForScroll_unended uikit fun ends =>
    kept ((marked.resignEnds_iff self uikit).mp ends)).symm.trans zero

theorem settled_finishAccessoryOnlyRecovery (settled : Settled s) (uikit : Answers) :
    Settled (finishAccessoryOnlyRecovery self uikit s) := by
  have owned : Owned (finishAccessoryOnlyRecovery self uikit s) :=
    (ownedBy_finishAccessoryOnlyRecovery settled.owned uikit).owned
  by_cases height : s.lastKeyboardHeight = 0
  · exact settled_of_down owned (down_finishAccessoryOnlyRecovery (settled.down height) uikit)
  · have stays : finishAccessoryOnlyRecovery self uikit s =
        { s with keyboardBodyRetryInProgress := false } := if_pos (settled.real height)
    rw [stays] at owned ⊢
    exact settled.congr owned rfl rfl rfl rfl

theorem settled_attemptAccessoryOnlyRecovery (settled : Settled s) (alive : s.live self = true)
    (uikit : Answers) : Settled (attemptAccessoryOnlyRecovery self uikit s) := by
  have owned : Owned (attemptAccessoryOnlyRecovery self uikit s) :=
    (ownedBy_attemptAccessoryOnlyRecovery settled.owned alive uikit).owned
  by_cases height : s.lastKeyboardHeight = 0
  · exact settled_of_down owned (down_attemptAccessoryOnlyRecovery (settled.down height) uikit)
  · have stays : attemptAccessoryOnlyRecovery self uikit s = s := by
      rw [attemptAccessoryOnlyRecovery, if_pos (settled.real height), ite_self]
    rwa [stays]

theorem settled_perform (settled : Settled s) (uikit : Answers) (work : Work)
    (alive : ∀ view selector, work = .perform view selector → s.live view = true)
    (keeps : WorkKeeps uikit s work) : Settled (perform uikit s work) := by
  cases work with
  | zeroInset =>
    have zero : s.viewportInset = 0 := settled.inset_of_not_shown keeps
    have owned : Owned (perform uikit s .zeroInset) := settled.owned.congr rfl rfl rfl
    exact settled.congr owned rfl rfl rfl zero.symm
  | perform view selector =>
    have living : s.live view = true := alive view selector rfl
    cases selector with
    | applyPendingKeyboardFrame => exact settled_applyPendingKeyboardFrame settled
    | attemptAccessoryOnlyRecovery =>
      exact settled_attemptAccessoryOnlyRecovery settled living uikit
    | retryKeyboardAfterAccessoryOnlyFailure => exact settled_retry settled living uikit keeps
    | finishAccessoryOnlyRecovery => exact settled_finishAccessoryOnlyRecovery settled uikit

theorem perform_not_exact (settled : Settled s) (uikit : Answers) (work : Work)
    (leaves : ¬WorkKeeps uikit s work) : ¬InsetExact (perform uikit s work) := by
  cases work with
  | zeroInset =>
    have shown : KeyboardShown s := not_not.mp leaves
    intro exact
    have inset : 0 = shownHeight s := exact.1
    rw [shownHeight, if_pos shown] at inset
    exact shown.height_ne inset.symm
  | perform view selector =>
    cases selector with
    | retryKeyboardAfterAccessoryOnlyFailure => exact retry_not_exact settled uikit leaves
    | applyPendingKeyboardFrame => exact absurd trivial leaves
    | attemptAccessoryOnlyRecovery => exact absurd trivial leaves
    | finishAccessoryOnlyRecovery => exact absurd trivial leaves

theorem settled_answer (settled : Settled s) (alive : s.live self = true) (uikit : Answers)
    (call : Call) (keeps : CallKeeps self uikit s call) : Settled (answer self uikit s call) := by
  cases call with
  | notification posted => exact settled_observe settled (self, posted)
  | touchesBegan firstTouch =>
    cases firstTouch <;> exact settled.congr (settled.owned.congr rfl rfl rfl) rfl rfl rfl rfl
  | touchesMoved touches => exact settled_touchesMoved settled touches uikit.self keeps
  | touchesEnded => exact settled_touchesEnded settled uikit.self keeps
  | showKeyboard bounds => exact settled_showKeyboard settled alive bounds uikit keeps
  | hideKeyboard => exact settled_hideKeyboard settled uikit keeps
  | userDismissKeyboard =>
    have noted : Settled (noteDismissal s) :=
      settled.congr (settled.owned.congr rfl rfl rfl) rfl rfl rfl rfl
    exact settled_hideKeyboard noted uikit keeps
  | resign => exact settled_resignFirstResponder settled self uikit.self

theorem answer_not_exact (settled : Settled s) (uikit : Answers) (call : Call)
    (leaves : ¬CallKeeps self uikit s call) : ¬InsetExact (answer self uikit s call) := by
  cases call with
  | notification posted => exact absurd trivial leaves
  | touchesBegan firstTouch => exact absurd trivial leaves
  | touchesMoved touches =>
    obtain ⟨beyond, leaves⟩ := Classical.not_imp.mp leaves
    exact touchesMoved_not_exact touches uikit.self beyond leaves
  | touchesEnded =>
    obtain ⟨moved, leaves⟩ := Classical.not_imp.mp leaves
    exact touchesEnded_not_exact uikit.self moved leaves
  | showKeyboard bounds => exact showKeyboard_not_exact settled bounds uikit leaves
  | hideKeyboard => exact hideKeyboard_not_exact settled uikit leaves
  | userDismissKeyboard =>
    have noted : Settled (noteDismissal s) :=
      settled.congr (settled.owned.congr rfl rfl rfl) rfl rfl rfl rfl
    exact hideKeyboard_not_exact noted uikit leaves
  | resign => exact absurd trivial leaves

end BlinkerFluid.KeyboardSettled
