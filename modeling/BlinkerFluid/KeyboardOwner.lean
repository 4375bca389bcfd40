import BlinkerFluid.Keyboard

/-! The owner of the keyboard is a live view, and so is every view that still has a
selector to perform: no part of the keyboard code moves either to a dead view. -/

namespace BlinkerFluid.KeyboardOwner
open StepRun Keyboard

/-- The live views, the owner among them, and the views of the delayed selectors. -/
structure OwnedBy (live : View → Bool) (s : State) : Prop where
  views : s.live = live
  owner : ∀ view, s.keyboardOwner = some view → live view = true
  delayed : ∀ delayed ∈ s.pending, ∀ view selector,
    delayed.work = .perform view selector → live view = true

variable {live : View → Bool} {s : State} {self : View}

theorem OwnedBy.congr {t : State} (owned : OwnedBy live s) (views : t.live = s.live)
    (owner : t.keyboardOwner = s.keyboardOwner) (pending : t.pending = s.pending) :
    OwnedBy live t :=
  ⟨views.trans owned.views, owner ▸ owned.owner, pending ▸ owned.delayed⟩

theorem ownedBy_handKeyboard_none (owned : OwnedBy live s) (state : KeyboardState) :
    OwnedBy live (handKeyboard none state s) :=
  ⟨owned.views, fun _ owns => by simp [handKeyboard] at owns, owned.delayed⟩

theorem ownedBy_handKeyboard_some (owned : OwnedBy live s) (alive : live self = true)
    (state : KeyboardState) : OwnedBy live (handKeyboard (some self) state s) :=
  ⟨owned.views, fun _ owns => Option.some.inj owns ▸ alive, owned.delayed⟩

theorem ownedBy_performAfterDelay (owned : OwnedBy live s) (alive : live self = true)
    (selector : Selector) (delay : ℚ) : OwnedBy live (performAfterDelay self selector delay s) := by
  refine ⟨owned.views, owned.owner, fun delayed mem view selector' work => ?_⟩
  rcases List.mem_append.mp mem with before | new
  · exact owned.delayed delayed before view selector' work
  · rw [List.mem_singleton.mp new] at work
    cases work
    exact alive

theorem ownedBy_zeroInsetAfterDelay (owned : OwnedBy live s) (delay : ℚ) :
    OwnedBy live (zeroInsetAfterDelay delay s) := by
  refine ⟨owned.views, owned.owner, fun delayed mem view selector work => ?_⟩
  rcases List.mem_append.mp mem with before | new
  · exact owned.delayed delayed before view selector work
  · rw [List.mem_singleton.mp new] at work
    cases work

theorem ownedBy_cancelPrevious (owned : OwnedBy live s) (view : View) (selector : Selector) :
    OwnedBy live (cancelPrevious view selector s) :=
  ⟨owned.views, owned.owner, fun delayed mem =>
    owned.delayed delayed (List.mem_of_mem_filter mem)⟩

theorem ownedBy_setKeyboardViewportInset (owned : OwnedBy live s) (inset : ℚ) :
    OwnedBy live (setKeyboardViewportInset inset s) := owned.congr rfl rfl rfl

theorem ownedBy_setIsEditable (owned : OwnedBy live s) (view : View) (value : Bool) :
    OwnedBy live (setIsEditable view value s) := by
  unfold setIsEditable
  split
  · exact owned
  · exact owned.congr rfl rfl rfl

theorem ownedBy_applyPendingKeyboardFrame (owned : OwnedBy live s) :
    OwnedBy live (applyPendingKeyboardFrame self s) := by
  unfold applyPendingKeyboardFrame
  split_ifs
  all_goals first | exact owned | exact owned.congr rfl rfl rfl

theorem ownedBy_coalesceKeyboardNotification (owned : OwnedBy live s) (height : ℚ) :
    OwnedBy live (coalesceKeyboardNotification self height s) := by
  unfold coalesceKeyboardNotification
  have remembered : OwnedBy live (rememberFrame height s) := owned.congr rfl rfl rfl
  split_ifs with other
  · exact owned
  · exact owned
  · exact remembered
  · have alive := owned.owner self (not_not.mp other)
    exact ownedBy_performAfterDelay (ownedBy_cancelPrevious remembered _ _) alive _ _

theorem ownedBy_noteHide (owned : OwnedBy live s) : OwnedBy live (noteHide s) := by
  unfold noteHide
  split
  · exact owned.congr rfl rfl rfl
  · exact owned

theorem ownedBy_hideFrame (owned : OwnedBy live s) : OwnedBy live (hideFrame self s) := by
  have hidden : OwnedBy live { s with
      lastKeyboardNotificationTime := s.now
      lastKeyboardHeight := 0
      keyboardState := .hidden } := owned.congr rfl rfl rfl
  exact (ownedBy_cancelPrevious hidden self .applyPendingKeyboardFrame).congr rfl rfl rfl

theorem ownedBy_keyboardWillHide (owned : OwnedBy live s) :
    OwnedBy live (keyboardWillHide self s) := by
  unfold keyboardWillHide
  dsimp only
  split_ifs
  · exact owned
  · exact owned
  · exact ownedBy_noteHide owned
  · exact ownedBy_hideFrame (ownedBy_noteHide owned)

theorem ownedBy_cancelRecovery (owned : OwnedBy live s) (view : View) :
    OwnedBy live (cancelRecovery view s) :=
  ownedBy_cancelPrevious (ownedBy_cancelPrevious (ownedBy_cancelPrevious owned _ _) _ _) _ _

theorem ownedBy_keyboardDidHide (owned : OwnedBy live s) :
    OwnedBy live (keyboardDidHide self s) := by
  unfold keyboardDidHide
  split
  · exact owned
  · rename_i other
    have alive := owned.owner self (not_not.mp other)
    have ended (retry : Bool) : OwnedBy live
        (s |> handKeyboard none .hidden |> forgetHeights |> setRecovery retry retry) :=
      (ownedBy_handKeyboard_none owned .hidden).congr rfl rfl rfl
    dsimp only
    refine ownedBy_zeroInsetAfterDelay ?_ _
    generalize s.keyboardBodyRetryInProgress = retry
    have cancelled := ownedBy_cancelRecovery (ended retry) self
    split_ifs
    · exact ownedBy_performAfterDelay (ownedBy_setKeyboardViewportInset cancelled 0) alive _ _
    · exact ownedBy_setKeyboardViewportInset (ownedBy_setIsEditable cancelled self false) 0

theorem ownedBy_observe (owned : OwnedBy live s) (delivery : Delivery) :
    OwnedBy live (observe s delivery) := by
  refine observe_cases (P := fun _ t => OwnedBy live t) delivery ?_ ?_ ?_
  · exact fun view _ height => ownedBy_coalesceKeyboardNotification owned height
  · exact fun view => ownedBy_keyboardWillHide owned
  · exact fun view => ownedBy_keyboardDidHide owned

theorem ownedBy_deliver (owned : OwnedBy live s) (deliveries : List Delivery) :
    OwnedBy live (deliver deliveries s) := by
  have kept (t : State) (delivery : Delivery) (owned : OwnedBy live t) :
      OwnedBy live (observe t delivery) := ownedBy_observe owned delivery
  exact invariant_always kept s deliveries owned

theorem ownedBy_becomeFirstResponder (owned : OwnedBy live s) (view : View) (uikit : Responder) :
    OwnedBy live (becomeFirstResponder view uikit s) := by
  have taken {t : State} (owned : OwnedBy live t) : OwnedBy live (takeResponder view uikit t) := by
    unfold takeResponder
    split
    · exact owned.congr rfl rfl rfl
    · exact owned
  exact ownedBy_deliver (taken (ownedBy_deliver owned _)) _

theorem ownedBy_resignFirstResponder (owned : OwnedBy live s) (view : View) (uikit : Responder) :
    OwnedBy live (resignFirstResponder view uikit s) := by
  have left {t : State} (owned : OwnedBy live t) : OwnedBy live (leaveResponder view uikit t) := by
    unfold leaveResponder
    split
    · exact owned.congr rfl rfl rfl
    · exact owned
  exact ownedBy_deliver (left (ownedBy_deliver owned _)) _

theorem ownedBy_endForScroll (owned : OwnedBy live s) (uikit : Responder) :
    OwnedBy live (endForScroll self uikit s) := by
  have resigned := ownedBy_setIsEditable (ownedBy_resignFirstResponder owned self uikit) self false
  exact (ownedBy_handKeyboard_none resigned .hidden).congr rfl rfl rfl

theorem ownedBy_touchMoved (owned : OwnedBy live s) (uikit : Responder) (point : CGPoint) :
    OwnedBy live (touchMoved self uikit s point) := by
  have marked : OwnedBy live (markMoved s) := owned.congr rfl rfl rfl
  unfold touchMoved
  dsimp only
  split_ifs
  · exact ownedBy_endForScroll marked uikit
  · exact marked
  · exact owned

theorem ownedBy_touchesMoved (owned : OwnedBy live s) (touches : List CGPoint)
    (uikit : Responder) : OwnedBy live (touchesMoved self touches uikit s) := by
  have kept (t : State) (point : CGPoint) (owned : OwnedBy live t) :
      OwnedBy live (touchMoved self uikit t point) := ownedBy_touchMoved owned uikit point
  exact invariant_always kept s touches owned

theorem ownedBy_touchesEnded (owned : OwnedBy live s) (uikit : Responder) :
    OwnedBy live (touchesEnded self uikit s) := by
  have marked : OwnedBy live (markScrollEnd s) := owned.congr rfl rfl rfl
  unfold touchesEnded
  dsimp only
  split_ifs
  · exact (ownedBy_endForScroll marked uikit).congr rfl rfl rfl
  · exact marked.congr rfl rfl rfl
  · exact owned.congr rfl rfl rfl

theorem ownedBy_attemptAccessoryOnlyRecovery (owned : OwnedBy live s) (alive : live self = true)
    (uikit : Answers) : OwnedBy live (attemptAccessoryOnlyRecovery self uikit s) := by
  have dismissing : OwnedBy live (s |> setRecovery true true |> enterState .dismissing) :=
    owned.congr rfl rfl rfl
  unfold attemptAccessoryOnlyRecovery
  split_ifs
  · exact owned
  · exact owned
  · exact (ownedBy_handKeyboard_some owned alive .visible).congr rfl rfl rfl
  · exact ownedBy_performAfterDelay (ownedBy_resignFirstResponder dismissing self _) alive _ _

theorem ownedBy_editableIfPresented (owned : OwnedBy live s) (uikit : Responder) :
    OwnedBy live (editableIfPresented self uikit s) := ownedBy_setIsEditable owned _ _

theorem ownedBy_disownUnlessPresented (owned : OwnedBy live s) (uikit : Responder) :
    OwnedBy live (disownUnlessPresented self uikit s) := by
  unfold disownUnlessPresented
  split
  · exact owned
  · exact ownedBy_handKeyboard_none owned _

theorem ownedBy_claimKeyboard (owned : OwnedBy live s) (alive : live self = true) :
    OwnedBy live (claimKeyboard self s) :=
  ownedBy_setIsEditable (ownedBy_handKeyboard_some owned alive .presenting) self true

theorem ownedBy_retryKeyboardAfterAccessoryOnlyFailure (owned : OwnedBy live s)
    (alive : live self = true) (uikit : Answers) :
    OwnedBy live (retryKeyboardAfterAccessoryOnlyFailure self uikit s) := by
  have tried := ownedBy_deliver (ownedBy_becomeFirstResponder
    (ownedBy_claimKeyboard owned alive) self uikit.self) uikit.reload
  exact ownedBy_performAfterDelay
    (ownedBy_disownUnlessPresented (ownedBy_editableIfPresented tried _) _) alive _ _

theorem ownedBy_finishAccessoryOnlyRecovery (owned : OwnedBy live s) (uikit : Answers) :
    OwnedBy live (finishAccessoryOnlyRecovery self uikit s) := by
  have ended : OwnedBy live { s with keyboardBodyRetryInProgress := false } :=
    owned.congr rfl rfl rfl
  have dismissing : OwnedBy live
      (enterState .dismissing { s with keyboardBodyRetryInProgress := false }) :=
    owned.congr rfl rfl rfl
  unfold finishAccessoryOnlyRecovery
  dsimp only
  split
  · exact ended
  · exact ownedBy_setIsEditable (ownedBy_resignFirstResponder dismissing self _) _ _

theorem ownedBy_releasePreviousOwner (owned : OwnedBy live s) (uikit : Answers) :
    OwnedBy live (releasePreviousOwner self uikit s) := by
  unfold releasePreviousOwner
  split
  · exact owned
  · rename_i previousOwner _
    split
    · exact owned
    · have resigned := ownedBy_setIsEditable
        (ownedBy_resignFirstResponder owned previousOwner uikit.previous) previousOwner false
      have reset : OwnedBy live (resetFocusedInputRelocation _) := resigned.congr rfl rfl rfl
      exact (ownedBy_handKeyboard_none reset .hidden).congr rfl rfl rfl

theorem ownedBy_abandonUnlessPresented (owned : OwnedBy live s) (uikit : Responder) :
    OwnedBy live (abandonUnlessPresented self uikit s) := by
  unfold abandonUnlessPresented
  split
  · exact owned
  · exact ownedBy_setIsEditable (ownedBy_handKeyboard_none owned _) _ _

theorem ownedBy_startFocusSession (owned : OwnedBy live s) (alive : live self = true)
    (uikit : Answers) : OwnedBy live (startFocusSession self uikit s) := by
  have fresh : OwnedBy live (setRecovery false false s) := owned.congr rfl rfl rfl
  have tried := ownedBy_becomeFirstResponder (ownedBy_claimKeyboard fresh alive) self uikit.self
  exact ownedBy_performAfterDelay (ownedBy_editableIfPresented
    (ownedBy_deliver (ownedBy_abandonUnlessPresented tried _) _) _) alive _ _

theorem ownedBy_presentKeyboardForNewFocusSession (owned : OwnedBy live s)
    (alive : live self = true) (uikit : Answers) :
    OwnedBy live (presentKeyboardForNewFocusSession self uikit s) :=
  ownedBy_startFocusSession (ownedBy_releasePreviousOwner owned uikit) alive uikit

theorem ownedBy_refreshRelocationAfterTextCommit (owned : OwnedBy live s) :
    OwnedBy live (refreshRelocationAfterTextCommit s) := by
  unfold refreshRelocationAfterTextCommit
  split
  · exact owned
  · exact owned.congr rfl rfl rfl

theorem ownedBy_showKeyboard (owned : OwnedBy live s) (alive : live self = true)
    (bounds : CGSize) (uikit : Answers) : OwnedBy live (showKeyboard self bounds uikit s) := by
  have requested : OwnedBy live (noteRequest s) := owned.congr rfl rfl rfl
  have warm : OwnedBy live (s |> noteRequest |> endCooldown) := owned.congr rfl rfl rfl
  unfold showKeyboard
  split_ifs
  · exact ownedBy_setIsEditable requested _ _
  · exact requested
  · exact ownedBy_setIsEditable (ownedBy_refreshRelocationAfterTextCommit warm) _ _
  · exact ownedBy_presentKeyboardForNewFocusSession warm alive _

theorem ownedBy_hideKeyboard (owned : OwnedBy live s) (uikit : Answers) :
    OwnedBy live (hideKeyboard self uikit s) := by
  have dismissing : OwnedBy live (enterState .dismissing s) := owned.congr rfl rfl rfl
  exact ownedBy_setIsEditable
    (ownedBy_deliver (ownedBy_resignFirstResponder dismissing _ _) _) _ _

theorem ownedBy_perform (owned : OwnedBy live s) (uikit : Answers) (work : Work)
    (alive : ∀ view selector, work = .perform view selector → live view = true) :
    OwnedBy live (perform uikit s work) := by
  cases work with
  | zeroInset => exact owned.congr rfl rfl rfl
  | perform view selector =>
    have living : live view = true := alive view selector rfl
    cases selector with
    | applyPendingKeyboardFrame => exact ownedBy_applyPendingKeyboardFrame owned
    | attemptAccessoryOnlyRecovery =>
      exact ownedBy_attemptAccessoryOnlyRecovery owned living uikit
    | retryKeyboardAfterAccessoryOnlyFailure =>
      exact ownedBy_retryKeyboardAfterAccessoryOnlyFailure owned living uikit
    | finishAccessoryOnlyRecovery => exact ownedBy_finishAccessoryOnlyRecovery owned uikit

theorem ownedBy_answer (owned : OwnedBy live s) (alive : live self = true) (uikit : Answers)
    (call : Call) : OwnedBy live (answer self uikit s call) := by
  cases call with
  | notification posted => exact ownedBy_observe owned (self, posted)
  | touchesBegan firstTouch => cases firstTouch <;> exact owned.congr rfl rfl rfl
  | touchesMoved touches => exact ownedBy_touchesMoved owned touches uikit.self
  | touchesEnded => exact ownedBy_touchesEnded owned uikit.self
  | showKeyboard bounds => exact ownedBy_showKeyboard owned alive bounds uikit
  | hideKeyboard => exact ownedBy_hideKeyboard owned uikit
  | userDismissKeyboard =>
    have noted : OwnedBy live (noteDismissal s) := owned.congr rfl rfl rfl
    exact ownedBy_hideKeyboard noted uikit
  | resign => exact ownedBy_resignFirstResponder owned self uikit.self

/-- The owner is live, and so are the views with a selector to perform. -/
def Owned (s : State) : Prop := OwnedBy s.live s

theorem Owned.congr {t : State} (owned : Owned s) (views : t.live = s.live)
    (owner : t.keyboardOwner = s.keyboardOwner) (pending : t.pending = s.pending) : Owned t := by
  unfold Owned at owned ⊢
  rw [views]
  exact OwnedBy.congr owned views owner pending

theorem OwnedBy.owned (owned : OwnedBy live s) : Owned s := by
  unfold Owned
  rw [owned.views]
  exact owned

theorem owned_dequeue (owned : Owned s) (index : ℕ) : Owned (dequeue index s) :=
  ⟨rfl, owned.owner, fun other mem => owned.delayed other (List.mem_of_mem_eraseIdx mem)⟩

theorem owned_fire {index : ℕ} {delayed : Delayed} (owned : Owned s) (uikit : Answers)
    (due : dueAt index s = some delayed) :
    Owned (perform uikit (dequeue index s) delayed.work) := by
  have mem : delayed ∈ s.pending :=
    List.mem_of_getElem? (Option.filter_eq_some_iff.mp due).1
  exact (ownedBy_perform (owned_dequeue owned index) uikit delayed.work
    (owned.delayed delayed mem)).owned

theorem owned_create (owned : Owned s) (view : View) :
    Owned { s with live := Function.update s.live view true } := by
  have grows (other : View) (alive : s.live other = true) :
      Function.update s.live view true other = true := by
    rw [Function.update_apply]
    split
    · rfl
    · exact alive
  exact ⟨rfl, fun other owns => grows other (owned.owner other owns),
    fun delayed mem other selector work =>
      grows other (owned.delayed delayed mem other selector work)⟩

theorem owned_removeView (owned : Owned s) (released : retained self s = false) :
    Owned (removeView self s) := by
  have keeps (view : View) (apart : view ≠ self) (alive : s.live view = true) :
      (removeView self s).live view = true := by
    simpa only [removeView, Function.update_of_ne apart] using alive
  refine ⟨rfl, fun view owns => ?_, fun delayed mem view selector work => ?_⟩
  · simp only [removeView] at owns
    split at owns
    · cases owns
    · exact keeps view (fun same => ‹¬_› (same ▸ owns)) (owned.owner view owns)
  · refine keeps view (fun same => ?_) (owned.delayed delayed mem view selector work)
    have holds : retained self s = true :=
      List.any_eq_true.mpr ⟨delayed, mem, by simp [work, same]⟩
    exact Bool.false_ne_true (released.symm.trans holds)

theorem owned_dealloc (owned : Owned s) (released : retained self s = false) :
    Owned (dealloc self s) := by
  have removed := owned_removeView owned released
  unfold dealloc
  dsimp only
  split
  · exact (ownedBy_handKeyboard_none removed .hidden).owned.congr rfl rfl rfl
  · exact removed

theorem owned_step (owned : Owned s) (event : Event) : Owned (step s event) := by
  cases event with
  | elapse seconds => exact Owned.congr owned rfl rfl rfl
  | create view =>
    simp only [step]
    split
    · exact owned
    · exact owned_create owned view
  | dealloc view =>
    simp only [step]
    split
    · rename_i gone
      simp only [Bool.and_eq_true, Bool.not_eq_true'] at gone
      exact owned_dealloc owned gone.2
    · exact owned
  | pressesBegan => exact Owned.congr owned rfl rfl rfl
  | fire index uikit =>
    simp only [step]
    split
    · exact owned
    · exact owned_fire owned uikit ‹_›
  | call view call uikit =>
    simp only [step]
    split
    · exact (ownedBy_answer owned ‹_› uikit call).owned
    · exact owned

theorem owned_launch (now : ℚ) (pad readable : Bool) : Owned (launch now pad readable) :=
  ⟨rfl, fun _ owns => by simp [launch] at owns, fun _ mem => by simp [launch] at mem⟩

end BlinkerFluid.KeyboardOwner
