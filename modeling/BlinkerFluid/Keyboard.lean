import Mathlib.Data.Rat.Defs
import Mathlib.Algebra.Order.Ring.Unbundled.Rat
import Mathlib.Logic.Function.Basic
import BlinkerFluid.StepRun

/-! The keyboard globals of the renderer views. Every view observes the keyboard
notifications of the process, but only the owner of the keyboard acts on them; the
rest of the work arrives as touches, as calls from the renderer and as delayed
selectors. UIKit may post notifications while a responder changes, and decides
whether it does. Relocation is the viewport inset (strategy 2). -/

namespace BlinkerFluid.Keyboard

/-- A `RenderWidgetUIView`. -/
abbrev View := ℕ

inductive KeyboardState where
  | hidden | presenting | visible | dismissing
  deriving DecidableEq, Repr

/-- The heights are those the handling view computes from the notification. -/
inductive Notification where
  | keyboardWillShow (height : ℚ)
  | keyboardDidShow (height : ℚ)
  | keyboardWillChangeFrame (height : ℚ)
  | keyboardWillHide
  | keyboardDidHide
  deriving DecidableEq, Repr

inductive Selector where
  | applyPendingKeyboardFrame
  | attemptAccessoryOnlyRecovery
  | retryKeyboardAfterAccessoryOnlyFailure
  | finishAccessoryOnlyRecovery
  deriving DecidableEq, Repr

/-- A selector performed after a delay, or the block of `keyboardDidHide`. -/
inductive Work where
  | perform (view : View) (selector : Selector)
  | zeroInset
  deriving DecidableEq, Repr

structure Delayed where
  due : ℚ
  work : Work
  deriving DecidableEq, Repr

/-- What a user sees of the keyboard, in order: dismissals and requests with their
times, and views that become first responder. -/
inductive Occurrence where
  | dismissed (time : ℚ)
  | requested (time : ℚ)
  | responder (view : View)
  deriving DecidableEq, Repr

abbrev Delivery := View × Notification

/-- UIKit's part in a change of first responder: what it posts before, whether it
agrees, from which other view it takes the role, and what it posts after. -/
structure Responder where
  before : List Delivery := []
  accepted : Bool := true
  former : Option View := none
  after : List Delivery := []

/-- UIKit's part in one call: the previous owner, the view itself, its input views. -/
structure Answers where
  previous : Responder := {}
  self : Responder := {}
  reload : List Delivery := []

structure CGSize where
  width : ℚ
  height : ℚ
  deriving DecidableEq, Repr

structure CGPoint where
  x : ℚ
  y : ℚ
  deriving DecidableEq, Repr

structure State where
  now : ℚ
  userInterfaceIdiomPad : Bool
  /-- Whether a weak variable still reads a view inside of the view's own `dealloc`.
  Automatic reference counting makes it read nil. -/
  weakReadsInDealloc : Bool
  pendingKeyboardHeight : ℚ := 0
  lastKeyboardHeight : ℚ := 0
  lastKeyboardNotificationTime : ℚ := 0
  keyboardUserDismissed : Bool := false
  keyboardDismissTime : ℚ := 0
  keyboardRecoveryUsed : Bool := false
  keyboardBodyRetryInProgress : Bool := false
  hardwareKeyboardSeen : Bool := false
  touchSequenceMoved : Bool := false
  touchSequenceOrigin : CGPoint := ⟨0, 0⟩
  lastScrollTouchEnd : ℚ := 0
  keyboardState : KeyboardState := .hidden
  keyboardOwner : Option View := none
  isEditable : View → Bool := fun _ => false
  isFirstResponder : View → Bool := fun _ => false
  live : View → Bool := fun _ => false
  pending : List Delayed := []
  viewportInset : ℚ := 0
  record : List Occurrence := []

def keyboardDismissCooldown : ℚ := 35 / 100

def realKeyboardMinHeight : ℚ := 150

def setKeyboardViewportInset (inset : ℚ) (s : State) : State := { s with viewportInset := inset }

/-- Sets `g_keyboard_owner` and `g_keyboard_state`. -/
def handKeyboard (owner : Option View) (state : KeyboardState) (s : State) : State :=
  { s with
    keyboardOwner := owner
    keyboardState := state }

def enterState (state : KeyboardState) (s : State) : State := { s with keyboardState := state }

def forgetHeights (s : State) : State :=
  { s with
    lastKeyboardHeight := 0
    pendingKeyboardHeight := 0 }

def setRecovery (used inProgress : Bool) (s : State) : State :=
  { s with
    keyboardRecoveryUsed := used
    keyboardBodyRetryInProgress := inProgress }

def performAfterDelay (view : View) (selector : Selector) (delay : ℚ) (s : State) : State :=
  { s with pending := s.pending ++ [⟨s.now + delay, .perform view selector⟩] }

def zeroInsetAfterDelay (delay : ℚ) (s : State) : State :=
  { s with pending := s.pending ++ [⟨s.now + delay, .zeroInset⟩] }

def cancelPrevious (view : View) (selector : Selector) (s : State) : State :=
  { s with pending := s.pending.filter fun delayed => delayed.work ≠ .perform view selector }

def setIsEditable (self : View) (value : Bool) (s : State) : State :=
  if value = s.isEditable self then s
  else
    { s with
      isEditable := Function.update s.isEditable self value
      viewportInset := if value then s.viewportInset else 0 }

@[simp] theorem setIsEditable_keyboardOwner (self : View) (value : Bool) (s : State) :
    (setIsEditable self value s).keyboardOwner = s.keyboardOwner := by
  unfold setIsEditable
  split <;> rfl

@[simp] theorem setIsEditable_keyboardState (self : View) (value : Bool) (s : State) :
    (setIsEditable self value s).keyboardState = s.keyboardState := by
  unfold setIsEditable
  split <;> rfl

@[simp] theorem setIsEditable_lastKeyboardHeight (self : View) (value : Bool) (s : State) :
    (setIsEditable self value s).lastKeyboardHeight = s.lastKeyboardHeight := by
  unfold setIsEditable
  split <;> rfl

@[simp] theorem setIsEditable_isFirstResponder (self : View) (value : Bool) (s : State) :
    (setIsEditable self value s).isFirstResponder = s.isFirstResponder := by
  unfold setIsEditable
  split <;> rfl

theorem setIsEditable_true_viewportInset (self : View) (s : State) :
    (setIsEditable self true s).viewportInset = s.viewportInset := by
  unfold setIsEditable
  split <;> rfl

theorem setIsEditable_false_viewportInset (self : View) (s : State) :
    (setIsEditable self false s).viewportInset =
      if s.isEditable self = true then 0 else s.viewportInset := by
  unfold setIsEditable
  cases s.isEditable self <;> rfl

def resetFocusedInputRelocation (s : State) : State := setKeyboardViewportInset 0 s

def applyRelocationOffset (s : State) : State := setKeyboardViewportInset s.lastKeyboardHeight s

def refreshRelocationAfterTextCommit (s : State) : State :=
  if s.keyboardState ≠ .visible ∨ s.lastKeyboardHeight ≤ realKeyboardMinHeight then s
  else setKeyboardViewportInset s.lastKeyboardHeight s

def isAccessoryBarOnlyHeight (height : ℚ) : Bool := 40 ≤ height && height ≤ 80

def applyPendingKeyboardFrame (self : View) (s : State) : State :=
  if s.keyboardOwner ≠ some self then s
  else if s.pendingKeyboardHeight ≤ realKeyboardMinHeight ∧ s.keyboardState = .visible then s
  else if isAccessoryBarOnlyHeight s.pendingKeyboardHeight then s
  else if s.pendingKeyboardHeight ≤ realKeyboardMinHeight then s
  else
    { s with
      lastKeyboardHeight := s.pendingKeyboardHeight
      keyboardState := .visible }
    |> setKeyboardViewportInset s.pendingKeyboardHeight
    |> applyRelocationOffset

def recentNotification (s : State) : Bool :=
  s.now - s.lastKeyboardNotificationTime < 250 / 1000

def rememberFrame (height : ℚ) (s : State) : State :=
  { s with
    lastKeyboardNotificationTime := s.now
    pendingKeyboardHeight := height }

def coalesceKeyboardNotification (self : View) (height : ℚ) (s : State) : State :=
  if s.keyboardOwner ≠ some self then s
  else if |height - s.lastKeyboardHeight| < 4 ∧ recentNotification s = true then s
  else if isAccessoryBarOnlyHeight height then rememberFrame height s
  else
    s |> rememberFrame height
      |> cancelPrevious self .applyPendingKeyboardFrame
      |> performAfterDelay self .applyPendingKeyboardFrame (5 / 100)

def noteDismissal (s : State) : State :=
  { s with
    keyboardUserDismissed := true
    keyboardDismissTime := s.now
    record := s.record ++ [.dismissed s.now] }

def noteHide (s : State) : State := if s.keyboardState = .visible then noteDismissal s else s

def hideFrame (self : View) (s : State) : State :=
  { s with
    lastKeyboardNotificationTime := s.now
    lastKeyboardHeight := 0
    keyboardState := .hidden }
  |> cancelPrevious self .applyPendingKeyboardFrame
  |> resetFocusedInputRelocation

def keyboardWillHide (self : View) (s : State) : State :=
  if s.keyboardOwner ≠ some self then s
  else if s.keyboardState = .presenting ∧ s.keyboardUserDismissed = false ∧
      s.isFirstResponder self = true then s
  else
    let s := noteHide s
    if s.lastKeyboardHeight = 0 ∧ recentNotification s = true then s else hideFrame self s

def cancelRecovery (self : View) (s : State) : State :=
  s |> cancelPrevious self .attemptAccessoryOnlyRecovery
    |> cancelPrevious self .retryKeyboardAfterAccessoryOnlyFailure
    |> cancelPrevious self .finishAccessoryOnlyRecovery

def keyboardDidHide (self : View) (s : State) : State :=
  if s.keyboardOwner ≠ some self then s
  else
    let shouldRetryKeyboardBody := s.keyboardBodyRetryInProgress
    let s := s |> handKeyboard none .hidden |> forgetHeights
      |> setRecovery shouldRetryKeyboardBody shouldRetryKeyboardBody |> cancelRecovery self
    let s := if shouldRetryKeyboardBody then s else setIsEditable self false s
    let s := setKeyboardViewportInset 0 s
    let s :=
      if shouldRetryKeyboardBody then
        performAfterDelay self .retryKeyboardAfterAccessoryOnlyFailure (5 / 100) s
      else s
    zeroInsetAfterDelay (12 / 100) s

def observe (s : State) : Delivery → State
  | (self, .keyboardWillShow height) => coalesceKeyboardNotification self height s
  | (self, .keyboardDidShow height) => coalesceKeyboardNotification self height s
  | (self, .keyboardWillChangeFrame height) => coalesceKeyboardNotification self height s
  | (self, .keyboardWillHide) => keyboardWillHide self s
  | (self, .keyboardDidHide) => keyboardDidHide self s

theorem observe_cases {P : Delivery → State → Prop} {s : State} (delivery : Delivery)
    (coalesced : ∀ view posted height, P (view, posted) (coalesceKeyboardNotification view height s))
    (willHide : ∀ view, P (view, .keyboardWillHide) (keyboardWillHide view s))
    (didHide : ∀ view, P (view, .keyboardDidHide) (keyboardDidHide view s)) :
    P delivery (observe s delivery) := by
  obtain ⟨view, posted⟩ := delivery
  cases posted with
  | keyboardWillShow height => exact coalesced view _ height
  | keyboardDidShow height => exact coalesced view _ height
  | keyboardWillChangeFrame height => exact coalesced view _ height
  | keyboardWillHide => exact willHide view
  | keyboardDidHide => exact didHide view

def deliver (deliveries : List Delivery) (s : State) : State := deliveries.foldl observe s

def takeResponder (self : View) (uikit : Responder) (s : State) : State :=
  if uikit.accepted then
    { s with
      isFirstResponder := Function.update
        (fun view => s.isFirstResponder view && uikit.former ≠ some view) self true
      record := s.record ++ if s.isFirstResponder self then [] else [.responder self] }
  else s

@[simp] theorem takeResponder_keyboardOwner (self : View) (uikit : Responder) (s : State) :
    (takeResponder self uikit s).keyboardOwner = s.keyboardOwner := by
  unfold takeResponder
  split <;> rfl

@[simp] theorem takeResponder_keyboardState (self : View) (uikit : Responder) (s : State) :
    (takeResponder self uikit s).keyboardState = s.keyboardState := by
  unfold takeResponder
  split <;> rfl

@[simp] theorem takeResponder_lastKeyboardHeight (self : View) (uikit : Responder) (s : State) :
    (takeResponder self uikit s).lastKeyboardHeight = s.lastKeyboardHeight := by
  unfold takeResponder
  split <;> rfl

@[simp] theorem takeResponder_viewportInset (self : View) (uikit : Responder) (s : State) :
    (takeResponder self uikit s).viewportInset = s.viewportInset := by
  unfold takeResponder
  split <;> rfl

theorem takeResponder_isFirstResponder (self : View) (uikit : Responder) (s : State) :
    (takeResponder self uikit s).isFirstResponder self =
      (uikit.accepted || s.isFirstResponder self) := by
  unfold takeResponder
  cases uikit.accepted
  · simp
  · simp

def becomeFirstResponder (self : View) (uikit : Responder) (s : State) : State :=
  s |> deliver uikit.before |> takeResponder self uikit |> deliver uikit.after

def leaveResponder (self : View) (uikit : Responder) (s : State) : State :=
  if uikit.accepted then
    { s with isFirstResponder := Function.update s.isFirstResponder self false }
  else s

@[simp] theorem leaveResponder_keyboardOwner (self : View) (uikit : Responder) (s : State) :
    (leaveResponder self uikit s).keyboardOwner = s.keyboardOwner := by
  unfold leaveResponder
  split <;> rfl

@[simp] theorem leaveResponder_keyboardState (self : View) (uikit : Responder) (s : State) :
    (leaveResponder self uikit s).keyboardState = s.keyboardState := by
  unfold leaveResponder
  split <;> rfl

@[simp] theorem leaveResponder_lastKeyboardHeight (self : View) (uikit : Responder) (s : State) :
    (leaveResponder self uikit s).lastKeyboardHeight = s.lastKeyboardHeight := by
  unfold leaveResponder
  split <;> rfl

@[simp] theorem leaveResponder_viewportInset (self : View) (uikit : Responder) (s : State) :
    (leaveResponder self uikit s).viewportInset = s.viewportInset := by
  unfold leaveResponder
  split <;> rfl

@[simp] theorem leaveResponder_isEditable (self : View) (uikit : Responder) (s : State) :
    (leaveResponder self uikit s).isEditable = s.isEditable := by
  unfold leaveResponder
  split <;> rfl

def resignFirstResponder (self : View) (uikit : Responder) (s : State) : State :=
  s |> deliver uikit.before |> leaveResponder self uikit |> deliver uikit.after

def endForScroll (self : View) (uikit : Responder) (s : State) : State :=
  s |> resignFirstResponder self uikit |> setIsEditable self false
    |> handKeyboard none .hidden |> setKeyboardViewportInset 0

def touchesBegan (firstTouch : Option CGPoint) (s : State) : State :=
  let s := { s with touchSequenceMoved := false }
  match firstTouch with
  | some point => { s with touchSequenceOrigin := point }
  | none => s

/-- `hypot > 8`. -/
def beyondTap (origin point : CGPoint) : Bool :=
  64 < (point.x - origin.x) ^ 2 + (point.y - origin.y) ^ 2

def markMoved (s : State) : State := { s with touchSequenceMoved := true }

def touchMoved (self : View) (uikit : Responder) (s : State) (point : CGPoint) : State :=
  if beyondTap s.touchSequenceOrigin point then
    let s := markMoved s
    if s.keyboardOwner = some self then endForScroll self uikit s else s
  else s

def touchesMoved (self : View) (touches : List CGPoint) (uikit : Responder) (s : State) : State :=
  touches.foldl (touchMoved self uikit) s

def markScrollEnd (s : State) : State := { s with lastScrollTouchEnd := s.now }

def clearMoved (s : State) : State := { s with touchSequenceMoved := false }

def touchesEnded (self : View) (uikit : Responder) (s : State) : State :=
  if s.touchSequenceMoved then
    let s := markScrollEnd s
    clearMoved (if s.keyboardOwner = some self then endForScroll self uikit s else s)
  else clearMoved s

def attemptAccessoryOnlyRecovery (self : View) (uikit : Answers) (s : State) : State :=
  if s.keyboardRecoveryUsed then s
  else if s.lastKeyboardHeight > realKeyboardMinHeight then s
  else if s.isFirstResponder self && (s.hardwareKeyboardSeen || s.userInterfaceIdiomPad) then
    s |> handKeyboard (some self) .visible |> setKeyboardViewportInset 0
  else
    s |> setRecovery true true
      |> enterState .dismissing
      |> resignFirstResponder self uikit.self
      |> performAfterDelay self .retryKeyboardAfterAccessoryOnlyFailure (65 / 100)

/-- `result || [self isFirstResponder]`. -/
def presented (self : View) (uikit : Responder) (s : State) : Bool :=
  uikit.accepted || s.isFirstResponder self

def editableIfPresented (self : View) (uikit : Responder) (s : State) : State :=
  setIsEditable self (presented self uikit s) s

def disownUnlessPresented (self : View) (uikit : Responder) (s : State) : State :=
  if presented self uikit s then s else handKeyboard none .hidden s

def claimKeyboard (self : View) (s : State) : State :=
  s |> handKeyboard (some self) .presenting |> setIsEditable self true

theorem claimKeyboard_lastKeyboardHeight (self : View) (s : State) :
    (claimKeyboard self s).lastKeyboardHeight = s.lastKeyboardHeight :=
  setIsEditable_lastKeyboardHeight self true _

def retryKeyboardAfterAccessoryOnlyFailure (self : View) (uikit : Answers) (s : State) : State :=
  s |> claimKeyboard self
    |> becomeFirstResponder self uikit.self
    |> deliver uikit.reload
    |> editableIfPresented self uikit.self
    |> disownUnlessPresented self uikit.self
    |> performAfterDelay self .finishAccessoryOnlyRecovery (50 / 100)

def finishAccessoryOnlyRecovery (self : View) (uikit : Answers) (s : State) : State :=
  let inSession := { s with keyboardBodyRetryInProgress := false }
  if s.lastKeyboardHeight > realKeyboardMinHeight then inSession
  else
    inSession |> enterState .dismissing
      |> resignFirstResponder self uikit.self
      |> setIsEditable self false

def releasePreviousOwner (self : View) (uikit : Answers) (s : State) : State :=
  match s.keyboardOwner with
  | none => s
  | some previousOwner =>
    if previousOwner = self then s
    else
      s |> resignFirstResponder previousOwner uikit.previous
        |> setIsEditable previousOwner false
        |> resetFocusedInputRelocation
        |> handKeyboard none .hidden
        |> forgetHeights

def abandonUnlessPresented (self : View) (uikit : Responder) (s : State) : State :=
  if presented self uikit s then s
  else s |> handKeyboard none .hidden |> setIsEditable self false

def beginSession (self : View) (s : State) : State :=
  s |> setRecovery false false |> claimKeyboard self

theorem beginSession_lastKeyboardHeight (self : View) (s : State) :
    (beginSession self s).lastKeyboardHeight = s.lastKeyboardHeight :=
  claimKeyboard_lastKeyboardHeight self _

def startFocusSession (self : View) (uikit : Answers) (s : State) : State :=
  s |> beginSession self
    |> becomeFirstResponder self uikit.self
    |> abandonUnlessPresented self uikit.self
    |> deliver uikit.reload
    |> editableIfPresented self uikit.self
    |> performAfterDelay self .attemptAccessoryOnlyRecovery (45 / 100)

def presentKeyboardForNewFocusSession (self : View) (uikit : Answers) (s : State) : State :=
  s |> releasePreviousOwner self uikit |> startFocusSession self uikit

def boundsTooSmall (bounds : CGSize) : Bool :=
  bounds.width = 0 || bounds.height = 0 || bounds.width < 2 || bounds.height < 2

/-- Requests that only end editing: during a scroll, or without a field to show. -/
def requestSuppressed (self : View) (bounds : CGSize) (s : State) : Bool :=
  s.touchSequenceMoved || s.now - s.lastScrollTouchEnd < 30 / 100 ||
    (!s.isFirstResponder self && boundsTooSmall bounds)

def requestCoolingDown (s : State) : Bool :=
  s.keyboardUserDismissed && s.now - s.keyboardDismissTime < keyboardDismissCooldown

/-- Requests of a view whose keyboard is up or on its way up. -/
def requestRefreshes (self : View) (s : State) : Bool :=
  s.isFirstResponder self || (s.keyboardOwner = some self &&
    (s.keyboardState = .presenting || s.keyboardState = .visible))

def noteRequest (s : State) : State := { s with record := s.record ++ [.requested s.now] }

def endCooldown (s : State) : State := { s with keyboardUserDismissed := false }

def showKeyboard (self : View) (bounds : CGSize) (uikit : Answers) (s : State) : State :=
  if requestSuppressed self bounds s then s |> noteRequest |> setIsEditable self false
  else if requestCoolingDown s then noteRequest s
  else if requestRefreshes self s then
    s |> noteRequest |> endCooldown |> refreshRelocationAfterTextCommit |> setIsEditable self true
  else s |> noteRequest |> endCooldown |> presentKeyboardForNewFocusSession self uikit

def hideKeyboard (self : View) (uikit : Answers) (s : State) : State :=
  s |> enterState .dismissing
    |> resignFirstResponder self uikit.self
    |> deliver uikit.reload
    |> setIsEditable self false

def userDismissKeyboard (self : View) (uikit : Answers) (s : State) : State :=
  s |> noteDismissal |> hideKeyboard self uikit

def retained (self : View) (s : State) : Bool :=
  s.pending.any fun delayed => match delayed.work with
    | .perform view _ => view = self
    | .zeroInset => false

def removeView (self : View) (s : State) : State :=
  { s with
    live := Function.update s.live self false
    isEditable := Function.update s.isEditable self false
    isFirstResponder := Function.update s.isFirstResponder self false
    keyboardOwner := if s.keyboardOwner = some self then none else s.keyboardOwner }

def dealloc (self : View) (s : State) : State :=
  let owner := s.keyboardOwner
  let s := removeView self s
  if owner = some self ∧ s.weakReadsInDealloc = true then
    s |> handKeyboard none .hidden |> forgetHeights |> setKeyboardViewportInset 0
  else s

def performSelector (self : View) (uikit : Answers) (s : State) : Selector → State
  | .applyPendingKeyboardFrame => applyPendingKeyboardFrame self s
  | .attemptAccessoryOnlyRecovery => attemptAccessoryOnlyRecovery self uikit s
  | .retryKeyboardAfterAccessoryOnlyFailure => retryKeyboardAfterAccessoryOnlyFailure self uikit s
  | .finishAccessoryOnlyRecovery => finishAccessoryOnlyRecovery self uikit s

def perform (uikit : Answers) (s : State) : Work → State
  | .perform self selector => performSelector self uikit s selector
  | .zeroInset => setKeyboardViewportInset 0 s

/-- What a live view is asked to do. A text input update of the renderer ends in a
request to show or hide, if in anything; `resign` is UIKit ending the editing. -/
inductive Call where
  | notification (posted : Notification)
  | touchesBegan (firstTouch : Option CGPoint)
  | touchesMoved (touches : List CGPoint)
  | touchesEnded
  | showKeyboard (bounds : CGSize)
  | hideKeyboard
  | userDismissKeyboard
  | resign
  deriving DecidableEq, Repr

inductive Event where
  | elapse (seconds : ℚ)
  | create (view : View)
  | dealloc (view : View)
  | pressesBegan
  | fire (index : ℕ) (uikit : Answers)
  | call (view : View) (call : Call) (uikit : Answers)

def answer (self : View) (uikit : Answers) (s : State) : Call → State
  | .notification posted => observe s (self, posted)
  | .touchesBegan firstTouch => touchesBegan firstTouch s
  | .touchesMoved touches => touchesMoved self touches uikit.self s
  | .touchesEnded => touchesEnded self uikit.self s
  | .showKeyboard bounds => showKeyboard self bounds uikit s
  | .hideKeyboard => hideKeyboard self uikit s
  | .userDismissKeyboard => userDismissKeyboard self uikit s
  | .resign => resignFirstResponder self uikit.self s

def dequeue (index : ℕ) (s : State) : State := { s with pending := s.pending.eraseIdx index }

/-- The delayed work at the index, once it is due. -/
def dueAt (index : ℕ) (s : State) : Option Delayed :=
  s.pending[index]?.filter fun delayed => delayed.due ≤ s.now

def step (s : State) : Event → State
  | .elapse seconds => { s with now := s.now + max 0 seconds }
  | .create view => if s.live view then s else { s with live := Function.update s.live view true }
  | .dealloc view => if s.live view && !retained view s then dealloc view s else s
  | .pressesBegan => { s with hardwareKeyboardSeen := true }
  | .fire index uikit =>
    match dueAt index s with
    | none => s
    | some delayed => perform uikit (dequeue index s) delayed.work
  | .call view call uikit => if s.live view then answer view uikit s call else s

def launch (now : ℚ) (userInterfaceIdiomPad weakReadsInDealloc : Bool) : State :=
  { now, userInterfaceIdiomPad, weakReadsInDealloc }

end BlinkerFluid.Keyboard
