import Mathlib.Data.List.Basic

/-! The app lock: one preference and one flag for all tabs, a cover in each tab's view,
evaluations of the device owner's policy whose replies come in any order, and the main
queue they are posted to. A tab counts from the time its view is loaded; before that
there is nothing to cover. -/

namespace BlinkerFluid.AppLock

/-- What a window delegate presents above its view. Lists are pushed onto the menu. -/
inductive Presented where
  | menu (pushed : ℕ)
  | list
  | tabSwitcher
deriving DecidableEq

/-- `ContentShellWindowDelegate`, named by its shell. -/
structure WindowDelegate where
  shell : ℕ
  privacyLockView : Bool
  presented : Option Presented
deriving DecidableEq

/-- An evaluation of the policy, numbered in the order in which evaluations start. -/
inductive Evaluation where
  | unlockBlinker (number : ℕ)
  | toggleAppLock (number : ℕ) (settings : ℕ) (currentlyEnabled : Bool)
deriving DecidableEq

inductive Block where
  | updatePrivacyLock (shell : ℕ)
  | reply (evaluation : Evaluation)
deriving DecidableEq

/-- `freshFrom` is for the statements: after a transition to the background, the number
from which on an evaluation is a fresh one, until a fresh one succeeds. -/
structure LockState where
  blinkAppLock : Bool
  blinkAppUnlocked : Bool
  delegates : List WindowDelegate
  evaluations : List Evaluation
  mainQueue : List Block
  nextShell : ℕ
  nextEvaluation : ℕ
  freshFrom : Option ℕ
deriving DecidableEq

def isOpen (s : LockState) (shell : ℕ) : Bool := s.delegates.any (·.shell = shell)

def mapDelegates (f : WindowDelegate → WindowDelegate) (s : LockState) : LockState :=
  { s with delegates := s.delegates.map f }

def WindowDelegate.only (shell : ℕ) (f : WindowDelegate → WindowDelegate) (d : WindowDelegate) :
    WindowDelegate :=
  if d.shell = shell then f d else d

/-- The condition that `updatePrivacyLock` reads. -/
def coverDue (s : LockState) : Bool := s.blinkAppLock && !s.blinkAppUnlocked

def WindowDelegate.setCover (privacyLockView : Bool) (d : WindowDelegate) : WindowDelegate :=
  { d with privacyLockView }

def updatePrivacyLock (shell : ℕ) (s : LockState) : LockState :=
  mapDelegates (WindowDelegate.only shell (WindowDelegate.setCover (coverDue s))) s

def updateAll (s : LockState) : LockState :=
  mapDelegates (WindowDelegate.setCover (coverDue s)) s

def viewDidLoad (s : LockState) : LockState :=
  { s with
    delegates := s.delegates ++ [⟨s.nextShell, false, none⟩]
    mainQueue := s.mainQueue ++ [.updatePrivacyLock s.nextShell]
    nextShell := s.nextShell + 1 }

def close (shell : ℕ) (s : LockState) : LockState :=
  { s with delegates := s.delegates.filter (·.shell ≠ shell) }

/-- Every delegate is notified and locks the app; the last has what the first set. -/
def didEnterBackground (s : LockState) : LockState :=
  if !s.blinkAppLock then s
  else
    updateAll { s with
      blinkAppUnlocked := s.blinkAppUnlocked && s.delegates.isEmpty
      freshFrom := some s.nextEvaluation }

def willEnterForeground : LockState → LockState := updateAll

def start (evaluation : ℕ → Evaluation) (canEvaluate : Bool) (s : LockState) : LockState :=
  if !canEvaluate then s
  else { s with
    evaluations := s.evaluations ++ [evaluation s.nextEvaluation]
    nextEvaluation := s.nextEvaluation + 1 }

def unlockBlinker : Bool → LockState → LockState := start .unlockBlinker

def toggleAppLockFromSettings (settings : ℕ) (canEvaluate : Bool) (s : LockState) : LockState :=
  start (.toggleAppLock · settings s.blinkAppLock) canEvaluate s

/-- What is asked for after a transition is given by a success of a later evaluation. -/
def forgetDemand (evaluation : Evaluation) (freshFrom : Option ℕ) : Option ℕ :=
  match evaluation with
  | .unlockBlinker number => freshFrom.filter (number < ·)
  | .toggleAppLock .. => freshFrom

def reply (index : ℕ) (success : Bool) (s : LockState) : LockState :=
  match s.evaluations[index]? with
  | none => s
  | some evaluation =>
    let s := { s with evaluations := s.evaluations.eraseIdx index }
    if !success then s
    else { s with
      mainQueue := s.mainQueue ++ [.reply evaluation]
      freshFrom := forgetDemand evaluation s.freshFrom }

def run (s : LockState) : Block → LockState
  | .updatePrivacyLock shell => updatePrivacyLock shell s
  | .reply (.unlockBlinker _) => updateAll { s with blinkAppUnlocked := true }
  | .reply (.toggleAppLock _ settings currentlyEnabled) =>
    let enabled := !currentlyEnabled
    -- without the lock nothing is asked for
    updatePrivacyLock settings { s with
      blinkAppLock := enabled
      blinkAppUnlocked := enabled
      freshFrom := if enabled then s.freshFrom else none }

def runMainQueue (s : LockState) : LockState :=
  match s.mainQueue with
  | [] => s
  | block :: mainQueue => run { s with mainQueue } block

def WindowDelegate.present (controller : Presented) (d : WindowDelegate) : WindowDelegate :=
  if d.presented.isSome then d else { d with presented := some controller }

def WindowDelegate.presentList (d : WindowDelegate) : WindowDelegate :=
  match d.presented with
  | some (.menu pushed) => { d with presented := some (.menu (pushed + 1)) }
  | _ => d.present .list

def WindowDelegate.backTapped (d : WindowDelegate) : WindowDelegate :=
  match d.presented with
  | some (.menu (pushed + 1)) => { d with presented := some (.menu pushed) }
  | _ => d

def WindowDelegate.dismiss (d : WindowDelegate) : WindowDelegate := { d with presented := none }

inductive Event where
  | viewDidLoad
  | close (shell : ℕ)
  | didEnterBackground
  | willEnterForeground
  | unlockBlinker (canEvaluate : Bool)
  | toggleAppLockFromSettings (settings : ℕ) (canEvaluate : Bool)
  | reply (index : ℕ) (success : Bool)
  | runMainQueue
  | showMenu (shell : ℕ)
  | presentList (shell : ℕ)
  | showTabSwitcher (shell : ℕ)
  | backTapped (shell : ℕ)
  | dismiss (shell : ℕ)
deriving DecidableEq

def step (s : LockState) : Event → LockState
  | .viewDidLoad => viewDidLoad s
  | .close shell => close shell s
  | .didEnterBackground => didEnterBackground s
  | .willEnterForeground => willEnterForeground s
  | .unlockBlinker canEvaluate => unlockBlinker canEvaluate s
  | .toggleAppLockFromSettings settings canEvaluate =>
    toggleAppLockFromSettings settings canEvaluate s
  | .reply index success => reply index success s
  | .runMainQueue => runMainQueue s
  | .showMenu shell => mapDelegates (WindowDelegate.only shell (WindowDelegate.present (.menu 0))) s
  | .presentList shell => mapDelegates (WindowDelegate.only shell WindowDelegate.presentList) s
  | .showTabSwitcher shell =>
    mapDelegates (WindowDelegate.only shell (WindowDelegate.present .tabSwitcher)) s
  | .backTapped shell => mapDelegates (WindowDelegate.only shell WindowDelegate.backTapped) s
  | .dismiss shell => mapDelegates (WindowDelegate.only shell WindowDelegate.dismiss) s

/-- The app as it is launched: the lock as it was left, nothing unlocked yet. -/
def launch (blinkAppLock : Bool) : LockState := ⟨blinkAppLock, false, [], [], [], 0, 0, none⟩

end BlinkerFluid.AppLock
