import BlinkerFluid.StepRun
import Mathlib.Logic.Function.Basic

/-! Fullscreen on a phone. Each shell has its own fullscreen bit; the idle timer, the orientation
mask and the mask that is put back belong to the application and are set by the toggle only. -/

namespace BlinkerFluid.Fullscreen
open StepRun

/-- `UIInterfaceOrientation`. -/
inductive InterfaceOrientation where
  | unknown
  | portrait
  | portraitUpsideDown
  | landscapeRight
  | landscapeLeft
deriving DecidableEq

/-- `UIInterfaceOrientationMask`, a bit for each orientation. -/
abbrev OrientationMask := ℕ

def orientationMaskLandscapeRight : OrientationMask := 1 <<< 3

def orientationMaskLandscapeLeft : OrientationMask := 1 <<< 4

def orientationMaskAll : OrientationMask := 30

inductive UserInterfaceIdiom where
  | phone
  | pad
deriving DecidableEq

/-- The fullscreen bits of the live shells and the state of the device. The mask at the last entry
is a record that nothing reads. -/
structure State where
  shellDataMap : ℕ → Option Bool
  idleTimerDisabled : Bool
  orientationMask : OrientationMask
  preFullscreenMask : OrientationMask
  enteredUnder : OrientationMask

def start (mask : OrientationMask) : State := ⟨fun _ => none, false, mask, orientationMaskAll, mask⟩

inductive Event where
  | create (shell : ℕ)
  | toggleFullscreenModeForTab (shell : ℕ) (enterFullscreen : Bool)
      (current : InterfaceOrientation)
  | cleanUp (shell : ℕ)

def applyOrientationMask (mask : OrientationMask) (s : State) : State :=
  { s with orientationMask := mask }

def landscapeMask (current : InterfaceOrientation) : OrientationMask :=
  if current = .landscapeLeft || current = .landscapeRight then
    if current = .landscapeLeft then orientationMaskLandscapeLeft
    else orientationMaskLandscapeRight
  else orientationMaskLandscapeRight

def blinkApplyFullscreenOrientation (idiom : UserInterfaceIdiom) (entering : Bool)
    (current : InterfaceOrientation) (s : State) : State :=
  if idiom ≠ .phone then s
  else if entering then
    applyOrientationMask (landscapeMask current)
      { s with preFullscreenMask := s.orientationMask, enteredUnder := s.orientationMask }
  else
    applyOrientationMask s.preFullscreenMask { s with preFullscreenMask := orientationMaskAll }

def toggleFullscreenModeForTab (idiom : UserInterfaceIdiom) (shell : ℕ) (enterFullscreen : Bool)
    (current : InterfaceOrientation) (s : State) : State :=
  match s.shellDataMap shell with
  | none => s
  | some fullscreen =>
    if fullscreen = enterFullscreen then s
    else
      blinkApplyFullscreenOrientation idiom enterFullscreen current
        { s with
          shellDataMap := Function.update s.shellDataMap shell (some enterFullscreen)
          idleTimerDisabled := enterFullscreen }

def step (idiom : UserInterfaceIdiom) (s : State) : Event → State
  | .create shell =>
    if s.shellDataMap shell = none then
      { s with shellDataMap := Function.update s.shellDataMap shell (some false) }
    else s
  | .toggleFullscreenModeForTab shell enterFullscreen current =>
    toggleFullscreenModeForTab idiom shell enterFullscreen current s
  | .cleanUp shell => { s with shellDataMap := Function.update s.shellDataMap shell none }

def IsFullscreen (s : State) (shell : ℕ) : Prop := s.shellDataMap shell = some true

/-- The screen is kept awake while a live shell is fullscreen, and where none is, the mask is the
one from before. -/
structure Restored (mask : OrientationMask) (s : State) : Prop where
  awake : s.idleTimerDisabled = true ↔ ∃ shell, IsFullscreen s shell
  turnedBack : (∀ shell, ¬IsFullscreen s shell) → s.orientationMask = mask

/-- A shell leaves fullscreen as the only one in it, the last entry having been made under the mask
from before; a fullscreen shell is closed while another one is in fullscreen. -/
def TakesTurns (mask : OrientationMask) (s : State) : Event → Prop
  | .create _ => True
  | .toggleFullscreenModeForTab shell enterFullscreen _ =>
    IsFullscreen s shell → enterFullscreen = false →
      (∀ other, IsFullscreen s other → other = shell) ∧ s.enteredUnder = mask
  | .cleanUp shell => IsFullscreen s shell → ∃ other, other ≠ shell ∧ IsFullscreen s other

section Steps

/-- While a shell is fullscreen, the mask to put back is the one at the last entry. -/
def Saved (s : State) : Prop :=
  ∀ shell, IsFullscreen s shell → s.preFullscreenMask = s.enteredUnder

variable {mask : OrientationMask} {s : State} {shell other : ℕ}

theorem isFullscreen_update (s : State) (shell : ℕ) (bit : Option Bool) (other : ℕ) :
    IsFullscreen { s with shellDataMap := Function.update s.shellDataMap shell bit } other ↔
      if other = shell then bit = some true else IsFullscreen s other := by
  by_cases same : other = shell
  · simp [IsFullscreen, same]
  · simp [IsFullscreen, same]

theorem toggle_cases (shell : ℕ) (enterFullscreen : Bool) (current : InterfaceOrientation)
    (s : State) :
    (toggleFullscreenModeForTab .phone shell enterFullscreen current s = s ∧
        (IsFullscreen s shell → enterFullscreen = true)) ∨
      (enterFullscreen = true ∧ s.shellDataMap shell = some false ∧
        toggleFullscreenModeForTab .phone shell enterFullscreen current s =
          ⟨Function.update s.shellDataMap shell (some true), true, landscapeMask current,
            s.orientationMask, s.orientationMask⟩) ∨
      (enterFullscreen = false ∧ IsFullscreen s shell ∧
        toggleFullscreenModeForTab .phone shell enterFullscreen current s =
          ⟨Function.update s.shellDataMap shell (some false), false, s.preFullscreenMask,
            orientationMaskAll, s.enteredUnder⟩) := by
  unfold toggleFullscreenModeForTab IsFullscreen
  cases bit : s.shellDataMap shell with
  | none => exact .inl ⟨rfl, fun none => by cases none⟩
  | some fullscreen =>
    cases fullscreen <;> cases enterFullscreen
    · exact .inl ⟨rfl, fun off => by cases off⟩
    · exact .inr (.inl ⟨rfl, rfl, rfl⟩)
    · exact .inr (.inr ⟨rfl, rfl, rfl⟩)
    · exact .inl ⟨rfl, fun _ => rfl⟩

theorem isFullscreen_off (s : State) (shell : ℕ) (bit : Option Bool) (off : bit ≠ some true)
    (other : ℕ) :
    IsFullscreen { s with shellDataMap := Function.update s.shellDataMap shell bit } other ↔
      other ≠ shell ∧ IsFullscreen s other := by
  rw [isFullscreen_update]
  split_ifs with same <;> simp [same, off]

theorem restored_enter (s : State) (shell : ℕ) (current : InterfaceOrientation) :
    let entered : State := ⟨Function.update s.shellDataMap shell (some true), true,
      landscapeMask current, s.orientationMask, s.orientationMask⟩
    Restored mask entered ∧ Saved entered := by
  intro entered
  have inside : IsFullscreen entered shell := Function.update_self _ _ _
  exact ⟨⟨iff_of_true rfl ⟨shell, inside⟩, fun none => absurd inside (none shell)⟩, fun _ _ => rfl⟩

/-- Leaving restores the device exactly if no other shell is fullscreen and the mask put back is
the one from before. -/
theorem restored_leave_iff (saved : Saved s) (inside : IsFullscreen s shell) :
    Restored mask ⟨Function.update s.shellDataMap shell (some false), false, s.preFullscreenMask,
        orientationMaskAll, s.enteredUnder⟩ ↔
      (∀ other, IsFullscreen s other → other = shell) ∧ s.enteredUnder = mask := by
  have left (other : ℕ) := isFullscreen_off s shell (some false) (by decide) other
  constructor
  · intro restored
    have none (other : ℕ) : ¬(other ≠ shell ∧ IsFullscreen s other) := fun still =>
      absurd (restored.awake.mpr ⟨other, (left other).mpr still⟩) Bool.false_ne_true
    refine ⟨fun other still => by_contra fun different => none other ⟨different, still⟩, ?_⟩
    rw [← saved shell inside]
    exact restored.turnedBack fun other still => none other ((left other).mp still)
  · rintro ⟨only, under⟩
    refine ⟨iff_of_false Bool.false_ne_true ?_, fun _ => (saved shell inside).trans under⟩
    rintro ⟨other, still⟩
    obtain ⟨different, still⟩ := (left other).mp still
    exact different (only other still)

/-- Where the device is in order, closing a shell keeps it so exactly if the shell was not the
last one in fullscreen. -/
theorem restored_cleanUp_iff (restored : Restored mask s) (shell : ℕ) :
    Restored mask { s with shellDataMap := Function.update s.shellDataMap shell none } ↔
      (IsFullscreen s shell → ∃ other, other ≠ shell ∧ IsFullscreen s other) := by
  have left (other : ℕ) := isFullscreen_off s shell none (by decide) other
  constructor
  · intro after inside
    obtain ⟨other, still⟩ := after.awake.mp (restored.awake.mpr ⟨shell, inside⟩)
    exact ⟨other, (left other).mp still⟩
  · intro another
    refine ⟨⟨fun awake => ?_, ?_⟩, fun none => restored.turnedBack fun other inside => ?_⟩
    · obtain ⟨other, inside⟩ := restored.awake.mp awake
      by_cases same : other = shell
      · obtain ⟨third, still⟩ := another (same ▸ inside)
        exact ⟨third, (left third).mpr still⟩
      · exact ⟨other, (left other).mpr ⟨same, inside⟩⟩
    · rintro ⟨other, still⟩
      exact restored.awake.mpr ⟨other, ((left other).mp still).2⟩
    · by_cases same : other = shell
      · obtain ⟨third, still⟩ := another (same ▸ inside)
        exact none third ((left third).mpr still)
      · exact none other ((left other).mpr ⟨same, inside⟩)

theorem isFullscreen_create (absent : s.shellDataMap shell = none) (other : ℕ) :
    IsFullscreen { s with shellDataMap := Function.update s.shellDataMap shell (some false) }
      other ↔ IsFullscreen s other := by
  rw [isFullscreen_off s shell _ (by decide), and_iff_right_iff_imp]
  rintro inside rfl
  rw [IsFullscreen, absent] at inside
  cases inside

theorem restored_create (restored : Restored mask s) (absent : s.shellDataMap shell = none) :
    Restored mask
      { s with shellDataMap := Function.update s.shellDataMap shell (some false) } := by
  have same := isFullscreen_create absent
  exact ⟨restored.awake.trans (exists_congr fun other => (same other).symm),
    fun none => restored.turnedBack fun other inside => none other ((same other).mpr inside)⟩

theorem restored_step_iff (restored : Restored mask s) (saved : Saved s) (event : Event) :
    Restored mask (step .phone s event) ↔ TakesTurns mask s event := by
  cases event with
  | create shell =>
    refine iff_of_true ?_ trivial
    rw [step]
    split_ifs with absent
    · exact restored_create restored absent
    · exact restored
  | toggleFullscreenModeForTab shell enterFullscreen current =>
    rw [step, TakesTurns]
    obtain ⟨same, stays⟩ | ⟨rfl, -, same⟩ | ⟨rfl, inside, same⟩ :=
      toggle_cases shell enterFullscreen current s
    · rw [same]
      refine iff_of_true restored fun inside leaves => ?_
      rw [stays inside] at leaves
      cases leaves
    · rw [same]
      exact iff_of_true (restored_enter s shell current).1 fun _ leaves => by cases leaves
    · rw [same, restored_leave_iff saved inside, imp_iff_right inside, imp_iff_right rfl]
  | cleanUp shell => exact restored_cleanUp_iff restored shell

theorem saved_step (saved : Saved s) (event : Event) (turns : TakesTurns mask s event) :
    Saved (step .phone s event) := by
  cases event with
  | create shell =>
    rw [step]
    split_ifs with absent
    · exact fun other inside => saved other ((isFullscreen_create absent other).mp inside)
    · exact saved
  | toggleFullscreenModeForTab shell enterFullscreen current =>
    rw [step]
    obtain ⟨same, -⟩ | ⟨-, -, same⟩ | ⟨leaves, inside, same⟩ :=
      toggle_cases shell enterFullscreen current s
    · rw [same]
      exact saved
    · rw [same]
      exact fun _ _ => rfl
    · rw [same]
      intro other still
      have off := isFullscreen_off s shell (some false) (by decide) other
      obtain ⟨different, still⟩ := off.mp still
      exact absurd ((turns inside leaves).1 other still) different
  | cleanUp shell =>
    intro other still
    exact saved other ((isFullscreen_off s shell none (by decide) other).mp still).2

end Steps

/-- On a phone the device is in order throughout a run exactly if every shell leaves fullscreen as
the only one in it, the last entry having been made under the mask from before, and no shell is
closed as the last one in fullscreen. -/
theorem fullscreen_restored_iff (mask : OrientationMask) (events : List Event) :
    (∀ past, past <+: events → Restored mask (past.foldl (step .phone) (start mask))) ↔
      Permitted (TakesTurns mask) (step .phone) (start mask) events := by
  have preserved (s : State) (event : Event) (saved : Saved s) (_ : Restored mask s)
      (turns : TakesTurns mask s event) : Saved (step .phone s event) :=
    saved_step saved event turns
  have each (s : State) (event : Event) (saved : Saved s) (restored : Restored mask s) :=
    restored_step_iff restored saved event
  have outside (shell : ℕ) : ¬IsFullscreen (start mask) shell := by
    intro inside
    cases inside
  refine kept_iff_permitted preserved each _ events
    (fun shell inside => (outside shell inside).elim) ⟨?_, fun _ => rfl⟩
  refine iff_of_false Bool.false_ne_true ?_
  rintro ⟨shell, inside⟩
  exact outside shell inside

/-- Two tabs enter fullscreen and the first one leaves: the screen is no longer kept awake. -/
theorem overlapping_asleep :
    ¬∀ mask events past, past <+: events →
      Restored mask (past.foldl (step .phone) (start mask)) := by
  intro always
  have restored := always orientationMaskAll
    [.create 0, .create 1, .toggleFullscreenModeForTab 0 true .portrait,
      .toggleFullscreenModeForTab 1 true .landscapeRight,
      .toggleFullscreenModeForTab 0 false .landscapeRight] _ (List.prefix_refl _)
  have awake := restored.awake.mpr ⟨1, rfl⟩
  revert awake
  decide

end BlinkerFluid.Fullscreen
