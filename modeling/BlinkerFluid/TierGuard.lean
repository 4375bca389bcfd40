import BlinkerFluid.CrashSignal
import BlinkerFluid.StepRun

/-! The JIT tier guard. Three stores outlive a process: the chosen tier, the probe
that a launch at a generated-code tier arms, and the crash-signal file. A launch
may reach `ResolveIOSJitTier` or not: the process can die earlier, and a build or
system without executable memory never calls it. -/

namespace BlinkerFluid.TierGuard
open ByteString CrashSignal

def kTierJitless : ℤ := 0
def kTierInterpreter : ℤ := 1
def kTierBaseline : ℤ := 2
def kTierMidTier : ℤ := 3
def kTierFull : ℤ := 4
def kTierFullWasm : ℤ := 5
def kTierMax : ℤ := kTierFullWasm
def kDefaultIOSJitTier : ℤ := kTierFull

/-- `BlinkJITTier`, `BlinkJITTierProbe` and the crash-signal file. -/
structure Stores where
  tier : Option ℤ
  probe : Option ℤ
  crashFile : Option Bytes

/-- A missing preference, or one that is no number, reads as the fallback. -/
def readIOSPrefInt (pref : Option ℤ) (fallback : ℤ) : ℤ := pref.getD fallback

def Stores.storedTier (s : Stores) : ℤ := readIOSPrefInt s.tier kDefaultIOSJitTier

def Stores.pending (s : Stores) : ℤ := readIOSPrefInt s.probe (-1)

/-- The signal the crash-signal file holds, 0 if there is no file. -/
def Stores.recordedSignal (s : Stores) : ℤ := (takeLastCrashSignal s.crashFile).1

/-- `std::clamp`. -/
def clampTier (tier : ℤ) : ℤ := max kTierJitless (min tier kTierMax)

def capTier (codeRangeExecutionAvailable : Bool) (tier : ℤ) : ℤ :=
  if !codeRangeExecutionAvailable && tier > kTierInterpreter then kTierInterpreter else tier

def resolveIOSJitTier (codeRangeExecutionAvailable : Bool) (s : Stores) : Stores × ℤ :=
  let tier := capTier codeRangeExecutionAvailable (clampTier s.storedTier)
  let pending := s.pending
  let (s, tier) :=
    if pending ≥ 0 then
      let (sig, file) := takeLastCrashSignal s.crashFile
      let s := { s with crashFile := file }
      if isCodegenFault sig then
        let downgraded := max 0 (min pending tier - 1)
        ({ s with tier := some downgraded }, downgraded)
      else (s, tier)
    else (s, tier)
  ({ s with probe := some (if tier ≥ kTierBaseline then tier else -1) }, tier)

def clearJITTierProbe (s : Stores) : Stores :=
  if s.probe.isSome && s.pending ≥ 0 then { s with probe := some (-1) } else s

/-- Rows of the JavaScript Engine menu, from `kBlinkJITTierMin` to `kBlinkJITTierMax`. -/
abbrev MenuRow := Fin 5

def menuTier (row : MenuRow) : ℤ := 1 + (row.val : ℤ)

def selectTier (s : Stores) (row : MenuRow) : Stores :=
  { s with tier := some (menuTier row), probe := some (-1) }

/-- What happens in a running process as far as the guard can tell. Both
background callbacks and a requested restart clear the probe; no foreground
callback arms it again. -/
inductive Event
  | background
  | foreground
  | restart
  | select (row : MenuRow)
  deriving DecidableEq

def handle (s : Stores) : Event → Stores
  | .background => clearJITTierProbe s
  | .foreground => s
  | .restart => clearJITTierProbe s
  | .select row => selectTier s row

/-- How a process ends: by itself or by a SIGKILL, of which no handler knows, or
by a signal that the crash handler records. -/
inductive Ending
  | unrecorded
  | crashed (sig : Signal)
  deriving DecidableEq

def finish (s : Stores) : Ending → Stores
  | .unrecorded => s
  | .crashed sig => { s with crashFile := some (recordCrashSignal sig.number) }

/-- A launch: the tiers selected since the previous process ended, the code-range
availability with which the guard runs if the launch reaches it, the events of
the process and its end. -/
structure Launch where
  selections : List MenuRow := []
  guard : Option Bool
  events : List Event := []
  ending : Ending

def beforeGuard (s : Stores) (launch : Launch) : Stores := launch.selections.foldl selectTier s

def afterGuard (s : Stores) (launch : Launch) : Stores :=
  match launch.guard with
  | some available => (resolveIOSJitTier available (beforeGuard s launch)).1
  | none => beforeGuard s launch

def runLaunch (s : Stores) (launch : Launch) : Stores :=
  finish (launch.events.foldl handle (afterGuard s launch)) launch.ending

def Event.disarms : Event → Bool
  | .background | .restart | .select _ => true
  | .foreground => false

section Resolve

variable (available : Bool) (s : Stores)

/-- The guard trusts the file: a probe is armed and the file blames generated code. -/
def Blames (s : Stores) : Prop := 0 ≤ s.pending ∧ isCodegenFault s.recordedSignal = true

instance : Decidable (Blames s) := inferInstanceAs (Decidable (_ ∧ _))

theorem clampTier_mem (tier : ℤ) : 0 ≤ clampTier tier ∧ clampTier tier ≤ 5 := by
  unfold clampTier kTierJitless kTierMax kTierFullWasm
  omega

theorem clampTier_eq (tier : ℤ) (low : 0 ≤ tier) (high : tier ≤ 5) : clampTier tier = tier := by
  unfold clampTier kTierJitless kTierMax kTierFullWasm
  omega

theorem resolve_tier :
    (resolveIOSJitTier available s).2 =
      if Blames s then max 0 (min s.pending (capTier available (clampTier s.storedTier)) - 1)
      else capTier available (clampTier s.storedTier) := by
  unfold resolveIOSJitTier Blames Stores.recordedSignal
  by_cases armed : 0 ≤ s.pending
  · by_cases fault : isCodegenFault (takeLastCrashSignal s.crashFile).1 = true <;> simp [armed, fault]
  · simp [armed]

theorem resolve_storedTier :
    (resolveIOSJitTier available s).1.storedTier =
      if Blames s then (resolveIOSJitTier available s).2 else s.storedTier := by
  unfold resolveIOSJitTier Blames Stores.recordedSignal Stores.storedTier readIOSPrefInt
  by_cases armed : 0 ≤ s.pending
  · by_cases fault : isCodegenFault (takeLastCrashSignal s.crashFile).1 = true <;> simp [armed, fault]
  · simp [armed]

theorem resolve_pending :
    (resolveIOSJitTier available s).1.pending =
      if (resolveIOSJitTier available s).2 ≥ kTierBaseline then (resolveIOSJitTier available s).2
      else -1 := rfl

/-- A pending probe consumes the crash-signal file; without one it is not looked at. -/
theorem resolve_crashFile :
    (resolveIOSJitTier available s).1.crashFile = if 0 ≤ s.pending then none else s.crashFile := by
  unfold resolveIOSJitTier takeLastCrashSignal
  by_cases armed : 0 ≤ s.pending
  · simp only [ge_iff_le, armed, if_true]
    cases s.crashFile <;> simp only <;> split_ifs <;> rfl
  · simp [armed]

end Resolve

section Events

variable (s : Stores)

@[simp] theorem selectTier_pending (row : MenuRow) : (selectTier s row).pending = -1 := rfl

@[simp] theorem selectTier_storedTier (row : MenuRow) :
    (selectTier s row).storedTier = menuTier row := rfl

@[simp] theorem selectTier_crashFile (row : MenuRow) :
    (selectTier s row).crashFile = s.crashFile := rfl

@[simp] theorem clearJITTierProbe_crashFile : (clearJITTierProbe s).crashFile = s.crashFile := by
  unfold clearJITTierProbe
  split_ifs <;> rfl

@[simp] theorem clearJITTierProbe_storedTier :
    (clearJITTierProbe s).storedTier = s.storedTier := by
  unfold clearJITTierProbe
  split_ifs <;> rfl

theorem clearJITTierProbe_pending : (clearJITTierProbe s).pending < 0 := by
  unfold clearJITTierProbe
  split_ifs with h
  · exact Int.negSucc_lt_zero 0
  · simp only [Bool.and_eq_true, decide_eq_true_eq, not_and, Option.isSome_iff_ne_none] at h
    by_cases absent : s.probe = none
    · simp [Stores.pending, absent, readIOSPrefInt]
    · have := h absent
      omega

@[simp] theorem handle_crashFile (event : Event) : (handle s event).crashFile = s.crashFile := by
  cases event <;> simp [handle]

theorem handle_pending (event : Event) :
    (event.disarms = true → (handle s event).pending < 0) ∧
      (event.disarms = false → handle s event = s) := by
  cases event <;> simp [handle, Event.disarms, clearJITTierProbe_pending]

@[simp] theorem handles_crashFile (events : List Event) :
    (events.foldl handle s).crashFile = s.crashFile := by
  induction events generalizing s with
  | nil => rfl
  | cons event events ih => rw [List.foldl_cons, ih, handle_crashFile]

theorem handle_pending_neg (event : Event) (neg : s.pending < 0) : (handle s event).pending < 0 := by
  cases disarms : event.disarms
  · rwa [(handle_pending s event).2 disarms]
  · exact (handle_pending s event).1 disarms

theorem handles_pending_neg (events : List Event) (neg : s.pending < 0) :
    (events.foldl handle s).pending < 0 := by
  induction events generalizing s with
  | nil => exact neg
  | cons event events ih => exact ih _ (handle_pending_neg s event neg)

theorem handles_disarmed (events : List Event) (h : ∃ event ∈ events, event.disarms = true) :
    (events.foldl handle s).pending < 0 := by
  induction events generalizing s with
  | nil => simp at h
  | cons event events ih =>
    rw [List.foldl_cons]
    by_cases disarms : event.disarms = true
    · exact handles_pending_neg _ events ((handle_pending s event).1 disarms)
    · exact ih _ (by simpa [disarms] using h)

theorem handles_armed (events : List Event) (h : ∀ event ∈ events, event.disarms = false) :
    events.foldl handle s = s := by
  induction events generalizing s with
  | nil => rfl
  | cons event events ih =>
    rw [List.foldl_cons, (handle_pending s event).2 (h event List.mem_cons_self)]
    exact ih s fun e mem => h e (List.mem_cons_of_mem _ mem)

@[simp] theorem finish_pending (ending : Ending) : (finish s ending).pending = s.pending := by
  cases ending <;> rfl

@[simp] theorem finish_storedTier (ending : Ending) :
    (finish s ending).storedTier = s.storedTier := by
  cases ending <;> rfl

@[simp] theorem finish_crashed_signal (sig : Signal) :
    (finish s (.crashed sig)).recordedSignal = sig.number := by
  simp [finish, Stores.recordedSignal, take_record _ sig.number_lt]

theorem selections_pending (rows : List MenuRow) :
    rows.foldl selectTier s = s ∨ (rows.foldl selectTier s).pending = -1 := by
  rcases List.eq_nil_or_concat rows with rfl | ⟨rows, row, rfl⟩
  · exact .inl rfl
  · simp

end Events

end BlinkerFluid.TierGuard
