import BlinkerFluid.MemoryPolicy

/-! The memory watchdog: a tick that finds the process critical notifies critical pressure unless
it has done so within the interval, and the first tick in the moderate band notifies moderate
pressure, once until a tick finds the process calm. Times are in seconds. -/

namespace BlinkerFluid.MemoryWatchdog
open StepRun MemoryPolicy
open GlobalMemoryGuard (PressureLevel)

def kCriticalPurgeMinIntervalSecs : ℤ := 3

/-- `g_last_critical_purge`, `g_mem_watchdog_low_latched` and the cached ceiling. -/
structure Watchdog where
  lastCriticalPurge : ℤ := 0
  lowLatched : Bool := false
  cached : UInt64 := 0

/-- What a tick reads: the clock, the readings of its own and those of each threshold that it asks
for, behind the calls of `MemoryCeiling` that others made since the tick before. -/
structure Tick where
  now : ℤ
  elsewhere : List Readings
  own : Readings
  atCriticalAvailable : Readings
  atCriticalFootprint : Readings
  atModerateAvailable : Readings
  atModerateFootprint : Readings

/-- What a tick found and which notification it sent. -/
structure Outcome where
  now : ℤ
  critical : Bool
  moderate : Bool
  notified : Option PressureLevel
deriving DecidableEq

variable (platform : Platform)

def availableMemory (own : Readings) : UInt64 := if platform.iOS13 then own.available else 0

/-- `available != 0 && avail < threshold()`. -/
def exhausted (threshold : UInt64 → UInt64) (available : UInt64) (r : Readings) (cached : UInt64) :
    Bool × UInt64 :=
  if available = 0 then (false, cached)
  else
    let call := memoryCeiling platform r cached
    (available < threshold call.1, call.2)

/-- `have_footprint && footprint >= threshold()`. -/
def outgrown (threshold : UInt64 → UInt64) (footprint : Option UInt64) (r : Readings)
    (cached : UInt64) : Bool × UInt64 :=
  match footprint with
  | none => (false, cached)
  | some footprint =>
    let call := memoryCeiling platform r cached
    (threshold call.1 ≤ footprint, call.2)

/-- The second threshold is asked for if the first is not reached. -/
def pressed (headroom footprint : UInt64 → UInt64) (own first second : Readings)
    (cached : UInt64) : Bool × UInt64 :=
  let low := exhausted platform headroom (availableMemory platform own) first cached
  if low.1 then low else outgrown platform footprint own.footprint second low.2

section Tick

variable (w : Watchdog) (t : Tick)

/-- The pressures that a tick measures, the second with the cache that the first leaves. -/
def criticalPressure : Bool × UInt64 :=
  pressed platform criticalAvailable criticalFootprint t.own t.atCriticalAvailable
    t.atCriticalFootprint (cachedAfter platform t.elsewhere w.cached)

def moderatePressure : Bool × UInt64 :=
  pressed platform moderateAvailable moderateFootprint t.own t.atModerateAvailable
    t.atModerateFootprint (criticalPressure platform w t).2

def blinkMemoryWatchdogTick : Watchdog × Outcome :=
  let critical := (criticalPressure platform w t).1
  let moderate := (moderatePressure platform w t).1
  let w := { w with cached := (moderatePressure platform w t).2 }
  let outcome := Outcome.mk t.now critical moderate
  if critical then
    if t.now - w.lastCriticalPurge ≥ kCriticalPurgeMinIntervalSecs then
      ({ w with lastCriticalPurge := t.now, lowLatched := true }, outcome (some .critical))
    else ({ w with lowLatched := true }, outcome none)
  else if moderate then
    if !w.lowLatched then ({ w with lowLatched := true }, outcome (some .moderate))
    else (w, outcome none)
  else ({ w with lowLatched := false }, outcome none)

theorem tick_record :
    (blinkMemoryWatchdogTick platform w t).2.now = t.now ∧
      (blinkMemoryWatchdogTick platform w t).2.critical = (criticalPressure platform w t).1 ∧
      (blinkMemoryWatchdogTick platform w t).2.moderate = (moderatePressure platform w t).1 := by
  unfold blinkMemoryWatchdogTick
  simp only
  split_ifs <;> exact ⟨rfl, rfl, rfl⟩

end Tick

/-- What a tick does to the timer and the latch. -/
inductive Reaction (w w' : Watchdog) (outcome : Outcome) : Prop
  | purge (critical : outcome.critical = true)
      (due : w.lastCriticalPurge + kCriticalPurgeMinIntervalSecs ≤ outcome.now)
      (sent : outcome.notified = some .critical) (timer : w'.lastCriticalPurge = outcome.now)
      (latch : w'.lowLatched = true)
  | tooSoon (critical : outcome.critical = true)
      (early : outcome.now < w.lastCriticalPurge + kCriticalPurgeMinIntervalSecs)
      (sent : outcome.notified = none) (timer : w'.lastCriticalPurge = w.lastCriticalPurge)
      (latch : w'.lowLatched = true)
  | crossing (critical : outcome.critical = false) (moderate : outcome.moderate = true)
      (armed : w.lowLatched = false) (sent : outcome.notified = some .moderate)
      (timer : w'.lastCriticalPurge = w.lastCriticalPurge) (latch : w'.lowLatched = true)
  | inBand (critical : outcome.critical = false) (moderate : outcome.moderate = true)
      (latched : w.lowLatched = true) (sent : outcome.notified = none)
      (timer : w'.lastCriticalPurge = w.lastCriticalPurge) (latch : w'.lowLatched = true)
  | calm (critical : outcome.critical = false) (moderate : outcome.moderate = false)
      (sent : outcome.notified = none) (timer : w'.lastCriticalPurge = w.lastCriticalPurge)
      (latch : w'.lowLatched = false)

theorem tick_reaction (w : Watchdog) (t : Tick) :
    Reaction w (blinkMemoryWatchdogTick platform w t).1
      (blinkMemoryWatchdogTick platform w t).2 := by
  unfold blinkMemoryWatchdogTick
  simp only
  split_ifs with critical due moderate armed
  · exact .purge critical (by simp only; omega) rfl rfl rfl
  · exact .tooSoon critical (by simp only; omega) rfl rfl rfl
  · exact .crossing (Bool.eq_false_iff.mpr critical) moderate (by simpa using armed) rfl rfl rfl
  · exact .inBand (Bool.eq_false_iff.mpr critical) moderate (by simpa using armed) rfl rfl
      (by simpa using armed)
  · exact .calm (Bool.eq_false_iff.mpr critical) (Bool.eq_false_iff.mpr moderate) rfl rfl rfl

def Outcome.purges (outcome : Outcome) : Bool := outcome.notified = some .critical

def Outcome.Calm (outcome : Outcome) : Prop :=
  outcome.critical = false ∧ outcome.moderate = false

def outcomes (w : Watchdog) (ticks : List Tick) : List Outcome :=
  outputs (blinkMemoryWatchdogTick platform) w ticks

def CriticalSpaced (log : List Outcome) : Prop :=
  (log.filter Outcome.purges).Pairwise fun a b => a.now + kCriticalPurgeMinIntervalSecs ≤ b.now

def behind (w : Watchdog) (past : List Tick) : Watchdog :=
  stateAfter (blinkMemoryWatchdogTick platform) w past

/-- A tick behind others that measures critical or moderate pressure. -/
def CriticalAt (past : List Tick) (t : Tick) : Prop :=
  (criticalPressure platform (behind platform {} past) t).1 = true

def ModerateAt (past : List Tick) (t : Tick) : Prop :=
  (moderatePressure platform (behind platform {} past) t).1 = true

/-- A critical tick lies within the interval after a critical notification. -/
def CriticalAnswered (ticks : List Tick) : Prop :=
  ∀ past t rest, ticks = past ++ t :: rest → CriticalAt platform past t →
    ∃ sent ∈ outcomes platform {} (past ++ [t]), sent.notified = some .critical ∧
      sent.now ≤ t.now ∧ t.now < sent.now + kCriticalPurgeMinIntervalSecs

/-- Between calm ticks at most one tick notifies moderate pressure, and none behind a critical
one. -/
def ModerateOnce (ticks : List Tick) : Prop :=
  ∀ past stretch rest, ticks = past ++ stretch ++ rest →
    (∀ early t late, stretch = early ++ t :: late →
      CriticalAt platform (past ++ early) t ∨ ModerateAt platform (past ++ early) t) →
    (outcomes platform (behind platform {} past) stretch).countP
        (fun outcome => outcome.notified = some .moderate) ≤ 1 ∧
      ∀ early t late, stretch = early ++ t :: late → CriticalAt platform (past ++ early) t →
        ∀ later ∈ outcomes platform (behind platform {} (past ++ early ++ [t])) late,
          later.notified ≠ some .moderate

theorem behind_append (w : Watchdog) (past more : List Tick) :
    behind platform w (past ++ more) = behind platform (behind platform w past) more :=
  List.foldl_append

theorem outcomes_append (w : Watchdog) (past more : List Tick) :
    outcomes platform w (past ++ more) =
      outcomes platform w past ++ outcomes platform (behind platform w past) more :=
  outputs_append _ w past more

section Timer

variable {w w' : Watchdog} {outcome : Outcome}

theorem Reaction.timer_cases (reaction : Reaction w w' outcome) :
    (outcome.purges = true ∧
        w.lastCriticalPurge + kCriticalPurgeMinIntervalSecs ≤ outcome.now ∧
        w'.lastCriticalPurge = outcome.now) ∨
      (outcome.purges = false ∧ w'.lastCriticalPurge = w.lastCriticalPurge) := by
  have quiet : outcome.notified ≠ some .critical → outcome.purges = false := decide_eq_false
  cases reaction with
  | purge critical due sent timer latch => exact .inl ⟨decide_eq_true sent, due, timer⟩
  | tooSoon critical early sent timer latch => exact .inr ⟨quiet (by simp [sent]), timer⟩
  | crossing critical moderate armed sent timer latch =>
    exact .inr ⟨quiet (by simp [sent]), timer⟩
  | inBand critical moderate latched sent timer latch =>
    exact .inr ⟨quiet (by simp [sent]), timer⟩
  | calm critical moderate sent timer latch => exact .inr ⟨quiet (by simp [sent]), timer⟩

theorem Reaction.critical_cases (reaction : Reaction w w' outcome)
    (critical : outcome.critical = true) :
    outcome.notified = some .critical ∨
      outcome.now < w.lastCriticalPurge + kCriticalPurgeMinIntervalSecs := by
  cases reaction with
  | purge _ due sent timer latch => exact .inl sent
  | tooSoon _ early sent timer latch => exact .inr early
  | crossing not_critical => simp [critical] at not_critical
  | inBand not_critical => simp [critical] at not_critical
  | calm not_critical => simp [critical] at not_critical

/-- By induction on the ticks; what the timer holds bounds the notifications to come. -/
theorem outcomes_spaced (w : Watchdog) (ticks : List Tick) :
    CriticalSpaced (outcomes platform w ticks) ∧
      ∀ outcome ∈ outcomes platform w ticks, outcome.purges = true →
        w.lastCriticalPurge + kCriticalPurgeMinIntervalSecs ≤ outcome.now := by
  induction ticks generalizing w with
  | nil => exact ⟨List.Pairwise.nil, fun _ mem => by simp [outcomes, outputs] at mem⟩
  | cons t ticks ih =>
    obtain ⟨spaced, behind⟩ := ih (blinkMemoryWatchdogTick platform w t).1
    obtain ⟨purges, due, timer⟩ | ⟨quiet, timer⟩ := (tick_reaction platform w t).timer_cases
    · rw [timer] at behind
      refine ⟨?_, ?_⟩
      · rw [CriticalSpaced, outcomes, outputs, List.filter_cons_of_pos purges, List.pairwise_cons]
        refine ⟨fun later mem => ?_, spaced⟩
        exact behind later (List.mem_of_mem_filter mem) (List.of_mem_filter mem)
      · intro later mem sent
        rcases List.mem_cons.mp mem with rfl | mem
        · exact due
        · have apart := behind later mem sent
          unfold kCriticalPurgeMinIntervalSecs at due apart ⊢
          omega
    · rw [timer] at behind
      refine ⟨?_, ?_⟩
      · rw [CriticalSpaced, outcomes, outputs, List.filter_cons_of_neg (by simp [quiet])]
        exact spaced
      · intro later mem sent
        rcases List.mem_cons.mp mem with rfl | mem
        · simp [quiet] at sent
        · exact behind later mem sent

theorem outcomes_now (w : Watchdog) (ticks : List Tick) :
    (outcomes platform w ticks).map (·.now) = ticks.map (·.now) := by
  induction ticks generalizing w with
  | nil => rfl
  | cons t ticks ih => exact congrArg₂ (· :: ·) (tick_record platform w t).1 (ih _)

theorem timer_anchored (ticks : List Tick) :
    (stateAfter (blinkMemoryWatchdogTick platform) {} ticks).lastCriticalPurge = 0 ∨
      ∃ sent ∈ outcomes platform {} ticks, sent.notified = some .critical ∧
        sent.now = (stateAfter (blinkMemoryWatchdogTick platform) {} ticks).lastCriticalPurge := by
  induction ticks using List.reverseRecOn with
  | nil => exact .inl rfl
  | append_singleton ticks t ih =>
    have last := tick_reaction platform (stateAfter (blinkMemoryWatchdogTick platform) {} ticks) t
    rw [outcomes, outputs_append, stateAfter, List.foldl_concat]
    rcases last.timer_cases with ⟨purges, due, timer⟩ | ⟨quiet, timer⟩
    · have sent := of_decide_eq_true purges
      exact .inr ⟨_, List.mem_append_right _ List.mem_cons_self, sent, timer.symm⟩
    · rcases ih with unset | ⟨sent, mem, critical, now⟩
      · exact .inl (timer.trans unset)
      · exact .inr ⟨sent, List.mem_append_left _ mem, critical, now.trans timer.symm⟩

theorem outcomes_answered {ticks : List Tick} (clock : (ticks.map (·.now)).Pairwise (· ≤ ·))
    (started : ∀ t ∈ ticks, kCriticalPurgeMinIntervalSecs ≤ t.now) :
    CriticalAnswered platform ticks := by
  rintro past t rest rfl critical
  have last := tick_record platform (behind platform {} past) t
  have ordered : (outcomes platform {} (past ++ t :: rest)).Pairwise fun a b => a.now ≤ b.now := by
    rw [← outcomes_now platform {} (past ++ t :: rest), List.pairwise_map] at clock
    exact clock
  rw [outcomes_append] at ordered
  have sofar : outcomes platform {} (past ++ [t]) = outcomes platform {} past ++
      [(blinkMemoryWatchdogTick platform (behind platform {} past) t).2] :=
    outcomes_append platform {} past [t]
  rw [sofar]
  rcases (tick_reaction platform _ t).critical_cases (last.2.1.trans critical) with sent | early
  · refine ⟨_, List.mem_append_right _ List.mem_cons_self, sent, Int.le_of_eq last.1, ?_⟩
    have now := last.1
    unfold kCriticalPurgeMinIntervalSecs
    omega
  · rw [last.1] at early
    rcases timer_anchored platform past with unset | ⟨sent, mem, notified, now⟩
    · have late := started t (List.mem_append_right _ List.mem_cons_self)
      have timer : (behind platform {} past).lastCriticalPurge = 0 := unset
      rw [timer] at early
      omega
    · refine ⟨sent, List.mem_append_left _ mem, notified, ?_, now ▸ early⟩
      have before := (List.pairwise_append.mp ordered).2.2 sent mem _ List.mem_cons_self
      exact last.1 ▸ before

end Timer

section Latch

variable {w w' : Watchdog} {outcome : Outcome}

/-- A tick that is not calm latches; it notifies moderate pressure only if nothing was latched and
it is not critical. -/
theorem Reaction.latch_cases (reaction : Reaction w w' outcome) (busy : ¬ outcome.Calm) :
    w'.lowLatched = true ∧ (outcome.notified = some .moderate →
      w.lowLatched = false ∧ outcome.critical = false) := by
  cases reaction with
  | purge critical due sent timer latch => exact ⟨latch, fun moderate => by simp [sent] at moderate⟩
  | tooSoon critical early sent timer latch =>
    exact ⟨latch, fun moderate => by simp [sent] at moderate⟩
  | crossing critical moderate armed sent timer latch => exact ⟨latch, fun _ => ⟨armed, critical⟩⟩
  | inBand critical moderate latched sent timer latch =>
    exact ⟨latch, fun moderate => by simp [sent] at moderate⟩
  | calm critical moderate => exact absurd ⟨critical, moderate⟩ busy

theorem latched_quiet (w : Watchdog) (ticks : List Tick) (latch : w.lowLatched = true)
    (busy : ∀ outcome ∈ outcomes platform w ticks, ¬ outcome.Calm) :
    ∀ outcome ∈ outcomes platform w ticks, outcome.notified ≠ some .moderate := by
  induction ticks generalizing w with
  | nil => exact fun _ mem => by simp [outcomes, outputs] at mem
  | cons t ticks ih =>
    obtain ⟨next, first⟩ := (tick_reaction platform w t).latch_cases (busy _ List.mem_cons_self)
    intro outcome mem
    rcases List.mem_cons.mp mem with rfl | mem
    · exact fun moderate => absurd (first moderate).1 (by simp [latch])
    · exact ih _ next (fun later mem => busy later (List.mem_cons_of_mem _ mem)) outcome mem

theorem stretch_quiet (w : Watchdog) (ticks : List Tick)
    (busy : ∀ outcome ∈ outcomes platform w ticks, ¬ outcome.Calm) :
    ∀ outcome ∈ (outcomes platform w ticks).tail, outcome.notified ≠ some .moderate := by
  cases ticks with
  | nil => exact fun _ mem => by simp [outcomes, outputs] at mem
  | cons t ticks =>
    have next := ((tick_reaction platform w t).latch_cases (busy _ List.mem_cons_self)).1
    refine latched_quiet platform _ ticks next fun later mem => ?_
    exact busy later (List.mem_cons_of_mem _ mem)

theorem outcomes_busy (w : Watchdog) (ticks : List Tick)
    (pressing : ∀ early t late, ticks = early ++ t :: late →
      (criticalPressure platform (behind platform w early) t).1 = true ∨
        (moderatePressure platform (behind platform w early) t).1 = true) :
    ∀ outcome ∈ outcomes platform w ticks, ¬ outcome.Calm := by
  induction ticks generalizing w with
  | nil => exact fun _ mem => by simp [outcomes, outputs] at mem
  | cons t ticks ih =>
    intro outcome mem calm
    rcases List.mem_cons.mp mem with rfl | mem
    · obtain ⟨-, critical, moderate⟩ := tick_record platform w t
      rcases pressing [] t ticks rfl with pressed | pressed
      · exact Bool.false_ne_true (calm.1.symm.trans (critical.trans pressed))
      · exact Bool.false_ne_true (calm.2.symm.trans (moderate.trans pressed))
    · refine ih _ (fun early t' late split => ?_) outcome mem calm
      exact pressing (t :: early) t' late (congrArg (t :: ·) split)

theorem outcomes_moderateOnce (ticks : List Tick) : ModerateOnce platform ticks := by
  rintro past stretch rest - pressing
  have quiet := stretch_quiet platform (behind platform {} past) stretch
    (outcomes_busy platform _ stretch fun early t late split => by
      rw [← behind_append]
      exact pressing early t late split)
  constructor
  · cases stretch with
    | nil => exact Nat.zero_le 1
    | cons first others =>
      have none_sent : (outcomes platform
          (blinkMemoryWatchdogTick platform (behind platform {} past) first).1 others).countP
            (fun outcome => outcome.notified = some .moderate) = 0 :=
        List.countP_eq_zero.mpr fun outcome mem => by simpa using quiet outcome mem
      rw [outcomes, outputs, List.countP_cons, ← outcomes, none_sent, Nat.zero_add]
      split_ifs <;> decide
  · rintro early t late rfl critical later mem
    rw [outcomes_append] at quiet
    rw [behind_append, behind_append] at mem
    have inside : later ∈ outcomes platform (behind platform (behind platform {} past) early)
        (t :: late) := List.mem_cons_of_mem _ mem
    have further : later ∈ (outcomes platform (behind platform (behind platform {} past) early)
        (t :: late)).tail := mem
    cases early with
    | nil => exact quiet later further
    | cons first early => exact quiet later (List.mem_append_right _ inside)

end Latch

/-- The watchdog's part: every run of ticks under a clock that does not go back and starts at the
interval or later. -/
theorem watchdog_rateLimited {ticks : List Tick}
    (clock : (ticks.map (·.now)).Pairwise (· ≤ ·))
    (started : ∀ first ∈ ticks.head?, kCriticalPurgeMinIntervalSecs ≤ first.now) :
    CriticalSpaced (outcomes platform {} ticks) ∧ CriticalAnswered platform ticks ∧
      ModerateOnce platform ticks := by
  have late : ∀ t ∈ ticks, kCriticalPurgeMinIntervalSecs ≤ t.now := by
    cases ticks with
    | nil => exact fun _ mem => absurd mem List.not_mem_nil
    | cons first ticks =>
      have begin : kCriticalPurgeMinIntervalSecs ≤ first.now := started first rfl
      intro t mem
      rcases List.mem_cons.mp mem with rfl | mem
      · exact begin
      · have after := (List.pairwise_cons.mp clock).1 t.now (List.mem_map_of_mem mem)
        exact Int.le_trans begin after
  exact ⟨(outcomes_spaced platform {} ticks).1, outcomes_answered platform clock late,
    outcomes_moderateOnce platform ticks⟩

section Ladder

variable {platform}

theorem pressed_cached (ios : platform.isIOS = true) {cached : UInt64} (full : cached ≠ 0)
    (headroom threshold : UInt64 → UInt64) (own first second : Readings) :
    ((pressed platform headroom threshold own first second cached).1 = true ↔
      (availableMemory platform own ≠ 0 ∧ availableMemory platform own < headroom cached) ∨
        ∃ footprint ∈ own.footprint, threshold cached ≤ footprint) ∧
      (pressed platform headroom threshold own first second cached).2 = cached := by
  have atSecond := memoryCeiling_cached ios second full
  unfold pressed exhausted outgrown
  rw [memoryCeiling_cached ios first full]
  by_cases unanswered : availableMemory platform own = 0
  · cases own.footprint <;> simp [unanswered, atSecond]
  · by_cases low : availableMemory platform own < headroom cached
    · simp [unanswered, low]
    · cases own.footprint <;> simp [unanswered, low, atSecond]

/-- Once the ceiling is known, a critical tick is moderate as well. -/
theorem tick_critical_moderate (ios : platform.isIOS = true) {w : Watchdog}
    (sound : Sound w.cached) (full : w.cached ≠ 0) (t : Tick)
    (critical : (blinkMemoryWatchdogTick platform w t).2.critical = true) :
    (blinkMemoryWatchdogTick platform w t).2.moderate = true := by
  have ranged : Ranged w.cached := sound.resolve_left full
  rw [(tick_record platform w t).2.1, criticalPressure, cachedAfter_cached ios _ full,
    (pressed_cached ios full _ _ _ _ _).1] at critical
  rw [(tick_record platform w t).2.2, moderatePressure, criticalPressure,
    cachedAfter_cached ios _ full, (pressed_cached ios full _ _ _ _ _).2,
    (pressed_cached ios full _ _ _ _ _).1]
  rcases critical with ⟨answered, low⟩ | ⟨footprint, measured, high⟩
  · exact .inl ⟨answered, UInt64.lt_trans low (availables_lt ranged)⟩
  · have lower := UInt64.le_of_lt (footprints_lt ranged).1
    exact .inr ⟨footprint, measured, UInt64.le_trans lower high⟩

end Ladder

/-- The thresholds of the ceiling that a call computes are ordered, without overflow. -/
structure LadderOrdered (r : Readings) (ceiling : UInt64) : Prop where
  moderate_lt_critical : moderateFootprint ceiling < criticalFootprint ceiling
  critical_lt_block : criticalFootprint ceiling < blockNewContentsFootprint ceiling
  available_lt : criticalAvailable ceiling < moderateAvailable ceiling
  noOverflow : NoOverflow r ceiling

/-- The ladder is ordered whatever was read before, and every run of ticks under a clock that does
not go back and starts at the interval or later is rate-limited. -/
theorem pressureLadder_ordered_rateLimited :
    (∀ (earlier : List Readings) (r : Readings), r.Bounded →
      LadderOrdered r (memoryCeiling platform r (cachedAfter platform earlier 0)).1) ∧
    ∀ ticks : List Tick, (ticks.map (·.now)).Pairwise (· ≤ ·) →
      (∀ first ∈ ticks.head?, kCriticalPurgeMinIntervalSecs ≤ first.now) →
      CriticalSpaced (outcomes platform {} ticks) ∧ CriticalAnswered platform ticks ∧
        ModerateOnce platform ticks := by
  refine ⟨fun earlier r bounded => ?_, fun ticks clock started =>
    watchdog_rateLimited platform clock started⟩
  have ranged : Ranged (memoryCeiling platform r (cachedAfter platform earlier 0)).1 :=
    (memoryCeiling_sound r (cachedAfter_sound earlier (.inl rfl))).1
  exact ⟨(footprints_lt ranged).1, (footprints_lt ranged).2, availables_lt ranged,
    noOverflow_of_bounded bounded ranged⟩

def phone : Platform := ⟨true, true, some (2048 * kMiB)⟩

def idle : Readings := ⟨900 * kMiB, some (200 * kMiB)⟩

def phoneTick (now : ℤ) (headroom : UInt64) : Tick :=
  ⟨now, [], ⟨headroom * kMiB, some (200 * kMiB)⟩, idle, idle, idle, idle⟩

def phoneTicks : List Tick :=
  [phoneTick 100 900, phoneTick 101 200, phoneTick 102 100, phoneTick 103 100, phoneTick 105 100]

theorem pressureLadder_example :
    LadderOrdered idle (memoryCeiling phone idle 0).1 ∧
      CriticalSpaced (outcomes phone {} phoneTicks) ∧
      CriticalAnswered phone phoneTicks ∧ ModerateOnce phone phoneTicks :=
  ⟨(pressureLadder_ordered_rateLimited phone).1 [] idle ⟨by decide, by decide⟩,
    (pressureLadder_ordered_rateLimited phone).2 phoneTicks (by decide) (by decide)⟩

example : (outcomes phone {} phoneTicks).map (·.notified) =
    [none, some .moderate, some .critical, none, some .critical] := by decide

end BlinkerFluid.MemoryWatchdog
