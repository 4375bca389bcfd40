import BlinkerFluid.TierGuard

/-! The tier guard over sequences of launches: which launches earn a demotion, and
when a code-generation fault is followed by one. The crash-signal file carries no
trace of the launch that wrote it, and it is consumed only while a probe is
pending, so both questions are about whole histories. -/

namespace BlinkerFluid.TierGuardRuns
open ByteString CrashSignal TierGuard StepRun

/-- The launch armed the probe at a generated-code tier, nothing disarmed it, and
the process ended with a code-generation signal. -/
def Guilty (s : Stores) (launch : Launch) : Prop :=
  (∃ available, launch.guard = some available ∧
    kTierBaseline ≤ (resolveIOSJitTier available (beforeGuard s launch)).2) ∧
  (∀ event ∈ launch.events, event.disarms = false) ∧
  ∃ sig, launch.ending = .crashed sig ∧ isCodegenFault sig.number = true

/-- The guard of this launch lowers the stored tier. -/
def Demotes (s : Stores) (launch : Launch) : Prop :=
  ∃ available, launch.guard = some available ∧
    (resolveIOSJitTier available (beforeGuard s launch)).1.storedTier <
      (beforeGuard s launch).storedTier

/-- Every demotion of a run is due to the launch right before it. -/
def DemotionsEarned (s : Stores) (launches : List Launch) : Prop :=
  ∀ pre next post, launches = pre ++ next :: post → Demotes (pre.foldl runLaunch s) next →
    ∃ before prev, pre = before ++ [prev] ∧ Guilty (before.foldl runLaunch s) prev

/-- A launch that finds the probe disarmed finds no code-generation signal left
over in the file; a launch that skips the guard finds the probe disarmed. -/
def Attributable (s : Stores) (launch : Launch) : Prop :=
  match launch.guard with
  | some _ => (beforeGuard s launch).pending < 0 →
      isCodegenFault (beforeGuard s launch).recordedSignal = false
  | none => (beforeGuard s launch).pending < 0

instance (s : Stores) (launch : Launch) : Decidable (Attributable s launch) := by
  unfold Attributable
  cases launch.guard <;> infer_instance

/-- Right after the guard the file blames nobody if the probe is armed. -/
theorem afterGuard_recordedSignal (s : Stores) (launch : Launch)
    (attributable : Attributable s launch) (armed : 0 ≤ (afterGuard s launch).pending) :
    isCodegenFault (afterGuard s launch).recordedSignal = false := by
  unfold Attributable at attributable
  unfold afterGuard at armed ⊢
  cases guard : launch.guard with
  | none =>
    simp only [guard] at attributable armed
    omega
  | some available =>
    simp only [guard] at attributable
    simp only [Stores.recordedSignal, resolve_crashFile]
    split_ifs with pending
    · rfl
    · exact attributable (by omega)

theorem guilty_of_blames (s : Stores) (launch : Launch) (attributable : Attributable s launch)
    (blames : Blames (runLaunch s launch)) : Guilty s launch := by
  obtain ⟨armed, fault⟩ := blames
  rw [runLaunch, finish_pending] at armed
  have undisturbed : ∀ event ∈ launch.events, event.disarms = false := by
    by_contra disarmed
    push Not at disarmed
    have neg := handles_disarmed (afterGuard s launch) launch.events (by simpa using disarmed)
    omega
  rw [handles_armed _ _ undisturbed] at armed
  rw [runLaunch, handles_armed _ _ undisturbed] at fault
  have innocent := afterGuard_recordedSignal s launch attributable armed
  refine ⟨?_, undisturbed, ?_⟩
  · unfold Attributable at attributable
    unfold afterGuard at armed
    cases guard : launch.guard with
    | none =>
      simp only [guard] at attributable armed
      omega
    | some available =>
      refine ⟨available, rfl, ?_⟩
      simp only [guard, resolve_pending] at armed
      by_contra low
      rw [if_neg (by omega)] at armed
      omega
  · cases ending : launch.ending with
    | unrecorded =>
      rw [ending, finish, innocent] at fault
      cases fault
    | crashed sig =>
      rw [ending, finish_crashed_signal] at fault
      exact ⟨sig, rfl, fault⟩

theorem blames_of_demotes (s : Stores) (launch : Launch) (demotes : Demotes s launch) :
    Blames s := by
  obtain ⟨available, -, lower⟩ := demotes
  have blamed : Blames (beforeGuard s launch) := by
    by_contra innocent
    rw [resolve_storedTier, if_neg innocent] at lower
    exact Int.lt_irrefl _ lower
  unfold beforeGuard at blamed
  rcases selections_pending s launch.selections with same | disarmed
  · rwa [same] at blamed
  · have := blamed.1
    omega

def installed (tier : Option ℤ) : Stores := ⟨tier, none, none⟩

/-- In a run in which no launch arms the probe over a leftover code-generation
signal, and none skips the guard with the probe armed, every demotion is earned. -/
theorem demotions_earned (tier : Option ℤ) (launches : List Launch)
    (attributable : Permitted Attributable runLaunch (installed tier) launches) :
    DemotionsEarned (installed tier) launches := by
  rintro pre next post rfl demotes
  have blames := blames_of_demotes _ next demotes
  have permitted := ((permitted_append _ _ _).mp attributable).1
  rcases List.eq_nil_or_concat pre with rfl | ⟨before, prev, rfl⟩
  · exact absurd blames.1 (show ¬ (0 : ℤ) ≤ -1 by decide)
  · rw [List.concat_eq_append] at permitted blames ⊢
    rw [List.foldl_append] at blames
    have last := ((permitted_append _ _ _).mp permitted).2.1
    exact ⟨before, prev, rfl, guilty_of_blames _ prev last blames⟩

/-- A launch at the default tier that returns from the background and then dies of
a SIGSEGV: the probe is cleared, the record stays. -/
def faultAfterReturn : Launch :=
  ⟨[], some true, [.background, .foreground], .crashed .sigsegv⟩

def killedLaunch : Launch := ⟨[], some true, [], .unrecorded⟩

def faultAtOnce : Launch := ⟨[], some true, [], .crashed .sigsegv⟩

/-- The leftover record of `faultAfterReturn` demotes the tier that the killed
launch ran. -/
theorem demotion_of_killedLaunch :
    ¬ ∀ tier launches, DemotionsEarned (installed tier) launches := by
  intro earned
  have lower : Demotes ([faultAfterReturn, killedLaunch].foldl runLaunch (installed none))
      killedLaunch := ⟨true, rfl, by decide⟩
  obtain ⟨before, prev, split, guilty⟩ :=
    earned none [faultAfterReturn, killedLaunch, killedLaunch] [faultAfterReturn, killedLaunch]
      killedLaunch [] rfl lower
  have last : prev = killedLaunch := by
    have := congrArg List.getLast? split
    simpa using this.symm
  obtain ⟨sig, ending, -⟩ := guilty.2.2
  rw [last] at ending
  cases ending

/-- A fault at once is attributed to its launch, and the next launch is demoted. -/
theorem demotions_earned_faultAtOnce :
    Demotes ([faultAtOnce].foldl runLaunch (installed none)) killedLaunch ∧
      DemotionsEarned (installed none) [faultAtOnce, killedLaunch] :=
  ⟨⟨true, rfl, by decide⟩, demotions_earned none _ (by decide)⟩

/-- Whether the process is in the foreground, where every launch starts. -/
def inForeground (events : List Event) : Bool :=
  events.foldl (fun foreground event =>
    match event with
    | .background => false
    | .foreground => true
    | .restart | .select _ => foreground) true

/-- No tier is selected before or during the launch. -/
def Unattended (launch : Launch) : Prop :=
  launch.selections = [] ∧ ∀ row, Event.select row ∉ launch.events

/-- A launch that dies of a recorded code-generation fault in the foreground, and
any launches without code-range execution after it, are followed by a launch at a
strictly lower tier. -/
def FaultCaught (s : Stores) (available : Bool) (events : List Event) (sig : Signal)
    (between : List Launch) : Prop :=
  inForeground events = true →
    (resolveIOSJitTier true
      (between.foldl runLaunch (runLaunch s ⟨[], some available, events, .crashed sig⟩))).2 <
      (resolveIOSJitTier available s).2

/-- Whether the record that `blames` a tier reaches the next run of the guard.
A launch that skips the guard may disarm the probe or overwrite the record. -/
def recordReachesGuard (blames : Bool) : List Launch → Bool
  | [] => blames
  | launch :: launches =>
    match launch.guard with
    | some _ => blames
    | none => launch.events.all (fun event => !event.disarms) &&
        recordReachesGuard
          (match launch.ending with
            | .crashed sig => isCodegenFault sig.number
            | .unrecorded => blames) launches

theorem handles_storedTier (s : Stores) (events : List Event)
    (unattended : ∀ row, Event.select row ∉ events) :
    (events.foldl handle s).storedTier = s.storedTier := by
  induction events generalizing s with
  | nil => rfl
  | cons event events ih =>
    rw [List.foldl_cons, ih _ fun row mem => unattended row (List.mem_cons_of_mem _ mem)]
    cases event with
    | background => exact clearJITTierProbe_storedTier s
    | foreground => rfl
    | restart => exact clearJITTierProbe_storedTier s
    | select row => exact absurd List.mem_cons_self (unattended row)

theorem runLaunch_storedTier (s : Stores) (launch : Launch) (unattended : Unattended launch) :
    (runLaunch s launch).storedTier = (afterGuard s launch).storedTier := by
  rw [runLaunch, finish_storedTier, handles_storedTier _ _ unattended.2]

theorem beforeGuard_unattended (s : Stores) (launch : Launch) (unattended : Unattended launch) :
    beforeGuard s launch = s := by
  rw [beforeGuard, unattended.1, List.foldl_nil]

theorem resolve_tier_le (available : Bool) (s : Stores) :
    (resolveIOSJitTier available s).2 ≤ clampTier s.storedTier := by
  have range := clampTier_mem s.storedTier
  rw [resolve_tier]
  unfold capTier kTierInterpreter
  split_ifs <;> grind

theorem resolve_storedTier_le (available : Bool) (s : Stores) :
    clampTier (resolveIOSJitTier available s).1.storedTier ≤ clampTier s.storedTier := by
  have lower := resolve_tier_le available s
  have range := clampTier_mem s.storedTier
  rw [resolve_storedTier]
  split_ifs with blames
  · rw [resolve_tier, if_pos blames] at lower ⊢
    rw [clampTier_eq _ (by omega) (by omega)]
    exact lower
  · exact Int.le_refl _

theorem runLaunch_storedTier_le (s : Stores) (launch : Launch) (unattended : Unattended launch) :
    clampTier (runLaunch s launch).storedTier ≤ clampTier s.storedTier := by
  rw [runLaunch_storedTier s launch unattended, afterGuard, beforeGuard_unattended s _ unattended]
  split
  · exact resolve_storedTier_le _ s
  · exact Int.le_refl _

theorem runLaunches_storedTier_le (s : Stores) (launches : List Launch)
    (unattended : ∀ launch ∈ launches, Unattended launch) :
    clampTier (launches.foldl runLaunch s).storedTier ≤ clampTier s.storedTier := by
  induction launches generalizing s with
  | nil => exact Int.le_refl _
  | cons launch launches ih =>
    calc clampTier ((launch :: launches).foldl runLaunch s).storedTier
        ≤ clampTier (runLaunch s launch).storedTier :=
          ih _ fun l mem => unattended l (List.mem_cons_of_mem _ mem)
      _ ≤ clampTier s.storedTier :=
          runLaunch_storedTier_le s launch (unattended launch List.mem_cons_self)

/-- A launch without code-range execution that nobody attends. -/
def Capped (launch : Launch) : Prop := launch.guard ≠ some true ∧ Unattended launch

theorem Capped.guard_cases {launch : Launch} (capped : Capped launch) :
    launch.guard = none ∨ launch.guard = some false := by
  cases guard : launch.guard with
  | none => exact .inl rfl
  | some available =>
    cases available
    · exact .inr rfl
    · exact absurd guard capped.1

theorem not_blames_of_disarmed (s : Stores) (disarmed : s.pending < 0) : ¬ Blames s :=
  fun blames => absurd blames.1 (Int.not_le.mpr disarmed)

theorem runLaunch_innocent (s : Stores) (launch : Launch) (unattended : Unattended launch)
    (guard : launch.guard = some false) (innocent : ¬ Blames s) :
    (runLaunch s launch).pending < 0 ∧ (runLaunch s launch).storedTier = s.storedTier := by
  rw [runLaunch_storedTier s launch unattended, runLaunch, finish_pending, afterGuard, guard,
    beforeGuard_unattended s _ unattended]
  refine ⟨handles_pending_neg _ _ ?_, by simp only [resolve_storedTier, if_neg innocent]⟩
  simp only [resolve_pending, resolve_tier, if_neg innocent]
  unfold capTier kTierInterpreter kTierBaseline
  grind

theorem runLaunch_disarmed (s : Stores) (launch : Launch) (capped : Capped launch)
    (disarmed : s.pending < 0) :
    (runLaunch s launch).pending < 0 ∧ (runLaunch s launch).storedTier = s.storedTier := by
  rcases capped.guard_cases with guard | guard
  · rw [runLaunch_storedTier s launch capped.2, runLaunch, finish_pending, afterGuard, guard,
      beforeGuard_unattended s _ capped.2]
    exact ⟨handles_pending_neg _ _ disarmed, rfl⟩
  · exact runLaunch_innocent s launch capped.2 guard (not_blames_of_disarmed s disarmed)

theorem resolve_of_disarmed (s : Stores) (launches : List Launch)
    (capped : ∀ launch ∈ launches, Capped launch) (disarmed : s.pending < 0) :
    (resolveIOSJitTier true (launches.foldl runLaunch s)).2 = clampTier s.storedTier := by
  induction launches generalizing s with
  | nil =>
    rw [List.foldl_nil, resolve_tier, if_neg (not_blames_of_disarmed s disarmed)]
    rfl
  | cons launch launches ih =>
    have kept := runLaunch_disarmed s launch (capped launch List.mem_cons_self) disarmed
    rw [List.foldl_cons, ih _ (fun l mem => capped l (List.mem_cons_of_mem _ mem)) kept.1, kept.2]

/-- With the probe armed at the tier that died, the next launch with code-range
execution is lower exactly if the record reaches the guard. -/
theorem resolve_of_armed (s : Stores) (launches : List Launch) (tier : ℤ)
    (capped : ∀ launch ∈ launches, Capped launch) (generated : kTierBaseline ≤ tier)
    (armed : s.pending = tier) (stored : clampTier s.storedTier = tier) :
    (resolveIOSJitTier true (launches.foldl runLaunch s)).2 < tier ↔
      recordReachesGuard (isCodegenFault s.recordedSignal) launches = true := by
  unfold kTierBaseline at generated
  induction launches generalizing s with
  | nil =>
    have uncapped : capTier true (clampTier s.storedTier) = tier := stored
    rw [List.foldl_nil, resolve_tier, recordReachesGuard, uncapped]
    by_cases fault : isCodegenFault s.recordedSignal = true
    · have blames : Blames s := ⟨by omega, fault⟩
      rw [if_pos blames, armed]
      simp only [fault, iff_true]
      omega
    · rw [if_neg fun blames => fault blames.2]
      simp [fault]
  | cons launch launches ih =>
    have here := capped launch List.mem_cons_self
    have rest : ∀ l ∈ launches, Capped l := fun l mem => capped l (List.mem_cons_of_mem _ mem)
    rw [List.foldl_cons, recordReachesGuard]
    rcases here.guard_cases with guard | guard
    · have passed : afterGuard s launch = s := by
        rw [afterGuard, guard, beforeGuard_unattended s _ here.2]
      rw [guard]
      by_cases undisturbed : ∀ event ∈ launch.events, event.disarms = false
      · have same : runLaunch s launch = finish s launch.ending := by
          rw [runLaunch, passed, handles_armed _ _ undisturbed]
        have quiet : (launch.events.all fun event => !event.disarms) = true := by
          simpa using undisturbed
        rw [same, ih _ rest (by rw [finish_pending, armed]) (by rw [finish_storedTier, stored])]
        simp only [quiet, Bool.true_and]
        cases launch.ending with
        | unrecorded => rfl
        | crashed sig => rw [finish_crashed_signal]
      · have loud : (launch.events.all fun event => !event.disarms) = false := by
          simpa using undisturbed
        have disarmed : (runLaunch s launch).pending < 0 := by
          rw [runLaunch, finish_pending, passed]
          exact handles_disarmed _ _ (by simpa using undisturbed)
        rw [resolve_of_disarmed _ _ rest disarmed, runLaunch_storedTier s launch here.2, passed,
          stored]
        simp [loud]
    · rw [guard]
      by_cases fault : isCodegenFault s.recordedSignal = true
      · have blames : Blames s := ⟨by omega, fault⟩
        have caught : clampTier (runLaunch s launch).storedTier < tier := by
          rw [runLaunch_storedTier s launch here.2, afterGuard, guard,
            beforeGuard_unattended s _ here.2]
          simp only [resolve_storedTier, if_pos blames, resolve_tier, stored]
          unfold clampTier kTierJitless kTierMax kTierFullWasm
          omega
        have final := resolve_tier_le true (launches.foldl runLaunch (runLaunch s launch))
        have lowered := runLaunches_storedTier_le (runLaunch s launch) launches
          fun l mem => (rest l mem).2
        simp only [fault, iff_true]
        omega
      · have kept := runLaunch_innocent s launch here.2 guard fun blames => fault blames.2
        rw [resolve_of_disarmed _ _ rest kept.1, kept.2, stored]
        simp [fault]

theorem resolve_generated (available : Bool) (s : Stores)
    (generated : kTierBaseline ≤ (resolveIOSJitTier available s).2) :
    clampTier (resolveIOSJitTier available s).1.storedTier = (resolveIOSJitTier available s).2 ∧
      (resolveIOSJitTier available s).1.pending = (resolveIOSJitTier available s).2 := by
  refine ⟨?_, by rw [resolve_pending, if_pos generated]⟩
  have range := clampTier_mem s.storedTier
  have upper := resolve_tier_le available s
  unfold kTierBaseline at generated
  rw [resolve_storedTier]
  split_ifs with blames
  · exact clampTier_eq _ (by omega) (by omega)
  · rw [resolve_tier, if_neg blames] at generated ⊢
    unfold capTier kTierInterpreter at generated ⊢
    grind

theorem handles_storedTier_same (s : Stores) (events : List Event) (tier : ℤ)
    (stored : clampTier s.storedTier = tier)
    (same : ∀ row, Event.select row ∈ events → menuTier row = tier) :
    clampTier (events.foldl handle s).storedTier = tier := by
  induction events generalizing s with
  | nil => exact stored
  | cons event events ih =>
    refine ih _ ?_ fun row mem => same row (List.mem_cons_of_mem _ mem)
    cases event with
    | background => rw [handle, clearJITTierProbe_storedTier, stored]
    | foreground => exact stored
    | restart => rw [handle, clearJITTierProbe_storedTier, stored]
    | select row =>
      have row_tier := same row List.mem_cons_self
      have low : 0 ≤ menuTier row ∧ menuTier row ≤ 5 := by
        unfold menuTier
        omega
      rw [handle, selectTier_storedTier, clampTier_eq _ low.1 low.2, row_tier]

/-- A code-generation fault in the foreground is caught exactly if no event of its
launch has disarmed the probe and its record reaches the guard. -/
theorem faultCaught_iff (s : Stores) (available : Bool) (events : List Event) (sig : Signal)
    (between : List Launch)
    (generated : kTierBaseline ≤ (resolveIOSJitTier available s).2)
    (fault : isCodegenFault sig.number = true)
    (same : ∀ row, Event.select row ∈ events →
      menuTier row = (resolveIOSJitTier available s).2)
    (capped : ∀ launch ∈ between, Capped launch) :
    FaultCaught s available events sig between ↔
      (inForeground events = true →
        (∀ event ∈ events, event.disarms = false) ∧ recordReachesGuard true between = true) := by
  obtain ⟨stored, armed⟩ := resolve_generated available s generated
  unfold FaultCaught
  refine forall_congr' fun _ => ?_
  generalize died : runLaunch s ⟨[], some available, events, .crashed sig⟩ = d
  have d_eq : d = finish (events.foldl handle (resolveIOSJitTier available s).1)
      (.crashed sig) := died.symm
  have d_stored : clampTier d.storedTier = (resolveIOSJitTier available s).2 := by
    rw [d_eq, finish_storedTier]
    exact handles_storedTier_same _ _ _ stored same
  by_cases undisturbed : ∀ event ∈ events, event.disarms = false
  · have d_armed : d.pending = (resolveIOSJitTier available s).2 := by
      rw [d_eq, finish_pending, handles_armed _ _ undisturbed, armed]
    have d_fault : isCodegenFault d.recordedSignal = true := by
      rw [d_eq, finish_crashed_signal, fault]
    rw [resolve_of_armed d between _ capped generated d_armed d_stored, d_fault]
    exact (and_iff_right undisturbed).symm
  · have d_disarmed : d.pending < 0 := by
      rw [d_eq, finish_pending]
      exact handles_disarmed _ _ (by simpa using undisturbed)
    rw [resolve_of_disarmed d between capped d_disarmed, d_stored]
    simp [undisturbed]

/-- The fault of `faultAfterReturn` is not caught: tier 4 dies and tier 4 runs. -/
theorem faultAfterReturn_not_caught :
    ¬ ∀ s available events sig between,
      kTierBaseline ≤ (resolveIOSJitTier available s).2 → isCodegenFault sig.number = true →
      (∀ row, Event.select row ∈ events → menuTier row = (resolveIOSJitTier available s).2) →
      (∀ launch ∈ between, Capped launch) →
      FaultCaught s available events sig between := by
  intro caught
  have lower := caught (installed none) true [.background, .foreground] .sigsegv [] (by decide)
    (by decide) (by simp) (by simp) (by decide)
  revert lower
  decide

/-- A fault before any background transition is caught. -/
theorem faultAtOnce_caught : FaultCaught (installed none) true [.foreground] .sigsegv [] :=
  (faultCaught_iff (installed none) true [.foreground] .sigsegv [] (by decide) (by decide)
    (by simp) (by simp)).mpr fun _ => by decide

end BlinkerFluid.TierGuardRuns
