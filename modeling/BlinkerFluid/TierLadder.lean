import BlinkerFluid.TierGuardRuns

/-! The ladder of the JIT tiers. Without a selection the stored tier only falls,
and launches that die with the probe armed walk down the generated-code tiers, at
most one launch a tier. The cap of a launch without executable pages enters the
demotion, so it is the stored choice that pays for it. -/

namespace BlinkerFluid.TierLadder
open ByteString CrashSignal TierGuard TierGuardRuns StepRun

section Stored

/-- The guard keeps the stored tier, lowers it, or replaces a negative one by 0. -/
theorem resolve_storedTier_le_max (available : Bool) (s : Stores) :
    (resolveIOSJitTier available s).1.storedTier ≤ max kTierJitless s.storedTier := by
  have lower := resolve_tier_le available s
  rw [resolve_storedTier]
  unfold clampTier kTierJitless at *
  split_ifs <;> omega

theorem runLaunch_storedTier_le_max (s : Stores) (launch : Launch)
    (unattended : Unattended launch) :
    (runLaunch s launch).storedTier ≤ max kTierJitless s.storedTier := by
  rw [runLaunch_storedTier s launch unattended, afterGuard, beforeGuard_unattended s _ unattended]
  split
  · exact resolve_storedTier_le_max _ s
  · exact Int.le_max_right _ _

theorem runLaunches_storedTier_le_max (s : Stores) (launches : List Launch)
    (unattended : ∀ launch ∈ launches, Unattended launch) :
    (launches.foldl runLaunch s).storedTier ≤ max kTierJitless s.storedTier := by
  induction launches generalizing s with
  | nil => exact Int.le_max_right _ _
  | cons launch launches ih =>
    have first := runLaunch_storedTier_le_max s launch (unattended launch List.mem_cons_self)
    have rest := ih (runLaunch s launch) fun l mem => unattended l (List.mem_cons_of_mem _ mem)
    rw [List.foldl_cons]
    omega

/-- At every point of a run without selections the stored tier is at most what it
was at an earlier point, a negative one counting as `kTierJitless`. -/
def NeverClimbs (s : Stores) (launches : List Launch) : Prop :=
  ∀ earlier later, earlier ++ later <+: launches →
    ((earlier ++ later).foldl runLaunch s).storedTier ≤
      max kTierJitless (earlier.foldl runLaunch s).storedTier

theorem neverClimbs (s : Stores) (launches : List Launch)
    (unattended : ∀ launch ∈ launches, Unattended launch) : NeverClimbs s launches := by
  rintro earlier later ⟨rest, rfl⟩
  rw [List.foldl_append]
  exact runLaunches_storedTier_le_max _ later fun l mem => unattended l (by simp [mem])

end Stored

section Dying

/-- The launch, with no tier selected since the last one, ends with the probe armed
and a code-generation signal recorded. -/
def DiesArmed (s : Stores) (launch : Launch) : Prop :=
  launch.selections = [] ∧ 0 ≤ (launch.events.foldl handle (afterGuard s launch)).pending ∧
    ∃ sig, launch.ending = .crashed sig ∧ isCodegenFault sig.number = true

/-- The tiers that the launches of a run resolve to, those that reach the guard. -/
def resolvedTiers (s : Stores) : List Launch → List ℤ
  | [] => []
  | launch :: launches =>
    (launch.guard.map fun available =>
      (resolveIOSJitTier available (beforeGuard s launch)).2).toList
      ++ resolvedTiers (runLaunch s launch) launches

variable {s : Stores} {launch : Launch}

theorem DiesArmed.undisturbed (dies : DiesArmed s launch) :
    launch.events.foldl handle (afterGuard s launch) = afterGuard s launch := by
  apply handles_armed
  by_contra disarmed
  push Not at disarmed
  have neg := handles_disarmed (afterGuard s launch) launch.events (by simpa using disarmed)
  exact absurd dies.2.1 (Int.not_le.mpr neg)

theorem DiesArmed.beforeGuard_eq (dies : DiesArmed s launch) : beforeGuard s launch = s := by
  rw [beforeGuard, dies.1, List.foldl_nil]

theorem DiesArmed.blames (dies : DiesArmed s launch) :
    Blames (runLaunch s launch) ∧ (runLaunch s launch).pending = (afterGuard s launch).pending := by
  obtain ⟨sig, ending, fault⟩ := dies.2.2
  have armed := dies.2.1
  have same := dies.undisturbed
  rw [same] at armed
  have pending : (runLaunch s launch).pending = (afterGuard s launch).pending := by
    rw [runLaunch, finish_pending, same]
  have recorded : (runLaunch s launch).recordedSignal = sig.number := by
    rw [runLaunch, ending, finish_crashed_signal]
  exact ⟨⟨pending ▸ armed, recorded ▸ fault⟩, pending⟩

theorem DiesArmed.generated (dies : DiesArmed s launch) {available : Bool}
    (guard : launch.guard = some available) :
    kTierBaseline ≤ (resolveIOSJitTier available s).2 ∧
      (runLaunch s launch).pending = (resolveIOSJitTier available s).2 := by
  have armed := dies.2.1
  have pending := dies.blames.2
  rw [dies.undisturbed] at armed
  rw [afterGuard, guard, dies.beforeGuard_eq] at armed pending
  simp only [resolve_pending] at armed pending
  split_ifs at armed pending with generated
  · exact ⟨generated, pending⟩
  · omega

theorem resolve_tier_lt (available : Bool) (blames : Blames s) (generated : 1 ≤ s.pending) :
    (resolveIOSJitTier available s).2 < s.pending := by
  rw [resolve_tier, if_pos blames]
  omega

/-- From stores that blame a tier, the tiers of launches that go on dying fall. -/
theorem resolvedTiers_chain (launches : List Launch) (last : Launch) (blames : Blames s)
    (generated : 1 ≤ s.pending) (die : Permitted DiesArmed runLaunch s launches)
    (unattended : last.selections = []) :
    List.IsChain (· > ·) (s.pending :: resolvedTiers s (launches ++ [last])) := by
  induction launches generalizing s with
  | nil =>
    rw [List.nil_append, resolvedTiers, resolvedTiers, List.append_nil, beforeGuard, unattended,
      List.foldl_nil]
    cases last.guard with
    | none => exact .singleton _
    | some available => exact .cons_cons (resolve_tier_lt available blames generated) (.singleton _)
  | cons launch launches ih =>
    obtain ⟨dies, rest⟩ := die
    have next := dies.blames
    rw [List.cons_append, resolvedTiers]
    cases guard : launch.guard with
    | none =>
      have same : (runLaunch s launch).pending = s.pending := by
        rw [next.2, afterGuard, guard, dies.beforeGuard_eq]
      have chain := ih next.1 (same ▸ generated) rest
      rw [same] at chain
      exact chain
    | some available =>
      have resolved := dies.generated guard
      have high : 2 ≤ (resolveIOSJitTier available s).2 := resolved.1
      have chain := ih next.1 (by omega) rest
      rw [resolved.2] at chain
      rw [dies.beforeGuard_eq]
      exact .cons_cons (resolve_tier_lt available blames generated) chain

theorem resolvedTiers_pairwise (s : Stores) (launches : List Launch) (last : Launch)
    (die : Permitted DiesArmed runLaunch s launches) (unattended : last.selections = []) :
    (resolvedTiers s (launches ++ [last])).Pairwise (· > ·) := by
  induction launches generalizing s with
  | nil =>
    rw [List.nil_append, resolvedTiers, resolvedTiers, List.append_nil]
    cases last.guard <;> simp
  | cons launch launches ih =>
    obtain ⟨dies, rest⟩ := die
    rw [List.cons_append, resolvedTiers]
    cases guard : launch.guard with
    | none => exact ih _ rest
    | some available =>
      have resolved := dies.generated guard
      have high : 2 ≤ (resolveIOSJitTier available s).2 := resolved.1
      have chain := resolvedTiers_chain launches last dies.blames.1 (by omega) rest unattended
      rw [resolved.2] at chain
      rw [dies.beforeGuard_eq]
      exact List.isChain_iff_pairwise.mp chain

theorem resolvedTiers_generated (s : Stores) (launches : List Launch)
    (die : Permitted DiesArmed runLaunch s launches) :
    ∀ tier ∈ resolvedTiers s launches, kTierBaseline ≤ tier ∧ tier ≤ kTierMax := by
  induction launches generalizing s with
  | nil => simp [resolvedTiers]
  | cons launch launches ih =>
    obtain ⟨dies, rest⟩ := die
    intro tier mem
    rw [resolvedTiers, List.mem_append] at mem
    rcases mem with mem | mem
    · cases guard : launch.guard with
      | none => simp [guard] at mem
      | some available =>
        simp only [guard, dies.beforeGuard_eq, Option.map_some, Option.toList_some,
          List.mem_singleton] at mem
        have upper : (resolveIOSJitTier available s).2 ≤ kTierMax :=
          Int.le_trans (resolve_tier_le available s) (clampTier_mem s.storedTier).2
        exact mem ▸ ⟨(dies.generated guard).1, upper⟩
    · exact ih _ rest tier mem

theorem resolvedTiers_append (s : Stores) (launches more : List Launch) :
    resolvedTiers s (launches ++ more) =
      resolvedTiers s launches ++ resolvedTiers (launches.foldl runLaunch s) more := by
  induction launches generalizing s with
  | nil => rfl
  | cons launch launches ih =>
    rw [List.cons_append, resolvedTiers, resolvedTiers, ih, List.append_assoc, List.foldl_cons]

theorem length_le_of_falling {low high : ℤ} {tiers : List ℤ} (falling : tiers.Pairwise (· > ·))
    (bounds : ∀ tier ∈ tiers, low ≤ tier ∧ tier ≤ high) (room : low ≤ high + 1) :
    (tiers.length : ℤ) ≤ high + 1 - low := by
  induction tiers generalizing high with
  | nil =>
    rw [List.length_nil]
    omega
  | cons first tiers ih =>
    obtain ⟨above, rest⟩ := List.pairwise_cons.mp falling
    have range := bounds first List.mem_cons_self
    have below : ∀ tier ∈ tiers, low ≤ tier ∧ tier ≤ first - 1 := by
      intro tier mem
      have lower := (bounds tier (List.mem_cons_of_mem _ mem)).1
      have upper := above tier mem
      omega
    have fewer := ih rest below (by omega)
    rw [List.length_cons]
    omega

end Dying

/-- The stored tier never climbs without a selection; launches that die with the
probe armed resolve to falling tiers, all of them generated-code tiers and so at
most four; and the guard leaves the probe at -1 or at the generated-code tier that
runs. -/
theorem tier_ladder (s : Stores) :
    (∀ launches, (∀ launch ∈ launches, Unattended launch) → NeverClimbs s launches) ∧
    (∀ launches last, Permitted DiesArmed runLaunch s launches → last.selections = [] →
      (resolvedTiers s (launches ++ [last])).Pairwise (· > ·) ∧
      (∀ tier ∈ resolvedTiers s launches, kTierInterpreter < tier) ∧
      (resolvedTiers s launches).length ≤ 4) ∧
    ∀ available, (resolveIOSJitTier available s).1.probe = some (-1) ∨
      (resolveIOSJitTier available s).1.probe = some (resolveIOSJitTier available s).2 ∧
        kTierBaseline ≤ (resolveIOSJitTier available s).2 := by
  refine ⟨neverClimbs s, fun launches last die unattended => ?_, fun available => ?_⟩
  · have falling := resolvedTiers_pairwise s launches last die unattended
    have generated := resolvedTiers_generated s launches die
    refine ⟨falling, fun tier mem => (generated tier mem).1, ?_⟩
    rw [resolvedTiers_append] at falling
    have few := length_le_of_falling (falling.sublist (List.sublist_append_left _ _)) generated
      (by decide)
    unfold kTierMax kTierFullWasm kTierBaseline at few
    omega
  · have probe : (resolveIOSJitTier available s).1.probe =
        some (if (resolveIOSJitTier available s).2 ≥ kTierBaseline
          then (resolveIOSJitTier available s).2 else -1) := rfl
    by_cases generated : kTierBaseline ≤ (resolveIOSJitTier available s).2
    · exact .inr ⟨by rw [probe, if_pos generated], generated⟩
    · exact .inl (by rw [probe, if_neg generated])

/-- Two launches die at tiers 4 and 3, the third runs tier 2. -/
theorem tier_ladder_faultAtOnce :
    (resolvedTiers (installed none) [faultAtOnce, faultAtOnce, killedLaunch]).Pairwise (· > ·) ∧
      NeverClimbs (installed none) [faultAtOnce, faultAtOnce, killedLaunch] := by
  have die : Permitted DiesArmed runLaunch (installed none) [faultAtOnce, faultAtOnce] :=
    ⟨⟨rfl, by decide, .sigsegv, rfl, by decide⟩, ⟨rfl, by decide, .sigsegv, rfl, by decide⟩,
      trivial⟩
  refine ⟨((tier_ladder (installed none)).2.1 _ killedLaunch die rfl).1,
    (tier_ladder (installed none)).1 _ fun launch mem => ?_⟩
  simp only [List.mem_cons, List.not_mem_nil, or_false] at mem
  rcases mem with rfl | rfl | rfl <;> exact ⟨rfl, by simp [faultAtOnce, killedLaunch]⟩

/-- A stored tier below the range, next to an armed probe and a recorded SIGSEGV. -/
def belowRange : Stores := ⟨some (-5), some 3, some (recordCrashSignal 11)⟩

/-- The guard replaces the stored -5 by 0. -/
theorem belowRange_climbs :
    ¬ ∀ (s : Stores) (launches : List Launch), (∀ launch ∈ launches, Unattended launch) →
      (launches.foldl runLaunch s).storedTier ≤ s.storedTier := by
  intro falls
  have unattended : Unattended killedLaunch := ⟨rfl, by simp [killedLaunch]⟩
  have raised := falls belowRange [killedLaunch] (by simpa using unattended)
  revert raised
  decide

section Cap

variable (s : Stores)

/-- The stored choice, one step below the tier that died if one did. -/
def demotedChoice : ℤ := if Blames s then min s.storedTier (s.pending - 1) else s.storedTier

/-- What a launch without executable pages owes the stored choice. -/
structure CapKeepsChoice : Prop where
  runs : (resolveIOSJitTier false s).2 = min (clampTier s.storedTier) kTierInterpreter
  kept : ¬ ((resolveIOSJitTier false s).1.storedTier < demotedChoice s ∧
    (resolveIOSJitTier false s).1.storedTier < kTierInterpreter)
  generated : Blames s → kTierBaseline ≤ s.pending → kTierInterpreter ≤ s.storedTier →
    kTierInterpreter ≤ (resolveIOSJitTier false s).1.storedTier

variable {s}

theorem resolve_capped_blames (blames : Blames s) :
    (resolveIOSJitTier false s).2 = kTierJitless ∧
      (resolveIOSJitTier false s).1.storedTier = kTierJitless := by
  have bottom : (resolveIOSJitTier false s).2 = kTierJitless := by
    rw [resolve_tier, if_pos blames]
    unfold capTier kTierInterpreter kTierJitless
    grind
  exact ⟨bottom, by rw [resolve_storedTier, if_pos blames, bottom]⟩

theorem resolve_capped_innocent (innocent : ¬ Blames s) :
    (resolveIOSJitTier false s).2 = min (clampTier s.storedTier) kTierInterpreter ∧
      (resolveIOSJitTier false s).1.storedTier = s.storedTier := by
  refine ⟨?_, by rw [resolve_storedTier, if_neg innocent]⟩
  rw [resolve_tier, if_neg innocent]
  unfold capTier
  grind

/-- The stored choice survives the cap exactly if no tier is blamed, the choice is
`kTierJitless` anyway, or the blamed tier generates no code. -/
theorem kept_iff :
    ¬ ((resolveIOSJitTier false s).1.storedTier < demotedChoice s ∧
        (resolveIOSJitTier false s).1.storedTier < kTierInterpreter) ↔
      ¬ Blames s ∨ s.storedTier ≤ kTierJitless ∨ s.pending < kTierBaseline := by
  by_cases blames : Blames s
  · rw [(resolve_capped_blames blames).2, demotedChoice, if_pos blames]
    unfold kTierJitless kTierInterpreter kTierBaseline
    simp only [blames, not_true_eq_false, false_or]
    omega
  · simp [(resolve_capped_innocent blames).2, demotedChoice, blames]

end Cap

/-- A launch without executable pages meets its obligations exactly if it finds no
code-generation fault to blame or nothing above `kTierJitless` stored; the stored
choice alone also survives if the blamed tier generates no code. -/
theorem capKeepsChoice_iff (s : Stores) :
    (CapKeepsChoice s ↔ ¬ Blames s ∨ s.storedTier ≤ kTierJitless) ∧
    (¬ ((resolveIOSJitTier false s).1.storedTier < demotedChoice s ∧
        (resolveIOSJitTier false s).1.storedTier < kTierInterpreter) ↔
      ¬ Blames s ∨ s.storedTier ≤ kTierJitless ∨ s.pending < kTierBaseline) := by
  refine ⟨⟨fun keeps => ?_, fun condition => ?_⟩, kept_iff⟩
  · by_cases blames : Blames s
    · have runs := keeps.runs
      rw [(resolve_capped_blames blames).1] at runs
      unfold clampTier kTierJitless kTierMax kTierFullWasm kTierInterpreter at *
      omega
    · exact .inl blames
  · by_cases blames : Blames s
    · have low := condition.resolve_left (not_not_intro blames)
      have bottom := resolve_capped_blames blames
      refine ⟨?_, kept_iff.mpr (.inr (.inl low)), fun _ _ high => ?_⟩
      · rw [bottom.1]
        unfold clampTier kTierJitless kTierMax kTierFullWasm kTierInterpreter at *
        omega
      · unfold kTierJitless kTierInterpreter at *
        omega
    · have same := resolve_capped_innocent blames
      exact ⟨same.1, kept_iff.mpr (.inl blames), fun blamed => absurd blamed blames⟩

def tierFourDied : Stores := ⟨some 4, some 4, some (recordCrashSignal 11)⟩

/-- One launch without executable pages takes the stored tier from 4 to 0. -/
theorem tierFourDied_not_kept : ¬ ∀ s, CapKeepsChoice s :=
  fun keeps => (keeps tierFourDied).kept (by decide)

end BlinkerFluid.TierLadder
