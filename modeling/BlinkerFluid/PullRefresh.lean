import BlinkerFluid.StepRun
import Mathlib.Data.List.SplitBy
import Mathlib.Data.Rat.Defs
import Mathlib.Logic.Function.Basic
import Mathlib.Tactic.Linarith

/-! Pull to refresh. Overscroll is reported while a finger pulls and nothing when it lifts; a block
that no later pull has overtaken ends the burst. The peak of the pull belongs to the application,
the spinner to the delegate of the window that is key at each report. Times are in milliseconds. -/

namespace BlinkerFluid.PullRefresh
open StepRun

def kPullToRefreshThreshold : ℚ := 150

def kPullToRefreshMinimum : ℚ := 30

def kPullReleaseGraceMs : ℕ := 140

/-- A block in the main queue with the time it is due. -/
structure Block where
  due : ℕ
  generation : ℕ
  delegate : ℕ
deriving DecidableEq

structure Pull where
  time : ℕ
  delegate : ℕ
  points : ℚ
deriving DecidableEq

structure State where
  now : ℕ
  keyWindowDelegate : Option ℕ
  pullPeak : ℚ
  pullGeneration : ℕ
  blocks : List Block
  /-- The spinners by their delegates. -/
  alpha : ℕ → ℚ
  /-- The calls of `finishPullToRefresh:`. -/
  finished : List (ℕ × Bool)
  /-- A record of the reports that were not ignored; nothing reads it. -/
  pulls : List Pull

def start : State := ⟨0, none, 0, 0, [], fun _ => 0, [], []⟩

inductive Event where
  | keyWindow (delegate : Option ℕ)
  | overscrollPull (pullPoints : ℚ) (allowed : Bool)

section Machine

variable (hasContentView : ℕ → Bool)

def setAlpha (delegate : ℕ) (value : ℚ) (alpha : ℕ → ℚ) : ℕ → ℚ :=
  if hasContentView delegate then Function.update alpha delegate value else alpha

def updatePullToRefreshProgress (delegate : ℕ) (progress : ℚ) (s : State) : State :=
  { s with alpha := setAlpha hasContentView delegate (min progress 1) s.alpha }

def finishPullToRefresh (delegate : ℕ) (triggered : Bool) (s : State) : State :=
  { s with
    alpha := setAlpha hasContentView delegate 0 s.alpha
    finished := s.finished ++ [(delegate, triggered)] }

def fire (s : State) (block : Block) : State :=
  if block.generation ≠ s.pullGeneration then s
  else
    finishPullToRefresh hasContentView block.delegate
      (decide (kPullToRefreshThreshold ≤ s.pullPeak)) { s with pullPeak := 0 }

/-- Time passes, and the blocks that are due before its end are run. -/
def pass (elapsed : ℕ) (s : State) : State :=
  let now := s.now + elapsed
  (s.blocks.filter (·.due < now)).foldl (fire hasContentView)
    { s with now, blocks := s.blocks.filter fun block => !decide (block.due < now) }

def pullProgress (pullPeak : ℚ) : ℚ :=
  (pullPeak - kPullToRefreshMinimum) / (kPullToRefreshThreshold - kPullToRefreshMinimum)

def blinkOverscrollPull (pullPoints : ℚ) (allowed : Bool) (s : State) : State :=
  if !allowed || pullPoints < kPullToRefreshMinimum then s
  else
    match s.keyWindowDelegate with
    | none => s
    | some delegate =>
      let pullPeak := max s.pullPeak pullPoints
      let generation := s.pullGeneration + 1
      { updatePullToRefreshProgress hasContentView delegate (pullProgress pullPeak) s with
        pullPeak
        pullGeneration := generation
        blocks := s.blocks ++ [⟨s.now + kPullReleaseGraceMs, generation, delegate⟩]
        pulls := s.pulls ++ [⟨s.now, delegate, pullPoints⟩] }

def step (s : State) (input : ℕ × Event) : State :=
  let s := pass hasContentView input.1 s
  match input.2 with
  | .keyWindow delegate => { s with keyWindowDelegate := delegate }
  | .overscrollPull pullPoints allowed => blinkOverscrollPull hasContentView pullPoints allowed s

/-- A run, left alone until nothing is due any more. -/
def run (inputs : List (ℕ × Event)) : State :=
  pass hasContentView (kPullReleaseGraceMs + 1) (inputs.foldl (step hasContentView) start)

end Machine

/-- Two reports that no gap longer than the grace period separates. -/
def near (earlier later : Pull) : Bool := later.time ≤ earlier.time + kPullReleaseGraceMs

def bursts (pulls : List Pull) : List (List Pull) := pulls.splitBy near

/-- A call of `finishPullToRefresh:` on the delegate that a burst pulled, triggered if one of its
reports reaches the threshold. -/
structure Finishes (burst : List Pull) (finish : ℕ × Bool) : Prop where
  delegate : ∀ pull ∈ burst, pull.delegate = finish.1
  triggered : finish.2 = true ↔ ∃ pull ∈ burst, kPullToRefreshThreshold ≤ pull.points

/-- Every burst has been finished once, and nothing is left of it. -/
structure Settled (s : State) : Prop where
  finished : List.Forall₂ Finishes (bursts s.pulls) s.finished
  blocks : s.blocks = []
  pullPeak : s.pullPeak = 0
  alpha : ∀ delegate, s.alpha delegate = 0

/-- The key window did not change between two reports of a burst. -/
def OneDelegate (burst : List Pull) : Prop :=
  ∀ pull ∈ burst, ∀ other ∈ burst, pull.delegate = other.delegate

section Bursts

theorem bursts_new {pulls : List Pull} {pull : Pull}
    (gap : ∀ earlier ∈ pulls, earlier.time + kPullReleaseGraceMs < pull.time) :
    bursts (pulls ++ [pull]) = bursts pulls ++ [[pull]] := by
  refine List.splitBy_append fun earlier mem later mem' => ?_
  obtain rfl : pull = later := by simpa using mem'
  have apart := gap earlier (List.mem_of_getLast? mem)
  simp only [near, decide_eq_false_iff_not]
  omega

theorem bursts_near {pulls front : List Pull} {ended : List (List Pull)} {last pull : Pull}
    (split : bursts pulls = ended ++ [front ++ [last]]) (close : near last pull = true) :
    bursts (pulls ++ [pull]) = ended ++ [front ++ [last] ++ [pull]] := by
  obtain ⟨whole, filled, chains, apart⟩ := List.splitBy_eq_iff.mp split
  refine List.splitBy_eq_iff.mpr ⟨by simp [whole], by simp_all, ?_, ?_⟩
  · rw [List.forall_mem_append, List.forall_mem_singleton] at chains ⊢
    refine ⟨chains.1, List.isChain_append.mpr ⟨chains.2, List.isChain_singleton _, ?_⟩⟩
    intro earlier mem later mem'
    obtain rfl : last = earlier := by simpa using mem
    obtain rfl : pull = later := by simpa using mem'
    exact close
  · rw [List.isChain_append] at apart ⊢
    refine ⟨apart.1, List.isChain_singleton _, fun burst mem burst' mem' => ?_⟩
    obtain rfl : front ++ [last] ++ [pull] = burst' := by simpa using mem'
    obtain ⟨some_pull, _, separate⟩ := apart.2.2 burst mem (front ++ [last]) (by simp)
    refine ⟨some_pull, by simp, ?_⟩
    rwa [List.head_append_of_ne_nil]

def peakOf (burst : List Pull) : ℚ := (burst.map Pull.points).foldl max 0

theorem peakOf_concat (burst : List Pull) (pull : Pull) :
    peakOf (burst ++ [pull]) = max (peakOf burst) pull.points := by
  simp [peakOf]

theorem threshold_le_peakOf_iff (burst : List Pull) :
    kPullToRefreshThreshold ≤ peakOf burst ↔
      ∃ pull ∈ burst, kPullToRefreshThreshold ≤ pull.points := by
  induction burst using List.reverseRecOn with
  | nil =>
    refine iff_of_false ?_ (by simp)
    decide
  | append_singleton burst pull ih =>
    rw [peakOf_concat, le_max_iff, ih]
    simp [or_and_right, exists_or]

end Bursts

section Phases

variable {hasContentView : ℕ → Bool} {s : State}

/-- The call that ends a burst goes to the delegate of its last report. -/
def Ends (burst : List Pull) (finish : ℕ × Bool) : Prop :=
  ∃ front last, burst = front ++ [last] ∧
    finish = (last.delegate, decide (kPullToRefreshThreshold ≤ peakOf burst))

/-- A delegate that was pulled in a burst which another one ended. -/
def Stranded (ended : List (List Pull)) (delegate : ℕ) : Prop :=
  ∃ burst ∈ ended, (∃ pull ∈ burst, pull.delegate = delegate) ∧
    ∃ other ∈ burst, other.delegate ≠ delegate

structure Sound (hasContentView : ℕ → Bool) (s : State) : Prop where
  due : ∀ block ∈ s.blocks, block.due ≤ s.now + kPullReleaseGraceMs
  past : ∀ pull ∈ s.pulls, pull.time ≤ s.now
  shown : ∀ delegate, s.alpha delegate ≠ 0 → hasContentView delegate = true

structure Idle (s : State) : Prop where
  finished : List.Forall₂ Ends (bursts s.pulls) s.finished
  pullPeak : s.pullPeak = 0
  stale : ∀ block ∈ s.blocks, block.generation < s.pullGeneration
  ended : ∀ pull ∈ s.pulls, pull.time + kPullReleaseGraceMs < s.now
  alpha : ∀ delegate, s.alpha delegate ≠ 0 → Stranded (bursts s.pulls) delegate

/-- All bursts but the last one have been finished. -/
structure Pulling (s : State) (ended : List (List Pull)) (front : List Pull) (last : Pull)
    (stale : List Block) : Prop where
  pulls : bursts s.pulls = ended ++ [front ++ [last]]
  finished : List.Forall₂ Ends ended s.finished
  pullPeak : s.pullPeak = peakOf (front ++ [last])
  blocks : s.blocks =
    stale ++ [⟨last.time + kPullReleaseGraceMs, s.pullGeneration, last.delegate⟩]
  stale : ∀ block ∈ stale, block.generation < s.pullGeneration
  begun : last.time ≤ s.now
  within : s.now ≤ last.time + kPullReleaseGraceMs
  order : ∀ pull ∈ s.pulls, pull.time ≤ last.time
  alpha : ∀ delegate, s.alpha delegate ≠ 0 →
    (∃ pull ∈ front ++ [last], pull.delegate = delegate) ∨ Stranded ended delegate

theorem foldl_fire_stale (s : State) (blocks : List Block)
    (stale : ∀ block ∈ blocks, block.generation < s.pullGeneration) :
    blocks.foldl (fire hasContentView) s = s := by
  induction blocks with
  | nil => rfl
  | cons block blocks ih =>
    obtain ⟨first, rest⟩ := List.forall_mem_cons.mp stale
    rw [List.foldl_cons, fire, if_pos (Nat.ne_of_lt first), ih rest]

theorem pass_stale {elapsed : ℕ} (stale : ∀ block ∈ s.blocks, block.due < s.now + elapsed →
      block.generation < s.pullGeneration) :
    pass hasContentView elapsed s =
      { s with
        now := s.now + elapsed
        blocks := s.blocks.filter fun block => !decide (block.due < s.now + elapsed) } := by
  refine foldl_fire_stale _ _ fun block mem => ?_
  obtain ⟨mem, due⟩ := List.mem_filter.mp mem
  exact stale block mem (of_decide_eq_true due)

theorem pass_due {ended : List (List Pull)} {front : List Pull} {last : Pull} {stale : List Block}
    (pulling : Pulling s ended front last stale) {elapsed : ℕ}
    (due : last.time + kPullReleaseGraceMs < s.now + elapsed) :
    pass hasContentView elapsed s =
      finishPullToRefresh hasContentView last.delegate
        (decide (kPullToRefreshThreshold ≤ peakOf (front ++ [last])))
        { s with
          now := s.now + elapsed
          pullPeak := 0
          blocks := s.blocks.filter fun block => !decide (block.due < s.now + elapsed) } := by
  have run : s.blocks.filter (·.due < s.now + elapsed) =
      stale.filter (·.due < s.now + elapsed) ++
        [⟨last.time + kPullReleaseGraceMs, s.pullGeneration, last.delegate⟩] := by
    rw [pulling.blocks, List.filter_append, List.filter_cons_of_pos (by simpa using due),
      List.filter_nil]
  have old : ∀ block ∈ stale.filter (·.due < s.now + elapsed),
      block.generation < s.pullGeneration :=
    fun block mem => pulling.stale block (List.mem_filter.mp mem).1
  simp only [pass]
  rw [run, List.foldl_append, List.foldl_cons, List.foldl_nil,
    foldl_fire_stale _ _ (by exact old), fire, if_neg (by simp), pulling.pullPeak]

theorem sound_later (sound : Sound hasContentView s) (elapsed : ℕ) (keep : Block → Bool)
    {alpha : ℕ → ℚ} (shown : ∀ delegate, alpha delegate ≠ 0 → hasContentView delegate = true)
    (pullPeak : ℚ) (finished : List (ℕ × Bool)) :
    Sound hasContentView
      { s with
        now := s.now + elapsed
        pullPeak
        blocks := s.blocks.filter keep
        alpha
        finished } := by
  refine ⟨fun block mem => ?_, fun pull mem => ?_, shown⟩
  · have due := sound.due block (List.mem_filter.mp mem).1
    change block.due ≤ s.now + elapsed + kPullReleaseGraceMs
    omega
  · exact Nat.le_add_right_of_le (sound.past pull mem)

theorem idle_pass (sound : Sound hasContentView s) (idle : Idle s) (elapsed : ℕ) :
    Sound hasContentView (pass hasContentView elapsed s) ∧
      Idle (pass hasContentView elapsed s) := by
  rw [pass_stale fun block mem _ => idle.stale block mem]
  refine ⟨sound_later sound elapsed _ sound.shown _ _, idle.finished, idle.pullPeak, ?_, ?_,
    idle.alpha⟩
  · exact fun block mem => idle.stale block (List.mem_filter.mp mem).1
  · exact fun pull mem => Nat.lt_of_lt_of_le (idle.ended pull mem) (Nat.le_add_right _ _)

theorem setAlpha_eq_zero {alpha : ℕ → ℚ} (shown : ∀ delegate, alpha delegate ≠ 0 →
    hasContentView delegate = true) (delegate : ℕ) :
    setAlpha hasContentView delegate 0 alpha = Function.update alpha delegate 0 := by
  unfold setAlpha
  split_ifs with attached
  · rfl
  · have dark : alpha delegate = 0 := by_contra fun lit => attached (shown delegate lit)
    rw [← dark, Function.update_eq_self]

variable {ended : List (List Pull)} {front : List Pull} {last : Pull} {stale : List Block}

theorem pulling_pass (sound : Sound hasContentView s) (pulling : Pulling s ended front last stale)
    (elapsed : ℕ) :
    Sound hasContentView (pass hasContentView elapsed s) ∧
      (Idle (pass hasContentView elapsed s) ∨
        s.now + elapsed ≤ last.time + kPullReleaseGraceMs ∧
          ∃ stale, Pulling (pass hasContentView elapsed s) ended front last stale) := by
  by_cases due : last.time + kPullReleaseGraceMs < s.now + elapsed
  · have lit : ∀ delegate, Function.update s.alpha last.delegate 0 delegate ≠ 0 →
        delegate ≠ last.delegate ∧ s.alpha delegate ≠ 0 := by
      intro delegate on
      by_cases same : delegate = last.delegate
      · exact absurd (by rw [same, Function.update_self]) on
      · rw [Function.update_of_ne same] at on
        exact ⟨same, on⟩
    rw [pass_due pulling due, finishPullToRefresh, setAlpha_eq_zero sound.shown]
    have shown (delegate : ℕ) (on : Function.update s.alpha last.delegate 0 delegate ≠ 0) :=
      sound.shown delegate (lit delegate on).2
    refine ⟨sound_later sound elapsed _ shown _ _, .inl ⟨?_, rfl, ?_, ?_, ?_⟩⟩
    · change List.Forall₂ Ends (bursts s.pulls) _
      rw [pulling.pulls]
      exact List.rel_append pulling.finished (.cons ⟨front, last, rfl, rfl⟩ .nil)
    · intro block mem
      obtain ⟨mem, late⟩ := List.mem_filter.mp mem
      rw [pulling.blocks, List.mem_append, List.mem_singleton] at mem
      rcases mem with mem | rfl
      · exact pulling.stale block mem
      · simp [due] at late
    · intro pull mem
      have order := pulling.order pull mem
      change pull.time + kPullReleaseGraceMs < s.now + elapsed
      omega
    · intro delegate on
      obtain ⟨other, on⟩ := lit delegate on
      change Stranded (bursts s.pulls) delegate
      rw [pulling.pulls]
      rcases pulling.alpha delegate on with pulled | ⟨burst, mem, stranded⟩
      · exact ⟨front ++ [last], by simp, pulled, last, by simp, Ne.symm other⟩
      · exact ⟨burst, List.mem_append_left _ mem, stranded⟩
  · have early : ∀ block ∈ s.blocks, block.due < s.now + elapsed →
        block.generation < s.pullGeneration := by
      intro block mem before
      rw [pulling.blocks, List.mem_append, List.mem_singleton] at mem
      rcases mem with mem | rfl
      · exact pulling.stale block mem
      · exact absurd before due
    have left : s.blocks.filter (fun block => !decide (block.due < s.now + elapsed)) =
        stale.filter (fun block => !decide (block.due < s.now + elapsed)) ++
          [⟨last.time + kPullReleaseGraceMs, s.pullGeneration, last.delegate⟩] := by
      rw [pulling.blocks, List.filter_append, List.filter_cons_of_pos (by simpa using due),
        List.filter_nil]
    rw [pass_stale early]
    exact ⟨sound_later sound elapsed _ sound.shown _ _, .inr ⟨Nat.le_of_not_lt due,
      stale.filter fun block => !decide (block.due < s.now + elapsed), pulling.pulls,
      pulling.finished, pulling.pullPeak, left,
      fun block mem => pulling.stale block (List.mem_filter.mp mem).1,
      Nat.le_add_right_of_le pulling.begun, Nat.le_of_not_lt due, pulling.order, pulling.alpha⟩⟩

/-- Once time has passed, either all bursts are finished or one is under way. -/
def Phase (hasContentView : ℕ → Bool) (s : State) : Prop :=
  Sound hasContentView s ∧
    (Idle s ∨ ∃ ended front last stale, Pulling s ended front last stale)

theorem phase_pass (phase : Phase hasContentView s) (elapsed : ℕ) :
    Phase hasContentView (pass hasContentView elapsed s) := by
  obtain ⟨sound, idle | ⟨ended, front, last, stale, pulling⟩⟩ := phase
  · obtain ⟨sound, idle⟩ := idle_pass sound idle elapsed
    exact ⟨sound, .inl idle⟩
  · obtain ⟨sound, idle | ⟨-, stale, pulling⟩⟩ := pulling_pass sound pulling elapsed
    · exact ⟨sound, .inl idle⟩
    · exact ⟨sound, .inr ⟨ended, front, last, stale, pulling⟩⟩

theorem blinkOverscrollPull_cases (hasContentView : ℕ → Bool) (pullPoints : ℚ) (allowed : Bool)
    (s : State) :
    blinkOverscrollPull hasContentView pullPoints allowed s = s ∨
      ∃ delegate value, blinkOverscrollPull hasContentView pullPoints allowed s =
        { s with
          pullPeak := max s.pullPeak pullPoints
          pullGeneration := s.pullGeneration + 1
          blocks :=
            s.blocks ++ [⟨s.now + kPullReleaseGraceMs, s.pullGeneration + 1, delegate⟩]
          alpha := setAlpha hasContentView delegate value s.alpha
          pulls := s.pulls ++ [⟨s.now, delegate, pullPoints⟩] } := by
  unfold blinkOverscrollPull
  split_ifs
  · exact .inl rfl
  · cases key : s.keyWindowDelegate with
    | none => exact .inl rfl
    | some delegate =>
      refine .inr ⟨delegate, min (pullProgress (max s.pullPeak pullPoints)) 1, ?_⟩
      simp only [updatePullToRefreshProgress, key]

theorem setAlpha_lit {alpha : ℕ → ℚ} {delegate other : ℕ} {value : ℚ}
    (on : setAlpha hasContentView delegate value alpha other ≠ 0) :
    hasContentView other = true ∧ other = delegate ∨ alpha other ≠ 0 := by
  unfold setAlpha at on
  split_ifs at on with attached
  · by_cases same : other = delegate
    · exact .inl ⟨same ▸ attached, same⟩
    · rw [Function.update_of_ne same] at on
      exact .inr on
  · exact .inr on

theorem phase_pull (phase : Phase hasContentView s) (pullPoints : ℚ) (allowed : Bool) :
    Phase hasContentView (blinkOverscrollPull hasContentView pullPoints allowed s) := by
  obtain ignored | ⟨delegate, value, same⟩ :=
    blinkOverscrollPull_cases hasContentView pullPoints allowed s
  · rw [ignored]
    exact phase
  obtain ⟨sound, phase⟩ := phase
  rw [same]
  have past : ∀ pull ∈ s.pulls ++ [⟨s.now, delegate, pullPoints⟩], pull.time ≤ s.now :=
    List.forall_mem_append.mpr ⟨sound.past, List.forall_mem_singleton.mpr (Nat.le_refl _)⟩
  refine ⟨⟨?_, past, fun other on => ?_⟩, .inr ?_⟩
  · exact List.forall_mem_append.mpr ⟨sound.due, List.forall_mem_singleton.mpr (Nat.le_refl _)⟩
  · exact (setAlpha_lit on).elim And.left (sound.shown other)
  obtain idle | ⟨ended, front, last, stale, pulling⟩ := phase
  · refine ⟨bursts s.pulls, [], ⟨s.now, delegate, pullPoints⟩, s.blocks, bursts_new idle.ended,
      idle.finished, ?_, rfl, fun block mem => Nat.lt_succ_of_lt (idle.stale block mem),
      Nat.le_refl _, Nat.le_add_right _ _, past, fun other on => ?_⟩
    · simp [peakOf, idle.pullPeak]
    · obtain ⟨-, lit⟩ | lit := setAlpha_lit on
      · exact .inl ⟨⟨s.now, delegate, pullPoints⟩, by simp, lit.symm⟩
      · exact .inr (idle.alpha other lit)
  · refine ⟨ended, front ++ [last], ⟨s.now, delegate, pullPoints⟩, s.blocks,
      bursts_near pulling.pulls (decide_eq_true pulling.within), pulling.finished, ?_, rfl, ?_,
      Nat.le_refl _, Nat.le_add_right _ _, past, fun other on => ?_⟩
    · rw [peakOf_concat, ← pulling.pullPeak]
    · rw [pulling.blocks]
      refine List.forall_mem_append.mpr ⟨fun block mem => ?_, by simp⟩
      exact Nat.lt_succ_of_lt (pulling.stale block mem)
    · obtain ⟨-, lit⟩ | lit := setAlpha_lit on
      · exact .inl ⟨⟨s.now, delegate, pullPoints⟩, by simp, lit.symm⟩
      · refine (pulling.alpha other lit).imp_left ?_
        rintro ⟨pull, mem, same⟩
        exact ⟨pull, List.mem_append_left _ mem, same⟩

theorem phase_step (phase : Phase hasContentView s) (input : ℕ × Event) :
    Phase hasContentView (step hasContentView s input) := by
  have passed := phase_pass phase input.1
  unfold step
  cases input.2 with
  | overscrollPull pullPoints allowed => exact phase_pull passed pullPoints allowed
  | keyWindow delegate =>
    obtain ⟨sound, idle | ⟨ended, front, last, stale, pulling⟩⟩ := passed
    · exact ⟨⟨sound.due, sound.past, sound.shown⟩,
        .inl ⟨idle.finished, idle.pullPeak, idle.stale, idle.ended, idle.alpha⟩⟩
    · exact ⟨⟨sound.due, sound.past, sound.shown⟩, .inr ⟨ended, front, last, stale, pulling.pulls,
        pulling.finished, pulling.pullPeak, pulling.blocks, pulling.stale, pulling.begun,
        pulling.within, pulling.order, pulling.alpha⟩⟩

theorem phase_start : Phase hasContentView start := by
  have none (block : Block) (mem : block ∈ start.blocks) : False := List.not_mem_nil mem
  have silent (pull : Pull) (mem : pull ∈ start.pulls) : False := List.not_mem_nil mem
  have dark (delegate : ℕ) (lit : start.alpha delegate ≠ 0) : False := lit rfl
  exact ⟨⟨fun block mem => (none block mem).elim, fun pull mem => (silent pull mem).elim,
      fun delegate lit => (dark delegate lit).elim⟩,
    .inl ⟨.nil, rfl, fun block mem => (none block mem).elim, fun pull mem => (silent pull mem).elim,
      fun delegate lit => (dark delegate lit).elim⟩⟩

theorem pass_blocks (elapsed : ℕ) (s : State) :
    (pass hasContentView elapsed s).blocks =
      s.blocks.filter fun block => !decide (block.due < s.now + elapsed) := by
  have kept (blocks : List Block) (s : State) :
      (blocks.foldl (fire hasContentView) s).blocks = s.blocks := by
    induction blocks generalizing s with
    | nil => rfl
    | cons block blocks ih =>
      rw [List.foldl_cons, ih, fire]
      split_ifs <;> rfl
  exact kept _ _

theorem finishes_of_ends {burst : List Pull} {finish : ℕ × Bool} (one : OneDelegate burst)
    (ends : Ends burst finish) : Finishes burst finish := by
  obtain ⟨front, last, rfl, rfl⟩ := ends
  refine ⟨fun pull mem => one pull mem last (by simp), ?_⟩
  rw [decide_eq_true_iff, threshold_le_peakOf_iff]

theorem run_idle (hasContentView : ℕ → Bool) (inputs : List (ℕ × Event)) :
    Idle (run hasContentView inputs) ∧ (run hasContentView inputs).blocks = [] := by
  have kept : ∀ s input, Phase hasContentView s →
      Phase hasContentView (step hasContentView s input) :=
    fun s input phase => phase_step phase input
  obtain ⟨sound, phase⟩ := invariant_always kept start inputs phase_start
  unfold run
  generalize inputs.foldl (step hasContentView) start = s at *
  constructor
  · obtain idle | ⟨ended, front, last, stale, pulling⟩ := phase
    · exact (idle_pass sound idle _).2
    · obtain ⟨-, idle | ⟨still, -⟩⟩ := pulling_pass sound pulling (kPullReleaseGraceMs + 1)
      · exact idle
      · have begun := pulling.begun
        omega
  · rw [pass_blocks, List.filter_eq_nil_iff]
    intro block mem
    have due := sound.due block mem
    simp only [Bool.not_eq_true', decide_eq_false_iff_not, not_not]
    omega

end Phases

/-- Left alone, the machine has finished every burst once, on the delegate that was pulled and by
the burst's own maximum, and nothing is left of it, exactly if the key window did not change between
two reports of a burst. -/
theorem run_settled_iff (hasContentView : ℕ → Bool) (inputs : List (ℕ × Event)) :
    Settled (run hasContentView inputs) ↔
      ∀ burst ∈ bursts (run hasContentView inputs).pulls, OneDelegate burst := by
  obtain ⟨idle, none⟩ := run_idle hasContentView inputs
  generalize run hasContentView inputs = s at *
  constructor
  · intro settled
    have both : List.Forall₂ (fun burst finish => OneDelegate burst ∧ Finishes burst finish)
        (bursts s.pulls) s.finished := settled.finished.imp fun burst finish finishes =>
      ⟨fun pull mem other mem' =>
        (finishes.delegate pull mem).trans (finishes.delegate other mem').symm, finishes⟩
    exact ((List.forall₂_and_left _ _).mp both).1
  · intro one
    refine ⟨?_, none, idle.pullPeak, fun delegate => by_contra fun lit => ?_⟩
    · have both := (List.forall₂_and_left _ _).mpr ⟨one, idle.finished⟩
      exact both.imp fun burst finish held => finishes_of_ends held.1 held.2
    · obtain ⟨burst, mem, ⟨pull, mem', same⟩, other, mem'', different⟩ := idle.alpha delegate lit
      exact different ((one burst mem other mem'' pull mem').trans same)

/-- Another tab becomes key in the middle of a pull: the spinner of the first one stays. -/
theorem keyWindow_changed :
    ¬∀ hasContentView inputs, Settled (run hasContentView inputs) := by
  intro always
  have dark := (always (fun _ => true) [(0, .keyWindow (some 0)), (0, .overscrollPull 100 true),
    (20, .keyWindow (some 1)), (20, .overscrollPull 40 true)]).alpha 0
  revert dark
  decide +kernel

end BlinkerFluid.PullRefresh
