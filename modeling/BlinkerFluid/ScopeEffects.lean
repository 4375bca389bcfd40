import BlinkerFluid.CodeRangeProtect
import Mathlib.Data.List.Basic
import Mathlib.Tactic.SplitIfs

/-! What opening and closing one write scope does to the pages. A scope covers
the pages that hold a byte both of the scope and of the registered range. The flag
and the span list say which pages are writable, and every permission change stays
on pages they name. -/

namespace BlinkerFluid.ScopeEffects
open PageSpan CodeRangeProtect

variable {k : Kernel}

/-- A scope over the whole range, or over one span. -/
inductive Scope (bits : ℕ) where
  | whole
  | span (region : Region bits)
deriving DecidableEq

def openScope (k : Kernel) (s : State) : Scope k.pageBits → State
  | .whole => setWritable k s
  | .span region => setWritableRange k s region.base region.size

/-- The pages of a span; nothing is ever protected at the null address. -/
def Spanned (k : Kernel) (addr size page : ℕ) : Prop :=
  addr ≠ 0 ∧ Meets k.pageBits addr size page

instance (k : Kernel) (addr size page : ℕ) : Decidable (Spanned k addr size page) := by
  unfold Spanned
  infer_instance

def InRange (k : Kernel) (s : State) (page : ℕ) : Prop :=
  Spanned k s.codeRangeBase s.codeRangeSize page

instance (k : Kernel) (s : State) (page : ℕ) : Decidable (InRange k s page) := by
  unfold InRange
  infer_instance

/-- The scope reaches a byte of the registered range that lies on this page. -/
def Covers (k : Kernel) (s : State) (page : ℕ) : Scope k.pageBits → Prop
  | .whole => InRange k s page
  | .span region => s.codeRangeBase ≠ 0 ∧
      ∃ x, (region.base ≤ x ∧ x < region.base + region.size) ∧
        (s.codeRangeBase ≤ x ∧ x < s.codeRangeBase + s.codeRangeSize) ∧
        x / 2 ^ k.pageBits = page

theorem covers_inRange (s : State) (page : ℕ) (scope : Scope k.pageBits)
    (covers : Covers k s page scope) : InRange k s page := by
  cases scope with
  | whole => exact covers
  | span region =>
    obtain ⟨registered, x, -, inside, on_page⟩ := covers
    exact ⟨registered, (meets_iff _ _ _ _).mpr ⟨x, inside.1, inside.2, on_page⟩⟩

theorem covers_congr {s t : State} (base : t.codeRangeBase = s.codeRangeBase)
    (size : t.codeRangeSize = s.codeRangeSize) (page : ℕ) (scope : Scope k.pageBits) :
    Covers k t page scope ↔ Covers k s page scope := by
  cases scope with
  | whole => rw [Covers, Covers, InRange, InRange, base, size]
  | span region => rw [Covers, Covers, base, size]

/-- The pages that the flag and the span list name. -/
def Writable (k : Kernel) (s : State) (page : ℕ) : Prop :=
  (s.wholeRangeWritable = true ∧ InRange k s page) ∨
    ∃ span ∈ s.writableSpans, Spanned k span.1 span.2 page

/-- Neither the range nor a recorded span wraps, and the spans lie in the range. -/
structure Shaped (k : Kernel) (s : State) : Prop where
  range : Fits k.pageBits s.codeRangeBase s.codeRangeSize
  spans : ∀ span ∈ s.writableSpans, Fits k.pageBits span.1 span.2 ∧
    ∀ page, Spanned k span.1 span.2 page → InRange k s page

theorem writable_inRange (s : State) (shaped : Shaped k s) (page : ℕ)
    (writable : Writable k s page) : InRange k s page := by
  rcases writable with whole | ⟨span, mem, spanned⟩
  · exact whole.2
  · exact (shaped.spans span mem).2 page spanned

/-- Some pages were given one protection, by calls that name no other page. -/
structure Reprotected (k : Kernel) (m m' : Memory) (pages : ℕ → Prop) (prot : Prot) : Prop where
  inside : ∀ page, pages page → m'.perm page = prot
  outside : ∀ page, ¬ pages page → m'.perm page = m.perm page
  calls : ∃ new, m'.mprotects = new ++ m.mprotects ∧
    ∀ call ∈ new, ∀ page, Meets k.pageBits call.start call.length page → pages page

theorem Reprotected.refl (m : Memory) (pages : ℕ → Prop) (prot : Prot)
    (none : ∀ page, ¬ pages page) : Reprotected k m m pages prot :=
  ⟨fun page here => absurd here (none page), fun _ _ => rfl, [], rfl, by simp⟩

theorem Reprotected.trans {m₁ m₂ m₃ : Memory} {pages pages' : ℕ → Prop} {prot : Prot}
    (first : Reprotected k m₁ m₂ pages prot) (second : Reprotected k m₂ m₃ pages' prot) :
    Reprotected k m₁ m₃ (fun page => pages page ∨ pages' page) prot := by
  constructor
  · intro page here
    by_cases again : pages' page
    · exact second.inside page again
    · rw [second.outside page again]
      exact first.inside page (here.resolve_right again)
  · intro page elsewhere
    rw [second.outside page fun here => elsewhere (.inr here)]
    exact first.outside page fun here => elsewhere (.inl here)
  · obtain ⟨new, log, near⟩ := first.calls
    obtain ⟨new', log', near'⟩ := second.calls
    refine ⟨new' ++ new, by rw [log', log, List.append_assoc], ?_⟩
    intro call mem page meets
    rcases List.mem_append.mp mem with mem | mem
    · exact .inr (near' call mem page meets)
    · exact .inl (near call mem page meets)

theorem Reprotected.congr {m m' : Memory} {pages pages' : ℕ → Prop} {prot : Prot}
    (same : ∀ page, pages page ↔ pages' page) (change : Reprotected k m m' pages prot) :
    Reprotected k m m' pages' prot := by
  obtain rfl : pages = pages' := funext fun page => propext (same page)
  exact change

theorem mprotect_reprotected (m : Memory) (start length : ℕ) (prot : Prot) :
    Reprotected k m (mprotect k true m start length prot) (Meets k.pageBits start length) prot := by
  constructor
  · intro page here
    simp [mprotect, here]
  · intro page elsewhere
    simp [mprotect, elsewhere]
  · refine ⟨[⟨start, length, prot⟩], rfl, ?_⟩
    intro call mem page meets
    rw [List.mem_singleton] at mem
    rwa [mem] at meets

def toProt (writable : Bool) : Prot := if writable then .readWrite else .readExecute

theorem protect_frame (s : State) (addr size : ℕ) (writable : Bool) :
    ∃ memory failures transitions, protect k s addr size writable =
      { s with memory := memory, wxFailures := failures, wxTransitions := transitions } := by
  by_cases nothing : addr = 0 ∨ size = 0
  · exact ⟨s.memory, s.wxFailures, s.wxTransitions, if_pos nothing⟩
  · exact ⟨_, _, _, if_neg nothing⟩

theorem protect_reprotected (reliable : k.Reliable) (s : State) (addr size : ℕ)
    (writable : Bool) (fits : Fits k.pageBits addr size) :
    Reprotected k s.memory (protect k s addr size writable).memory (Spanned k addr size)
      (toProt writable) := by
  by_cases nothing : addr = 0 ∨ size = 0
  · rw [protect, if_pos nothing]
    apply Reprotected.refl
    rintro page ⟨nonnull, meets⟩
    exact nothing.elim nonnull fun empty => absurd meets.1 (by omega)
  · rw [protect, if_neg nothing]
    push Not at nothing
    simp only [reliable _]
    refine (mprotect_reprotected s.memory _ _ _).congr fun page => ?_
    rw [meets_rounded _ _ _ _ fits (by omega)]
    exact (and_iff_right nothing.1).symm

theorem protects_frame (s : State) (spans : List (ℕ × ℕ)) (writable : Bool) :
    ∃ memory failures transitions,
      spans.foldl (fun s span => protect k s span.1 span.2 writable) s =
        { s with memory := memory, wxFailures := failures, wxTransitions := transitions } := by
  induction spans generalizing s with
  | nil => exact ⟨s.memory, s.wxFailures, s.wxTransitions, rfl⟩
  | cons span spans ih =>
    obtain ⟨memory, failures, transitions, frame⟩ := protect_frame (k := k) s span.1 span.2 writable
    obtain ⟨memory', failures', transitions', frame'⟩ := ih (protect k s span.1 span.2 writable)
    refine ⟨memory', failures', transitions', ?_⟩
    rw [List.foldl_cons, frame', frame]

theorem protects_reprotected (reliable : k.Reliable) (s : State) (spans : List (ℕ × ℕ))
    (writable : Bool) (fits : ∀ span ∈ spans, Fits k.pageBits span.1 span.2) :
    Reprotected k s.memory
      (spans.foldl (fun s span => protect k s span.1 span.2 writable) s).memory
      (fun page => ∃ span ∈ spans, Spanned k span.1 span.2 page) (toProt writable) := by
  induction spans generalizing s with
  | nil => exact Reprotected.refl _ _ _ fun page => by simp
  | cons span spans ih =>
    have head := protect_reprotected reliable s span.1 span.2 writable
      (fits span List.mem_cons_self)
    have tail := ih (protect k s span.1 span.2 writable)
      fun span' mem => fits span' (List.mem_cons_of_mem _ mem)
    exact (head.trans tail).congr fun page => by simp

theorem restoreWhole_frame (s : State) :
    ∃ memory failures transitions,
      (if s.wholeRangeWritable then
          { protect k s s.codeRangeBase s.codeRangeSize false with wholeRangeWritable := false }
        else s) =
        { s with
          memory := memory
          wxFailures := failures
          wxTransitions := transitions
          wholeRangeWritable := false } := by
  by_cases whole : s.wholeRangeWritable = true
  · obtain ⟨memory, failures, transitions, frame⟩ :=
      protect_frame (k := k) s s.codeRangeBase s.codeRangeSize false
    exact ⟨memory, failures, transitions, by rw [if_pos whole, frame]⟩
  · refine ⟨s.memory, s.wxFailures, s.wxTransitions, ?_⟩
    rw [if_neg whole, ← Bool.eq_false_iff.mpr whole]

theorem restoreWhole_reprotected (reliable : k.Reliable) (s : State) (shaped : Shaped k s) :
    Reprotected k s.memory
      (if s.wholeRangeWritable then
          { protect k s s.codeRangeBase s.codeRangeSize false with wholeRangeWritable := false }
        else s).memory
      (fun page => s.wholeRangeWritable = true ∧ InRange k s page) .readExecute := by
  by_cases whole : s.wholeRangeWritable = true
  · rw [if_pos whole]
    exact (protect_reprotected reliable s _ _ false shaped.range).congr fun page =>
      (and_iff_right whole).symm
  · rw [if_neg whole]
    exact Reprotected.refl _ _ _ fun page named => whole named.1

theorem restoreAllLocked_frame (s : State) :
    ∃ memory failures transitions, restoreAllLocked k s =
      { s with
        memory := memory
        wxFailures := failures
        wxTransitions := transitions
        wholeRangeWritable := false
        writableSpans := [] } := by
  unfold restoreAllLocked
  obtain ⟨memory, failures, transitions, frame⟩ := restoreWhole_frame (k := k) s
  rw [frame]
  obtain ⟨memory', failures', transitions', frame'⟩ :=
    protects_frame (k := k) _ s.writableSpans false
  exact ⟨memory', failures', transitions', congrArg (fun t => { t with writableSpans := [] }) frame'⟩

theorem restoreAllLocked_reprotected (reliable : k.Reliable) (s : State) (shaped : Shaped k s) :
    Reprotected k s.memory (restoreAllLocked k s).memory (Writable k s) .readExecute := by
  have head := restoreWhole_reprotected reliable s shaped
  obtain ⟨memory, failures, transitions, frame⟩ := restoreWhole_frame (k := k) s
  unfold restoreAllLocked
  rw [frame] at head ⊢
  exact head.trans
    (protects_reprotected reliable _ s.writableSpans false fun span mem => (shaped.spans span mem).1)

theorem clamp_cases (s : State) (range : Fits k.pageBits s.codeRangeBase s.codeRangeSize)
    (region : Region k.pageBits) :
    (clampToCodeRange s region.base region.size = none ∧
      ∀ page, ¬ Covers k s page (.span region)) ∨
    ∃ span, clampToCodeRange s region.base region.size = some span ∧
      Fits k.pageBits span.1 span.2 ∧
      ∀ page, Spanned k span.1 span.2 page ↔ Covers k s page (.span region) := by
  have region_stop := region.fits.stop_lt
  have range_stop := range.stop_lt
  unfold clampToCodeRange
  rw [wrap_eq region_stop, wrap_eq range_stop]
  by_cases absent : s.codeRangeBase = 0 ∨ s.codeRangeSize = 0
  · refine .inl ⟨if_pos absent, ?_⟩
    rintro page ⟨registered, x, -, inside, -⟩
    exact absent.elim registered fun empty => by omega
  · rw [if_neg absent]
    push Not at absent
    by_cases apart : region.base + region.size ≤ s.codeRangeBase ∨
        s.codeRangeBase + s.codeRangeSize ≤ region.base
    · refine .inl ⟨if_pos apart, ?_⟩
      rintro page ⟨-, x, inside, inside', -⟩
      omega
    · rw [if_neg apart]
      push Not at apart
      have ordered : max region.base s.codeRangeBase ≤
          min (region.base + region.size) (s.codeRangeBase + s.codeRangeSize) := by omega
      simp only [wordSub_eq (Nat.lt_of_le_of_lt (Nat.min_le_left _ _) region_stop) ordered]
      by_cases empty : region.size = 0
      · refine .inl ⟨if_neg (by omega), ?_⟩
        rintro page ⟨-, x, inside, -, -⟩
        omega
      · refine .inr ⟨_, if_pos (by omega), region.fits.mono (by omega), fun page => ?_⟩
        rw [Spanned, meets_inter, Covers]
        exact and_congr_left fun _ => iff_of_true (by omega) absent.1

/-- Opening a scope counts it. If the range is not flipped as a whole, the scope then
flips the range or its clamped span and records which. -/
theorem openScope_cases (s : State) (range : Fits k.pageBits s.codeRangeBase s.codeRangeSize)
    (fallback : s.mirrorOffset = 0) (scope : Scope k.pageBits) :
    (openScope k s scope = { s with wxDepth := s.wxDepth + 1 } ∧
      ∀ page, Covers k s page scope → s.wholeRangeWritable = true) ∨
    (s.wholeRangeWritable = false ∧ scope = .whole ∧
      openScope k s scope = { protect k { s with wxDepth := s.wxDepth + 1 }
        s.codeRangeBase s.codeRangeSize true with wholeRangeWritable := true }) ∨
    (s.wholeRangeWritable = false ∧ ∃ span,
      openScope k s scope = { protect k { s with wxDepth := s.wxDepth + 1 }
        span.1 span.2 true with writableSpans := s.writableSpans ++ [span] } ∧
      Fits k.pageBits span.1 span.2 ∧
      ∀ page, Spanned k span.1 span.2 page ↔ Covers k s page scope) := by
  have flipping : ¬ s.mirrorOffset ≠ 0 := fun mirrored => mirrored fallback
  by_cases whole : s.wholeRangeWritable = true
  · refine .inl ⟨?_, fun _ _ => whole⟩
    cases scope with
    | whole =>
      rw [openScope, setWritable, if_neg flipping]
      exact if_pos whole
    | span region =>
      rw [openScope, setWritableRange, if_neg flipping]
      exact if_pos whole
  · have partly : s.wholeRangeWritable = false := Bool.eq_false_iff.mpr whole
    cases scope with
    | whole =>
      refine .inr (.inl ⟨partly, rfl, ?_⟩)
      rw [openScope, setWritable, if_neg flipping]
      exact if_neg whole
    | span region =>
      rcases clamp_cases (k := k) { s with wxDepth := s.wxDepth + 1 } range region with
        ⟨none, apart⟩ | ⟨span, some, fits, spanned⟩
      · refine .inl ⟨?_, fun page covers => absurd covers (apart page)⟩
        rw [openScope, setWritableRange, if_neg flipping]
        refine (if_neg whole).trans ?_
        rw [none]
      · refine .inr (.inr ⟨partly, span, ?_, fits, spanned⟩)
        obtain ⟨memory, failures, transitions, frame⟩ := protect_frame (k := k)
          { s with wxDepth := s.wxDepth + 1 } span.1 span.2 true
        rw [openScope, setWritableRange, if_neg flipping]
        refine (if_neg whole).trans ?_
        rw [some]
        simp only [frame]

theorem openScope_frame (s : State) (range : Fits k.pageBits s.codeRangeBase s.codeRangeSize)
    (fallback : s.mirrorOffset = 0) (scope : Scope k.pageBits) :
    ∃ memory failures transitions whole spans, openScope k s scope =
      { s with
        wxDepth := s.wxDepth + 1
        memory := memory
        wxFailures := failures
        wxTransitions := transitions
        wholeRangeWritable := whole
        writableSpans := spans } := by
  rcases openScope_cases s range fallback scope with
    ⟨opened, -⟩ | ⟨-, -, opened⟩ | ⟨-, span, opened, -, -⟩
  · exact ⟨_, _, _, _, _, opened⟩
  · obtain ⟨memory, failures, transitions, frame⟩ := protect_frame (k := k)
      { s with wxDepth := s.wxDepth + 1 } s.codeRangeBase s.codeRangeSize true
    rw [frame] at opened
    exact ⟨_, _, _, _, _, opened⟩
  · obtain ⟨memory, failures, transitions, frame⟩ := protect_frame (k := k)
      { s with wxDepth := s.wxDepth + 1 } span.1 span.2 true
    rw [frame] at opened
    exact ⟨_, _, _, _, _, opened⟩

theorem openScope_writable (s : State) (shaped : Shaped k s) (fallback : s.mirrorOffset = 0)
    (scope : Scope k.pageBits) :
    Shaped k (openScope k s scope) ∧
      ∀ page, Writable k (openScope k s scope) page ↔ Writable k s page ∨ Covers k s page scope := by
  rcases openScope_cases s shaped.range fallback scope with
    ⟨opened, already⟩ | ⟨partly, rfl, opened⟩ | ⟨partly, span, opened, fits, spanned⟩
  · rw [opened]
    refine ⟨⟨shaped.range, shaped.spans⟩, fun page => (or_iff_left_of_imp fun covers => ?_).symm⟩
    exact .inl ⟨already page covers, covers_inRange s page scope covers⟩
  · obtain ⟨memory, failures, transitions, frame⟩ := protect_frame (k := k)
      { s with wxDepth := s.wxDepth + 1 } s.codeRangeBase s.codeRangeSize true
    rw [opened, frame]
    refine ⟨⟨shaped.range, shaped.spans⟩, fun page => ?_⟩
    simp only [Writable, Covers, InRange, partly, Bool.false_eq_true, false_and, false_or,
      true_and, or_comm]
  · obtain ⟨memory, failures, transitions, frame⟩ := protect_frame (k := k)
      { s with wxDepth := s.wxDepth + 1 } span.1 span.2 true
    rw [opened, frame]
    refine ⟨⟨shaped.range, fun span' mem => ?_⟩, fun page => ?_⟩
    · rcases List.mem_append.mp mem with old | new
      · exact shaped.spans span' old
      · rw [List.mem_singleton.mp new]
        exact ⟨fits, fun page here => covers_inRange s page scope ((spanned page).mp here)⟩
    · rw [← spanned page]
      simp only [Writable, InRange, List.mem_append, List.mem_singleton, or_and_right,
        exists_or, exists_eq_left, or_assoc]

/-- If the range is not flipped as a whole, exactly the covered pages become
writable. -/
theorem openScope_reprotected (reliable : k.Reliable) (s : State) (shaped : Shaped k s)
    (fallback : s.mirrorOffset = 0) (scope : Scope k.pageBits) :
    Reprotected k s.memory (openScope k s scope).memory
      (fun page => s.wholeRangeWritable = false ∧ Covers k s page scope) .readWrite := by
  rcases openScope_cases s shaped.range fallback scope with
    ⟨opened, already⟩ | ⟨partly, rfl, opened⟩ | ⟨partly, span, opened, fits, spanned⟩
  · rw [opened]
    refine Reprotected.refl _ _ _ fun page named => ?_
    rw [already page named.2] at named
    exact Bool.noConfusion named.1
  · have flipped := protect_reprotected reliable { s with wxDepth := s.wxDepth + 1 }
      s.codeRangeBase s.codeRangeSize true shaped.range
    rw [opened]
    exact flipped.congr fun page => (and_iff_right partly).symm
  · have flipped := protect_reprotected reliable { s with wxDepth := s.wxDepth + 1 }
      span.1 span.2 true fits
    rw [opened]
    exact flipped.congr fun page => (spanned page).trans (and_iff_right partly).symm

/-- A close that is not the last one only counts. -/
theorem setExecutable_inner (s : State) (fallback : s.mirrorOffset = 0) (inner : 1 < s.wxDepth) :
    setExecutable k s = { s with wxDepth := s.wxDepth - 1 } := by
  have flipping : ¬ s.mirrorOffset ≠ 0 := fun mirrored => mirrored fallback
  rw [setExecutable, if_neg flipping, if_pos (by omega)]
  exact if_neg (by simp only; omega)

theorem setExecutable_outermost (s : State) (fallback : s.mirrorOffset = 0)
    (outermost : s.wxDepth = 1) :
    setExecutable k s = restoreAllLocked k { s with wxDepth := 0 } := by
  have flipping : ¬ s.mirrorOffset ≠ 0 := fun mirrored => mirrored fallback
  rw [setExecutable, if_neg flipping, if_pos (by omega)]
  simp only [outermost]
  rfl

/-- With a mirror nothing is counted and nothing is flipped. -/
theorem openScope_mirrored (s : State) (mirrored : s.mirrorOffset ≠ 0)
    (scope : Scope k.pageBits) : openScope k s scope = s := by
  cases scope with
  | whole => exact if_pos mirrored
  | span region => exact if_pos mirrored

theorem setExecutable_mirrored (s : State) (mirrored : s.mirrorOffset ≠ 0) :
    setExecutable k s = s := if_pos mirrored

end BlinkerFluid.ScopeEffects
