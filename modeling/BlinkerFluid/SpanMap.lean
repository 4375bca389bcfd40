import BlinkerFluid.OrderedMap
import Mathlib.Order.Nat

/-! Half-open spans of natural numbers in an ordered map. A key is the start of a
span, and its value has a size. Where the spans do not overlap, the only span that can
hold a number is the last one that starts at or before it. Where even gaps lie between
the spans, the map is the only one with its numbers. -/

namespace BlinkerFluid.SpanMap
open OrderedMap

variable {ν : Type*} (size : ν → ℕ)

/-- A number lies in one of the spans. -/
def Covered (m : KeyMap ℕ ν) (x : ℕ) : Prop :=
  ∃ start v, m.get? start = some v ∧ start ≤ x ∧ x < start + size v

/-- Every span ends before the next one starts, or where it starts. -/
def NoOverlap (m : KeyMap ℕ ν) : Prop :=
  ∀ start v start' v', m.get? start = some v → m.get? start' = some v' → start < start' →
    start + size v ≤ start'

variable {size}

theorem last?_of_holds {m : KeyMap ℕ ν} (apart : NoOverlap size m) {start x : ℕ} {v : ν}
    (stored : m.get? start = some v) (lower : start ≤ x) (upper : x < start + size v) :
    (m.last? fun k => k ≤ x) = some (start, v) := by
  refine (m.last?_eq_some_iff _ _ _).mpr ⟨stored, lower, fun k after before => ?_⟩
  cases found : m.get? k with
  | none => rfl
  | some w =>
    have := apart _ _ _ _ stored found after
    omega

theorem holds_unique {m : KeyMap ℕ ν} (apart : NoOverlap size m) {start start' x : ℕ}
    {v v' : ν} (stored : m.get? start = some v) (lower : start ≤ x) (upper : x < start + size v)
    (stored' : m.get? start' = some v') (lower' : start' ≤ x) (upper' : x < start' + size v') :
    start = start' ∧ v = v' := by
  have first := last?_of_holds apart stored lower upper
  rw [last?_of_holds apart stored' lower' upper'] at first
  have same := Option.some.inj first
  exact ⟨(Prod.mk.inj same).1.symm, (Prod.mk.inj same).2.symm⟩

theorem covered_iff_last {m : KeyMap ℕ ν} (apart : NoOverlap size m) (x : ℕ) :
    Covered size m x ↔
      ∃ start v, (m.last? fun k => k ≤ x) = some (start, v) ∧ x < start + size v := by
  constructor
  · rintro ⟨start, v, stored, lower, upper⟩
    exact ⟨start, v, last?_of_holds apart stored lower upper, upper⟩
  · rintro ⟨start, v, found, upper⟩
    obtain ⟨stored, lower, -⟩ := (m.last?_eq_some_iff _ _ _).mp found
    exact ⟨start, v, stored, lower, upper⟩

variable (size) in
def Uncovered (m : KeyMap ℕ ν) (start length : ℕ) : Prop :=
  ∀ x, start ≤ x → x < start + length → ¬Covered size m x

theorem uncovered_iff_beside {m : KeyMap ℕ ν}
    (positive : ∀ key v, m.get? key = some v → 0 < size v) {start length : ℕ}
    (nonempty : 0 < length) : Uncovered size m start length ↔
      ∀ key v, m.get? key = some v → key + size v ≤ start ∨ start + length ≤ key := by
  constructor
  · intro uncovered key v stored
    by_contra meets
    have := positive key v stored
    exact uncovered (max key start) (by omega) (by omega) ⟨key, v, stored, by omega, by omega⟩
  · rintro beside x lower upper ⟨key, v, stored, from_key, to_key⟩
    have := beside key v stored
    omega

theorem uncovered_append (m : KeyMap ℕ ν) (start first second : ℕ) :
    Uncovered size m start (first + second) ↔
      Uncovered size m start first ∧ Uncovered size m (start + first) second := by
  constructor
  · exact fun all => ⟨fun x lower upper => all x lower (by omega),
      fun x lower upper => all x (by omega) (by omega)⟩
  · rintro ⟨early, late⟩ x lower upper
    by_cases low : x < start + first
    · exact early x lower low
    · exact late x (by omega) (by omega)

/-! Spans with gaps between them. -/

variable (size) in
/-- The spans are not empty, and at least one number lies between any two of them. -/
structure Separated (m : KeyMap ℕ ν) : Prop where
  positive : ∀ start v, m.get? start = some v → 0 < size v
  gaps : ∀ start v start' v', m.get? start = some v → m.get? start' = some v' → start < start' →
    start + size v < start'

theorem Separated.noOverlap {m : KeyMap ℕ ν} (separated : Separated size m) : NoOverlap size m :=
  fun start v start' v' stored stored' less =>
    (separated.gaps start v start' v' stored stored' less).le

theorem Separated.beside {m : KeyMap ℕ ν} (separated : Separated size m) {start start' : ℕ}
    {v v' : ν} (stored : m.get? start = some v) (stored' : m.get? start' = some v')
    (other : start' ≠ start) : start' + size v' < start ∨ start + size v < start' := by
  rcases lt_or_gt_of_ne other with before | after
  · exact .inl (separated.gaps _ _ _ _ stored' stored before)
  · exact .inr (separated.gaps _ _ _ _ stored stored' after)

theorem Separated.stop_uncovered {m : KeyMap ℕ ν} (separated : Separated size m) {start : ℕ}
    {v : ν} (stored : m.get? start = some v) : ¬Covered size m (start + size v) := by
  rintro ⟨start', v', stored', lower, upper⟩
  by_cases same : start' = start
  · subst same
    rw [stored] at stored'
    cases stored'
    omega
  · have := separated.beside stored stored' same
    omega

theorem Separated.front_uncovered {m : KeyMap ℕ ν} (separated : Separated size m) {start x : ℕ}
    {v : ν} (stored : m.get? start = some v) (front : x + 1 = start) : ¬Covered size m x := by
  rintro ⟨start', v', stored', lower, upper⟩
  have other : start' ≠ start := by omega
  have := separated.beside stored stored' other
  omega

theorem starts_of_edge {m : KeyMap ℕ ν} {x : ℕ} (covered : Covered size m x)
    (edge : ∀ y, y + 1 = x → ¬Covered size m y) : ∃ v, m.get? x = some v := by
  obtain ⟨start, v, stored, lower, upper⟩ := covered
  have first : start = x := by
    by_contra other
    exact edge (x - 1) (by omega) ⟨start, v, stored, by omega, by omega⟩
  exact ⟨v, first ▸ stored⟩

theorem stops_of_edge {m : KeyMap ℕ ν} {x : ℕ} (covered : Covered size m x)
    (edge : ¬Covered size m (x + 1)) :
    ∃ start v, m.get? start = some v ∧ start + size v = x + 1 := by
  obtain ⟨start, v, stored, lower, upper⟩ := covered
  refine ⟨start, v, stored, ?_⟩
  by_contra other
  exact edge ⟨start, v, stored, by omega, by omega⟩

theorem Separated.run_within {m : KeyMap ℕ ν} (separated : Separated size m) {first stop : ℕ}
    (nonempty : first < stop) (covered : ∀ x, first ≤ x → x < stop → Covered size m x) :
    ∃ start v, m.get? start = some v ∧ start ≤ first ∧ stop ≤ start + size v := by
  obtain ⟨start, v, stored, lower, upper⟩ := covered first le_rfl nonempty
  refine ⟨start, v, stored, lower, ?_⟩
  by_contra short
  exact separated.stop_uncovered stored (covered (start + size v) (by omega) (by omega))

theorem Separated.eq_of_covered {m m' : KeyMap ℕ ℕ} (separated : Separated id m)
    (separated' : Separated id m') (same : ∀ x, Covered id m x ↔ Covered id m' x) : m = m' := by
  -- A span of one map lies in a span of the other one, and cannot be shorter.
  have sub : ∀ {m m' : KeyMap ℕ ℕ}, Separated id m → Separated id m' →
      (∀ x, Covered id m x ↔ Covered id m' x) → ∀ start v, m.get? start = some v →
      m'.get? start = some v := by
    intro m m' separated separated' same start v stored
    have positive := separated.positive _ _ stored
    simp only [id] at positive
    obtain ⟨start', v', stored', lower, upper⟩ := separated'.run_within
      (show start < start + v by omega)
      fun x from_x to_x => (same x).mp ⟨start, v, stored, from_x, to_x⟩
    simp only [id] at upper
    have first : start' = start := by
      by_contra other
      refine separated.front_uncovered stored (show start - 1 + 1 = start by omega) ?_
      exact (same _).mpr ⟨start', v', stored', by omega, by simp only [id]; omega⟩
    subst first
    have length : v' = v := by
      by_contra other
      refine separated.stop_uncovered stored ((same _).mpr ⟨start', v', stored', ?_, ?_⟩)
      · simp only [id]
        omega
      · simp only [id]
        omega
    rw [stored', length]
  apply KeyMap.ext_get?
  intro key
  apply Option.ext
  intro v
  exact ⟨sub separated separated' same key v,
    sub separated' separated (fun x => (same x).symm) key v⟩

end BlinkerFluid.SpanMap
