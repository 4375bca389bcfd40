import Mathlib.Order.Interval.Finset.Nat
import Mathlib.Tactic.Ring
import BlinkerFluid.SpanMap

/-! Rounding to multiples of a unit, and the units between two multiples. A set of
numbers that is a union of units has spans that begin and end at multiples. -/

namespace BlinkerFluid.PageUnits
open OrderedMap SpanMap

def roundDown (unit a : ℕ) : ℕ := a / unit * unit

def roundUp (unit a : ℕ) : ℕ := (a + unit - 1) / unit * unit

variable {unit : ℕ}

theorem dvd_roundDown (unit a : ℕ) : unit ∣ roundDown unit a := Nat.dvd_mul_left _ _

theorem dvd_roundUp (unit a : ℕ) : unit ∣ roundUp unit a := Nat.dvd_mul_left _ _

theorem le_roundDown_iff (positive : 0 < unit) {a b : ℕ} (multiple : unit ∣ b) :
    b ≤ roundDown unit a ↔ b ≤ a := by
  obtain ⟨c, rfl⟩ := multiple
  rw [roundDown, Nat.mul_comm unit c, Nat.mul_le_mul_right_iff positive,
    Nat.le_div_iff_mul_le positive]

theorem roundUp_le_iff (positive : 0 < unit) {a b : ℕ} (multiple : unit ∣ b) :
    roundUp unit a ≤ b ↔ a ≤ b := by
  obtain ⟨c, rfl⟩ := multiple
  have floor : (a + unit - 1) / unit < c + 1 ↔ a + unit - 1 < (c + 1) * unit :=
    Nat.div_lt_iff_lt_mul positive
  rw [Nat.add_mul, Nat.one_mul, Nat.mul_comm c unit] at floor
  rw [roundUp, Nat.mul_comm unit c, Nat.mul_le_mul_right_iff positive, ← Nat.lt_succ_iff, floor,
    Nat.mul_comm c unit]
  omega

theorem le_roundUp (positive : 0 < unit) (a : ℕ) : a ≤ roundUp unit a :=
  (roundUp_le_iff positive (dvd_roundUp unit a)).mp le_rfl

theorem roundUp_of_dvd (positive : 0 < unit) {a : ℕ} (multiple : unit ∣ a) : roundUp unit a = a :=
  le_antisymm ((roundUp_le_iff positive multiple).mpr le_rfl) (le_roundUp positive a)

theorem roundUp_pos (positive : 0 < unit) {a : ℕ} (nonzero : 0 < a) : 0 < roundUp unit a :=
  Nat.lt_of_lt_of_le nonzero (le_roundUp positive a)

theorem lt_roundDown_iff (positive : 0 < unit) {a k : ℕ} :
    k * unit < roundDown unit a ↔ k * unit + unit ≤ a := by
  have next : unit ∣ k * unit + unit := ⟨k + 1, by ring⟩
  rw [← le_roundDown_iff positive next, roundDown, ← Nat.succ_mul,
    Nat.mul_le_mul_right_iff positive, Nat.mul_lt_mul_right positive, Nat.succ_le_iff]

theorem lt_roundUp_iff (positive : 0 < unit) {a k : ℕ} :
    k * unit < roundUp unit a ↔ k * unit < a := by
  rw [← not_le, ← not_le, roundUp_le_iff positive (Nat.dvd_mul_left _ _)]

theorem roundDown_le_iff (positive : 0 < unit) {a k : ℕ} :
    roundDown unit a ≤ k * unit ↔ a < k * unit + unit := by
  rw [roundDown, Nat.mul_le_mul_right_iff positive, ← Nat.lt_succ_iff,
    Nat.div_lt_iff_lt_mul positive, Nat.succ_mul]

def units (unit first stop : ℕ) : Finset ℕ := Finset.Ico (first / unit) (stop / unit)

theorem mem_units (positive : 0 < unit) {first stop k : ℕ} (starts : unit ∣ first)
    (ends : unit ∣ stop) : k ∈ units unit first stop ↔ first ≤ k * unit ∧ k * unit < stop := by
  obtain ⟨a, rfl⟩ := starts
  obtain ⟨b, rfl⟩ := ends
  rw [units, Finset.mem_Ico, Nat.mul_div_cancel_left _ positive, Nat.mul_div_cancel_left _ positive,
    Nat.mul_comm unit a, Nat.mul_comm unit b, Nat.mul_le_mul_right_iff positive,
    Nat.mul_lt_mul_right positive]

theorem card_units (positive : 0 < unit) {first size : ℕ} (starts : unit ∣ first)
    (whole : unit ∣ size) : unit * (units unit first (first + size)).card = size := by
  obtain ⟨a, rfl⟩ := starts
  obtain ⟨b, rfl⟩ := whole
  rw [units, ← Nat.mul_add, Nat.mul_div_cancel_left _ positive, Nat.mul_div_cancel_left _ positive,
    Nat.card_Ico, Nat.add_sub_cancel_left]

/-- A set that holds all of a unit or nothing of it. -/
def Saturated (unit : ℕ) (s : ℕ → Prop) : Prop := ∀ x y, x / unit = y / unit → (s x ↔ s y)

/-- The numbers in front of a multiple and behind it lie in different units only there. -/
theorem div_eq_of_not_dvd {x : ℕ} (inner : ¬unit ∣ x + 1) : x / unit = (x + 1) / unit := by
  rw [Nat.succ_div, if_neg inner, Nat.add_zero]

variable {ν : Type*} {size : ν → ℕ} {m : KeyMap ℕ ν}

theorem Saturated.dvd (separated : Separated size m) (whole : Saturated unit (Covered size m))
    {start : ℕ} {v : ν} (stored : m.get? start = some v) :
    unit ∣ start ∧ unit ∣ start + size v := by
  have positive := separated.positive _ _ stored
  constructor
  · by_contra inner
    cases start with
    | zero => exact inner (Nat.dvd_zero _)
    | succ x =>
      refine separated.front_uncovered stored rfl
        ((whole x (x + 1) (div_eq_of_not_dvd inner)).mpr ?_)
      exact ⟨x + 1, v, stored, le_rfl, by omega⟩
  · by_contra inner
    obtain ⟨x, next⟩ : ∃ x, start + size v = x + 1 := ⟨start + size v - 1, by omega⟩
    rw [next] at inner
    refine separated.stop_uncovered stored ?_
    rw [next]
    exact (whole x (x + 1) (div_eq_of_not_dvd inner)).mp ⟨start, v, stored, by omega, by omega⟩

end BlinkerFluid.PageUnits
