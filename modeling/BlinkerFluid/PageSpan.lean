import Mathlib.Data.Nat.Basic
import Mathlib.Tactic.Ring
import Mathlib.Tactic.SplitIfs

/-! Byte spans of a 64-bit address space and the pages they meet. A page holds
2^bits bytes. Rounding a span outwards to page boundaries, by masks as code does
it, keeps the pages it meets. -/

namespace BlinkerFluid.PageSpan

def wrap (n : ℕ) : ℕ := n % 2 ^ 64

def wordSub (a b : ℕ) : ℕ := (a + 2 ^ 64 - b) % 2 ^ 64

theorem wrap_eq {n : ℕ} (word : n < 2 ^ 64) : wrap n = n := Nat.mod_eq_of_lt word

theorem wordSub_eq {a b : ℕ} (word : a < 2 ^ 64) (le : b ≤ a) : wordSub a b = a - b := by
  have split : a + 2 ^ 64 - b = a - b + 2 ^ 64 := by omega
  rw [wordSub, split, Nat.add_mod_right, Nat.mod_eq_of_lt (by omega)]

/-- The mask `a & ~(page - 1)`. -/
def pageStart (bits a : ℕ) : ℕ := a &&& (2 ^ 64 - 2 ^ bits)

theorem pageStart_eq (bits a : ℕ) (word : a < 2 ^ 64) (small : bits ≤ 64) :
    pageStart bits a = a / 2 ^ bits * 2 ^ bits := by
  have mask : 2 ^ 64 - 2 ^ bits = (2 ^ (64 - bits) - 1) * 2 ^ bits := by
    rw [Nat.sub_mul, ← Nat.pow_add, Nat.sub_add_cancel small, Nat.one_mul]
  apply Nat.eq_of_testBit_eq
  intro i
  rw [pageStart, mask, Nat.testBit_and, Nat.testBit_mul_two_pow, Nat.testBit_mul_two_pow,
    Nat.testBit_two_pow_sub_one, Nat.testBit_div_two_pow]
  by_cases low : bits ≤ i
  · rw [Nat.sub_add_cancel low]
    by_cases high : i - bits < 64 - bits
    · simp [low, high]
    · have big : a < 2 ^ i := Nat.lt_of_lt_of_le word (Nat.pow_le_pow_right (by decide) (by omega))
      simp [high, Nat.testBit_lt_two_pow big]
  · simp [low]

/-- The page with number `page` holds a byte of the span. -/
def Meets (bits addr size page : ℕ) : Prop :=
  0 < size ∧ addr / 2 ^ bits ≤ page ∧ page * 2 ^ bits < addr + size

instance (bits addr size page : ℕ) : Decidable (Meets bits addr size page) := by
  unfold Meets
  infer_instance

theorem meets_iff (bits addr size page : ℕ) :
    Meets bits addr size page ↔ ∃ x, addr ≤ x ∧ x < addr + size ∧ x / 2 ^ bits = page := by
  have positive : 0 < 2 ^ bits := Nat.two_pow_pos bits
  constructor
  · rintro ⟨nonempty, lower, upper⟩
    -- The first byte of the span on this page is the larger of the two starts.
    refine ⟨max addr (page * 2 ^ bits), Nat.le_max_left _ _, by omega, ?_⟩
    by_cases first : page * 2 ^ bits ≤ addr
    · rw [Nat.max_eq_left first]
      exact Nat.le_antisymm lower ((Nat.le_div_iff_mul_le positive).mpr first)
    · rw [Nat.max_eq_right (by omega), Nat.mul_div_cancel _ positive]
  · rintro ⟨x, lower, upper, rfl⟩
    exact ⟨by omega, Nat.div_le_div_right lower,
      Nat.lt_of_le_of_lt (Nat.div_mul_le_self x _) upper⟩

/-- A span that neither wraps nor reaches the last page of the address space. -/
def Fits (bits addr size : ℕ) : Prop := addr + size + 2 ^ bits ≤ 2 ^ 64

instance (bits addr size : ℕ) : Decidable (Fits bits addr size) := by
  unfold Fits
  infer_instance

theorem Fits.small {bits addr size : ℕ} (fits : Fits bits addr size) : bits ≤ 64 := by
  unfold Fits at fits
  exact (Nat.pow_le_pow_iff_right (a := 2) (by decide)).mp (by omega)

theorem Fits.stop_lt {bits addr size : ℕ} (fits : Fits bits addr size) :
    addr + size < 2 ^ 64 := by
  have positive : 0 < 2 ^ bits := Nat.two_pow_pos bits
  unfold Fits at fits
  omega

theorem Fits.mono {bits addr size addr' size' : ℕ} (fits : Fits bits addr' size')
    (upper : addr + size ≤ addr' + size') : Fits bits addr size := by
  unfold Fits at fits ⊢
  omega

structure Region (bits : ℕ) where
  base : ℕ
  size : ℕ
  fits : Fits bits base size
deriving DecidableEq

def rounded (bits addr size : ℕ) : ℕ × ℕ :=
  let start := pageStart bits addr
  let stop := pageStart bits (wrap (addr + size + 2 ^ bits - 1))
  (start, wordSub stop start)

theorem meets_rounded (bits addr size page : ℕ) (fits : Fits bits addr size)
    (nonempty : 0 < size) :
    Meets bits (rounded bits addr size).1 (rounded bits addr size).2 page ↔
      Meets bits addr size page := by
  have positive : 0 < 2 ^ bits := Nat.two_pow_pos bits
  have bound := fits
  unfold Fits at bound
  have start : pageStart bits addr = addr / 2 ^ bits * 2 ^ bits :=
    pageStart_eq bits addr (by omega) fits.small
  have stop : pageStart bits (wrap (addr + size + 2 ^ bits - 1)) =
      (addr + size + 2 ^ bits - 1) / 2 ^ bits * 2 ^ bits := by
    rw [wrap_eq (by omega), pageStart_eq _ _ (by omega) fits.small]
  have first : addr / 2 ^ bits * 2 ^ bits ≤ addr := Nat.div_mul_le_self _ _
  -- The page after the last one is the ceiling of the quotient of the end.
  have last : ∀ q, q < (addr + size + 2 ^ bits - 1) / 2 ^ bits ↔ q * 2 ^ bits < addr + size := by
    intro q
    have ceil : q + 1 ≤ (addr + size + 2 ^ bits - 1) / 2 ^ bits ↔
        (q + 1) * 2 ^ bits ≤ addr + size + 2 ^ bits - 1 := Nat.le_div_iff_mul_le positive
    rw [Nat.add_one_mul] at ceil
    omega
  have ordered : addr / 2 ^ bits < (addr + size + 2 ^ bits - 1) / 2 ^ bits :=
    (last _).mpr (by omega)
  have ordered_bytes : addr / 2 ^ bits * 2 ^ bits <
      (addr + size + 2 ^ bits - 1) / 2 ^ bits * 2 ^ bits :=
    Nat.mul_lt_mul_of_pos_right ordered positive
  have word : (addr + size + 2 ^ bits - 1) / 2 ^ bits * 2 ^ bits < 2 ^ 64 :=
    Nat.lt_of_le_of_lt (Nat.div_mul_le_self _ _) (by omega)
  simp only [rounded, start, stop, wordSub_eq word (Nat.le_of_lt ordered_bytes), Meets,
    Nat.mul_div_cancel _ positive]
  rw [Nat.add_sub_cancel' (Nat.le_of_lt ordered_bytes), Nat.mul_lt_mul_right positive, last page]
  constructor
  · exact fun ⟨_, lower, upper⟩ => ⟨nonempty, lower, upper⟩
  · exact fun ⟨_, lower, upper⟩ => ⟨by omega, lower, upper⟩

/-- The part of a span inside another one. -/
theorem meets_inter (bits addr size addr' size' page : ℕ) :
    Meets bits (max addr addr') (min (addr + size) (addr' + size') - max addr addr') page ↔
      ∃ x, (addr ≤ x ∧ x < addr + size) ∧ (addr' ≤ x ∧ x < addr' + size') ∧
        x / 2 ^ bits = page := by
  rw [meets_iff]
  constructor
  · rintro ⟨x, lower, upper, on_page⟩
    exact ⟨x, by omega, by omega, on_page⟩
  · rintro ⟨x, inside, inside', on_page⟩
    exact ⟨x, by omega, by omega, on_page⟩

end BlinkerFluid.PageSpan
