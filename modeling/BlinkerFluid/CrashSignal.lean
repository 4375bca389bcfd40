import BlinkerFluid.ByteString
import Mathlib.Algebra.Group.Nat.Defs

/-! The crash-signal file: the fatal-signal handler writes the signal number as
decimal digits, the next launch reads the file back and removes it. The file is
absent after a clean exit and after a SIGKILL, which runs no handler. -/

namespace BlinkerFluid.CrashSignal
open ByteString

/-- The signals `BlinkArmCrashHandler` installs the handler for. -/
inductive Signal
  | sigsegv | sigbus | sigabrt | sigill | sigtrap | sigfpe
  deriving DecidableEq, Repr

def Signal.number : Signal → ℕ
  | .sigill => 4
  | .sigtrap => 5
  | .sigabrt => 6
  | .sigfpe => 8
  | .sigbus => 10
  | .sigsegv => 11

def isCodegenFault (sig : ℤ) : Bool :=
  sig = Signal.sigill.number || sig = Signal.sigbus.number ||
    sig = Signal.sigsegv.number || sig = Signal.sigtrap.number

/-- The digits of a number from the lowest, in a buffer with the given room. -/
def lowDigits : (room n : ℕ) → List Char
  | 0, _ => []
  | room + 1, n => if n = 0 then [] else Char.ofNat (48 + n % 10) :: lowDigits room (n / 10)

/-- What `BlinkRecordCrashSignal` leaves in the file. -/
def recordCrashSignal (sig : ℕ) : Bytes :=
  if sig = 0 then ['0'] else (lowDigits 8 sig).reverse

def leadingDigits (s : Bytes) : ℕ :=
  (s.takeWhile Char.isDigit).foldl (fun value c => 10 * value + (c.toNat - 48)) 0

/-- Blanks are skipped and one sign is read. The value is a `long` that is cut to an `int`. -/
def atoi (s : Bytes) : ℤ :=
  let value : ℤ :=
    match s.dropWhile isAsciiWhitespace with
    | '-' :: rest => -leadingDigits rest
    | '+' :: rest => leadingDigits rest
    | rest => leadingDigits rest
  value.bmod (2 ^ 32)

/-- `TakeLastCrashSignal`: the recorded signal and the file left behind. At most
15 bytes are read; 0 stands for no record. -/
def takeLastCrashSignal (file : Option Bytes) : ℤ × Option Bytes :=
  match file with
  | none => (0, none)
  | some contents => (atoi (contents.take 15), none)

theorem digit_char : ∀ d < 10,
    (Char.ofNat (48 + d)).toNat = 48 + d ∧ (Char.ofNat (48 + d)).isDigit = true := by decide

theorem lowDigits_isDigit (room n : ℕ) : ∀ c ∈ lowDigits room n, c.isDigit = true := by
  induction room generalizing n with
  | zero => simp [lowDigits]
  | succ room ih =>
    intro c hc
    simp only [lowDigits] at hc
    split_ifs at hc with zero
    · simp at hc
    · rcases List.mem_cons.mp hc with rfl | hc
      · exact (digit_char _ (Nat.mod_lt _ (by decide))).2
      · exact ih _ c hc

theorem lowDigits_length_le (room n : ℕ) : (lowDigits room n).length ≤ room := by
  induction room generalizing n with
  | zero => simp [lowDigits]
  | succ room ih =>
    simp only [lowDigits]
    split_ifs
    · simp
    · simpa using ih (n / 10)

theorem lowDigits_value (room n : ℕ) (fits : n < 10 ^ room) :
    (lowDigits room n).foldr (fun c value => 10 * value + (c.toNat - 48)) 0 = n := by
  induction room generalizing n with
  | zero =>
    simp only [Nat.pow_zero, Nat.lt_one_iff] at fits
    simp [lowDigits, fits]
  | succ room ih =>
    have fits' : n / 10 < 10 ^ room := by
      rw [Nat.pow_succ] at fits
      omega
    simp only [lowDigits]
    split_ifs with zero
    · simp [zero]
    · rw [List.foldr_cons, ih _ fits', (digit_char _ (Nat.mod_lt _ (by decide))).1]
      omega

theorem atoi_digits {c : Char} {rest : Bytes} (digits : ∀ d ∈ c :: rest, d.isDigit = true)
    (fits : leadingDigits (c :: rest) < 2 ^ 31) :
    atoi (c :: rest) = leadingDigits (c :: rest) := by
  have digit : c.isDigit = true := digits c List.mem_cons_self
  have bounds : 48 ≤ c.toNat ∧ c.toNat ≤ 57 := by
    simpa [Char.isDigit, UInt32.le_iff_toNat_le] using digit
  have blank : isAsciiWhitespace c = false := by
    have space : c ≠ ' ' := by
      rintro rfl
      exact absurd bounds.1 (by decide)
    simp only [isAsciiWhitespace, space, decide_false, Bool.false_or, Bool.and_eq_false_iff,
      decide_eq_false_iff_not]
    omega
  have kept : (c :: rest).dropWhile isAsciiWhitespace = c :: rest := by
    rw [List.dropWhile_cons, blank]
    rfl
  have cut : (leadingDigits (c :: rest) : ℤ).bmod (2 ^ 32) = leadingDigits (c :: rest) :=
    Int.bmod_eq_of_le (by omega) (by omega)
  unfold atoi
  simp only [kept]
  split
  next rest' same =>
    rw [(List.cons.inj same).1] at bounds
    exact absurd bounds.1 (by decide)
  next rest' same =>
    rw [(List.cons.inj same).1] at bounds
    exact absurd bounds.1 (by decide)
  · exact cut

theorem take_record (sig : ℕ) (fits : sig < 10 ^ 8) :
    takeLastCrashSignal (some (recordCrashSignal sig)) = ((sig : ℤ), none) := by
  by_cases zero : sig = 0
  · subst zero
    rfl
  · have short : (lowDigits 8 sig).reverse.length ≤ 15 := by
      rw [List.length_reverse]
      exact (lowDigits_length_le 8 sig).trans (by decide)
    have digits : ∀ c ∈ (lowDigits 8 sig).reverse, c.isDigit = true := fun c mem =>
      lowDigits_isDigit 8 sig c (List.mem_reverse.mp mem)
    have value : leadingDigits (lowDigits 8 sig).reverse = sig := by
      rw [leadingDigits, List.takeWhile_eq_self_iff.mpr digits, List.foldl_reverse,
        lowDigits_value 8 sig fits]
    have some : (lowDigits 8 sig).reverse ≠ [] := by
      intro none
      rw [none] at value
      exact zero value.symm
    rw [takeLastCrashSignal, recordCrashSignal, if_neg zero, List.take_of_length_le short]
    obtain ⟨c, rest, spelt⟩ := List.exists_cons_of_ne_nil some
    rw [spelt] at digits value ⊢
    rw [atoi_digits digits (by omega), value]

theorem Signal.number_lt (sig : Signal) : sig.number < 10 ^ 8 := by
  cases sig <;> decide

end BlinkerFluid.CrashSignal
