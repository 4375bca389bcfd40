import Mathlib.Data.List.Infix
import Mathlib.Data.List.DropRight

/-! Byte strings as lists of characters, one character a byte, and the string
helpers the browser code calls on them. All classifications are ASCII only. -/

namespace BlinkerFluid.ByteString

abbrev Bytes := List Char

instance : LawfulBEq Bytes := inferInstance

def toLowerASCII (s : Bytes) : Bytes := s.map Char.toLower

def isAsciiAlphaNumeric (c : Char) : Bool := c.isAlphanum

/-- `kWhitespaceASCII`: space, tab, newline, vertical tab, form feed, return. -/
def isAsciiWhitespace (c : Char) : Bool :=
  c = ' ' || (9 ≤ c.toNat && c.toNat ≤ 13)

def trim (drop : Char → Bool) (s : Bytes) : Bytes :=
  (s.dropWhile drop).rdropWhile drop

/-- What stands before and behind the first occurrence of a needle. -/
def splitAtFirst (needle : Bytes) : Bytes → Option (Bytes × Bytes)
  | [] => if needle = [] then some ([], []) else none
  | c :: rest =>
    if needle <+: c :: rest then some ([], (c :: rest).drop needle.length)
    else (splitAtFirst needle rest).map fun (before, behind) => (c :: before, behind)

/-- `find(needle) != npos`. -/
def contains (needle s : Bytes) : Bool := decide (needle <:+: s)

/-- `SplitStringPiece(s, sep, TRIM_WHITESPACE, SPLIT_WANT_NONEMPTY)`. -/
def splitStringPiece (sep : Char) (s : Bytes) : List Bytes :=
  ((s.splitOn sep).map (trim isAsciiWhitespace)).filter (· ≠ [])

def removeSuffixChar (c : Char) (s : Bytes) : Bytes :=
  if s.getLast? = some c then s.dropLast else s

theorem isUpper_iff (c : Char) : c.isUpper = true ↔ 'A'.val ≤ c.val ∧ c.val ≤ 'Z'.val :=
  decide_eq_true_iff

theorem isLower_iff (c : Char) : c.isLower = true ↔ 'a'.val ≤ c.val ∧ c.val ≤ 'z'.val := by
  change (decide ('a'.val ≤ c.val) && decide (c.val ≤ 'z'.val)) = true ↔ _
  rw [Bool.and_eq_true, decide_eq_true_iff, decide_eq_true_iff]

theorem isAlpha_eq (c : Char) : c.isAlpha = (c.isUpper || c.isLower) := rfl

theorem toLower_cases (c : Char) :
    c.toLower = c ∨ c.isUpper = true ∧ c.toLower.isLower = true := by
  by_cases upper : c.val ≥ 'A'.val ∧ c.val ≤ 'Z'.val
  · have lowered : c.toLower.val = c.val + ('a'.val - 'A'.val) :=
      congrArg Char.val (dif_pos upper)
    refine .inr ⟨(isUpper_iff c).mpr upper, (isLower_iff _).mpr ?_⟩
    simp only [UInt32.le_iff_toNat_le, ge_iff_le] at upper
    have first : 'A'.val.toNat = 65 ∧ 'a'.val.toNat = 97 := ⟨rfl, rfl⟩
    have last : 'Z'.val.toNat = 90 ∧ 'z'.val.toNat = 122 := ⟨rfl, rfl⟩
    have shift : ('a'.val - 'A'.val).toNat = 32 := rfl
    simp only [lowered, UInt32.le_iff_toNat_le, UInt32.toNat_add, shift]
    omega
  · exact .inl (dif_neg upper)

theorem toLower_eq_of_not_isLower {c d : Char} (h : c.toLower = d) (other : d.isLower = false) :
    c = d := by
  rcases toLower_cases c with same | ⟨_, lower⟩
  · exact same ▸ h
  · rw [h, other] at lower
    cases lower

theorem toLower_toLower (c : Char) : c.toLower.toLower = c.toLower := by
  rcases toLower_cases c with same | ⟨-, lower⟩
  · rw [same, same]
  rcases toLower_cases c.toLower with same | ⟨upper, -⟩
  · exact same
  · simp only [isUpper_iff, isLower_iff, UInt32.le_iff_toNat_le] at upper lower
    have bounds : 'Z'.val.toNat = 90 ∧ 'a'.val.toNat = 97 := ⟨rfl, rfl⟩
    omega

@[simp] theorem contains_iff (needle s : Bytes) : contains needle s = true ↔ needle <:+: s := by
  simp [contains]

theorem splitAtFirst_isSome_iff (needle s : Bytes) :
    (splitAtFirst needle s).isSome ↔ needle <:+: s := by
  induction s with
  | nil =>
    rw [splitAtFirst, List.infix_nil]
    split_ifs with h <;> simp [h]
  | cons c rest ih =>
    rw [splitAtFirst, List.infix_cons_iff]
    split_ifs with h
    · simp [h]
    · simp only [Option.isSome_map, ih, h, false_or]

theorem splitAtFirst_eq_append {needle s before behind : Bytes}
    (h : splitAtFirst needle s = some (before, behind)) : s = before ++ needle ++ behind := by
  induction s generalizing before with
  | nil =>
    rw [splitAtFirst] at h
    split_ifs at h with hn
    simp only [Option.some.injEq, Prod.mk.injEq] at h
    obtain ⟨rfl, rfl⟩ := h
    simp [hn]
  | cons c rest ih =>
    rw [splitAtFirst] at h
    split_ifs at h with hn
    · simp only [Option.some.injEq, Prod.mk.injEq] at h
      obtain ⟨rfl, rfl⟩ := h
      exact (List.prefix_iff_eq_append.mp hn).symm
    · obtain ⟨⟨b, e⟩, hs, heq⟩ := Option.map_eq_some_iff.mp h
      simp only [Prod.mk.injEq] at heq
      obtain ⟨rfl, rfl⟩ := heq
      rw [ih hs]
      simp

theorem prefix_append_iff_of_not_mem {text : Bytes} {c : Char} (absent : c ∉ text)
    (s rest : Bytes) : text <+: s ++ c :: rest ↔ text <+: s := by
  induction text generalizing s with
  | nil => simp
  | cons d text ih =>
    rw [List.mem_cons, not_or] at absent
    cases s with
    | nil => simp [Ne.symm absent.1]
    | cons e s => simp [List.cons_prefix_cons, ih absent.2]

theorem splitAtFirst_append_of_some {needle s before behind : Bytes}
    (h : splitAtFirst needle s = some (before, behind)) (rest : Bytes) :
    splitAtFirst needle (s ++ rest) = some (before, behind ++ rest) := by
  induction s generalizing before with
  | nil =>
    rw [splitAtFirst] at h
    split_ifs at h with none
    simp only [Option.some.injEq, Prod.mk.injEq] at h
    obtain ⟨rfl, rfl⟩ := h
    cases rest <;> simp [splitAtFirst, none]
  | cons c s ih =>
    rw [splitAtFirst] at h
    rw [List.cons_append, splitAtFirst]
    split_ifs at h with here
    · simp only [Option.some.injEq, Prod.mk.injEq] at h
      obtain ⟨rfl, rfl⟩ := h
      have later : needle <+: c :: (s ++ rest) := here.trans (List.prefix_append _ rest)
      rw [if_pos later, ← List.cons_append, List.drop_append_of_le_length here.length_le]
    · obtain ⟨⟨front, back⟩, found, same⟩ := Option.map_eq_some_iff.mp h
      obtain ⟨rfl, rfl⟩ := Prod.mk.inj same
      have later : ¬ needle <+: c :: (s ++ rest) := by
        intro front
        have length := (splitAtFirst_isSome_iff needle s).mp (by rw [found]; rfl)
        refine here (List.prefix_of_prefix_length_le front (List.prefix_append (c :: s) rest) ?_)
        exact (List.IsInfix.length_le length).trans (Nat.le_succ _)
      rw [if_neg later, ih found]
      rfl

theorem splitAtFirst_append_of_none {needle s : Bytes} {c : Char}
    (h : splitAtFirst needle s = none) (absent : c ∉ needle) (rest : Bytes) :
    splitAtFirst needle (s ++ c :: rest) =
      (splitAtFirst needle rest).map fun (before, behind) => (s ++ c :: before, behind) := by
  induction s with
  | nil =>
    rw [splitAtFirst] at h
    split_ifs at h with some_needle
    have here : ¬ needle <+: c :: rest := by
      intro front
      have none := (prefix_append_iff_of_not_mem absent [] rest).mp front
      exact some_needle (List.prefix_nil.mp none)
    rw [List.nil_append, splitAtFirst, if_neg here]
    rfl
  | cons d s ih =>
    rw [splitAtFirst] at h
    split_ifs at h with here
    have later : ¬ needle <+: d :: (s ++ c :: rest) :=
      mt (prefix_append_iff_of_not_mem absent (d :: s) rest).mp here
    rw [List.cons_append, splitAtFirst, if_neg later, ih (Option.map_eq_none_iff.mp h),
      Option.map_map]
    rfl

end BlinkerFluid.ByteString
