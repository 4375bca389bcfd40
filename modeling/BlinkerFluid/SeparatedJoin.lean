import Mathlib.Algebra.GroupWithZero.Nat
import Mathlib.Data.Nat.Basic
import Mathlib.Data.List.Infix

/-! Words joined into one text by an accumulator that puts a separator before a word
unless the text is still empty. For words that are not empty this is
`List.intercalate`; the length of the text then tells how much was joined. -/

namespace BlinkerFluid.SeparatedJoin

variable {α : Type*}

def appendWord (sep : α) (text word : List α) : List α :=
  if text.isEmpty then word else text ++ sep :: word

def joinInto (sep : α) (text : List α) (words : List (List α)) : List α :=
  words.foldl (appendWord sep) text

def weight (words : List (List α)) : ℕ := (words.map fun word => word.length + 1).sum

variable {sep : α} {text : List α} {words : List (List α)}

theorem joinInto_append (more : List (List α)) :
    joinInto sep text (words ++ more) = joinInto sep (joinInto sep text words) more :=
  List.foldl_append

theorem joinInto_eq_append (some_text : text ≠ []) :
    joinInto sep text words = text ++ words.flatMap (sep :: ·) := by
  induction words generalizing text with
  | nil => simp [joinInto]
  | cons word words ih =>
    have appended : appendWord sep text word = text ++ sep :: word := by
      simp [appendWord, some_text]
    rw [joinInto, List.foldl_cons, appended]
    exact (ih (by simp)).trans (by simp)

theorem joinInto_cons {word : List α} (full : word ≠ []) :
    joinInto sep [] (word :: words) = word ++ words.flatMap (sep :: ·) :=
  joinInto_eq_append full

theorem joinInto_eq_intercalate (full : ∀ word ∈ words, word ≠ []) :
    joinInto sep [] words = [sep].intercalate words := by
  cases words with
  | nil => rfl
  | cons word words =>
    rw [joinInto_cons (full word List.mem_cons_self)]
    clear full
    induction words generalizing word with
    | nil => simp
    | cons next words ih => simp [List.intercalate_cons_cons, ← ih]

@[simp] theorem weight_nil : weight ([] : List (List α)) = 0 := rfl

@[simp] theorem weight_cons (word : List α) :
    weight (word :: words) = word.length + 1 + weight words := by
  simp [weight]

@[simp] theorem weight_append (more : List (List α)) :
    weight (words ++ more) = weight words + weight more := by
  simp [weight]

@[simp] theorem weight_replicate (n : ℕ) (word : List α) :
    weight (List.replicate n word) = n * (word.length + 1) := by
  simp [weight]

theorem weight_le_of_sublist {part : List (List α)} (h : part.Sublist words) :
    weight part ≤ weight words := by
  induction h with
  | slnil => exact le_rfl
  | cons word _ ih => exact ih.trans (by rw [weight_cons]; omega)
  | cons_cons word _ ih => rw [weight_cons, weight_cons]; omega

theorem weight_eq_zero_iff : weight words = 0 ↔ words = [] := by
  cases words <;> simp

theorem length_flatMap_cons : (words.flatMap (sep :: ·)).length = weight words := by
  simp [weight, List.length_flatMap]

theorem length_joinInto (full : ∀ word ∈ words, word ≠ []) :
    (joinInto sep [] words).length = weight words - 1 := by
  cases words with
  | nil => rfl
  | cons word words =>
    rw [joinInto_cons (full word List.mem_cons_self), List.length_append, length_flatMap_cons,
      weight_cons]
    omega

theorem joinInto_eq_nil_iff (full : ∀ word ∈ words, word ≠ []) :
    joinInto sep [] words = [] ↔ words = [] := by
  cases words with
  | nil => simp [joinInto]
  | cons word words =>
    have first := full word List.mem_cons_self
    simp [joinInto_cons first, first]

theorem mem_joinInto {c : α} (full : ∀ word ∈ words, word ≠ [])
    (h : c ∈ joinInto sep [] words) : c = sep ∨ ∃ word ∈ words, c ∈ word := by
  cases words with
  | nil => simp [joinInto] at h
  | cons word words =>
    rw [joinInto_cons (full word List.mem_cons_self), List.mem_append, List.mem_flatMap] at h
    rcases h with h | ⟨next, mem, h⟩
    · exact .inr ⟨word, List.mem_cons_self, h⟩
    · rcases List.mem_cons.mp h with same | h
      · exact .inl same
      · exact .inr ⟨next, List.mem_cons_of_mem _ mem, h⟩

theorem foldl_skip_eq (skip : List α → Prop) [DecidablePred skip] :
    words.foldl (fun text word => if skip word then text else appendWord sep text word) text =
      joinInto sep text (words.filter fun word => ¬ skip word) := by
  rw [joinInto, List.foldl_filter]
  congr 1
  funext text word
  by_cases skipped : skip word <;> simp [skipped]

end BlinkerFluid.SeparatedJoin
