import Mathlib.Data.List.Infix

/-! Suffixes of a word that begin at a label boundary: the word itself, and what
remains behind each of its separators. `walk` enumerates them from the longest
down to the first one whose length is at most a given bound, by scanning the
word once; `mem_walk_iff` says that nothing else is visited and nothing skipped. -/

namespace BlinkerFluid.LabelSuffix

variable {α : Type*}

/-- `s` is the whole of `h`, or what remains of `h` behind one of its separators. -/
def IsLabelSuffix (sep : α) (s h : List α) : Prop := s = h ∨ sep :: s <:+ h

instance [DecidableEq α] (sep : α) (s h : List α) : Decidable (IsLabelSuffix sep s h) :=
  inferInstanceAs (Decidable (s = h ∨ sep :: s <:+ h))

variable {sep : α} {s t u h : List α}

theorem IsLabelSuffix.refl (sep : α) (h : List α) : IsLabelSuffix sep h h := .inl rfl

theorem length_lt_of_cons_suffix (hs : sep :: s <:+ h) : s.length < h.length := hs.length_le

theorem IsLabelSuffix.isSuffix (hs : IsLabelSuffix sep s h) : s <:+ h := by
  rcases hs with rfl | hs
  · exact List.suffix_rfl
  · exact (List.suffix_cons sep s).trans hs

theorem IsLabelSuffix.length_le (hs : IsLabelSuffix sep s h) : s.length ≤ h.length :=
  hs.isSuffix.length_le

theorem IsLabelSuffix.trans (hs : IsLabelSuffix sep s t) (ht : IsLabelSuffix sep t h) :
    IsLabelSuffix sep s h := by
  rcases hs with rfl | hs
  · exact ht
  · exact .inr (hs.trans ht.isSuffix)

theorem IsLabelSuffix.of_length_le (hs : IsLabelSuffix sep s h) (ht : IsLabelSuffix sep t h)
    (le : s.length ≤ t.length) : IsLabelSuffix sep s t := by
  rcases hs with rfl | hs
  · exact .inl (ht.isSuffix.eq_of_length_le le).symm
  rcases Nat.lt_or_ge s.length t.length with lt | ge
  · exact .inr (List.suffix_of_suffix_length_le hs ht.isSuffix lt)
  · have hst : s <:+ t :=
      List.suffix_of_suffix_length_le ((List.suffix_cons sep s).trans hs) ht.isSuffix le
    exact .inl (hst.eq_of_length_le ge)

theorem IsLabelSuffix.antisymm (hs : IsLabelSuffix sep s t) (ht : IsLabelSuffix sep t s) :
    s = t :=
  hs.isSuffix.eq_of_length_le ht.length_le

variable [DecidableEq α]

/-- The remainders behind the separators of a word, longest first, ending with
the first remainder whose length is at most `stop`. -/
def remainders (sep : α) (stop : ℕ) : List α → List (List α)
  | [] => []
  | c :: rest =>
    if c = sep then
      rest :: if rest.length ≤ stop then [] else remainders sep stop rest
    else remainders sep stop rest

/-- The word and then its remainders, ending with the first of length at most `stop`. -/
def walk (sep : α) (stop : ℕ) (h : List α) : List (List α) :=
  h :: if h.length ≤ stop then [] else remainders sep stop h

theorem suffix_cons_cons_iff {c : α} {rest : List α} :
    sep :: s <:+ c :: rest ↔ (c = sep ∧ s = rest) ∨ sep :: s <:+ rest := by
  rw [List.suffix_cons_iff, List.cons.injEq]
  tauto

theorem remainders_isSuffix {stop : ℕ} (hs : s ∈ remainders sep stop h) : sep :: s <:+ h := by
  induction h with
  | nil => simp [remainders] at hs
  | cons c rest ih =>
    rw [suffix_cons_cons_iff]
    simp only [remainders] at hs
    split_ifs at hs with hc hstop
    · exact .inl ⟨hc, by simpa using hs⟩
    · rcases List.mem_cons.mp hs with rfl | hs
      · exact .inl ⟨hc, rfl⟩
      · exact .inr (ih hs)
    · exact .inr (ih hs)

theorem mem_remainders {stop : ℕ} (hs : sep :: s <:+ h) (ge : stop ≤ s.length) :
    s ∈ remainders sep stop h := by
  induction h with
  | nil => simp at hs
  | cons c rest ih =>
    simp only [remainders]
    rcases suffix_cons_cons_iff.mp hs with ⟨rfl, rfl⟩ | hs
    · simp
    · have lt : stop < rest.length := ge.trans_lt (length_lt_of_cons_suffix hs)
      split_ifs with hc
      · omega
      · exact List.mem_cons_of_mem _ (ih hs)
      · exact ih hs

theorem remainders_length_ge {stop : ℕ} (ht : sep :: t <:+ h) (len : t.length = stop)
    (hs : s ∈ remainders sep stop h) : stop ≤ s.length := by
  induction h with
  | nil => simp [remainders] at hs
  | cons c rest ih =>
    simp only [remainders] at hs
    rcases suffix_cons_cons_iff.mp ht with ⟨rfl, rfl⟩ | ht
    · rw [if_pos rfl, if_pos len.le, List.mem_singleton] at hs
      exact hs ▸ len.ge
    · have lt : stop < rest.length := len ▸ length_lt_of_cons_suffix ht
      split_ifs at hs with hc
      · omega
      · rcases List.mem_cons.mp hs with rfl | hs
        · exact lt.le
        · exact ih ht hs
      · exact ih ht hs

/-- The walk visits exactly the label suffixes from the word itself down to the
label suffix `t` whose length bounds it. -/
theorem mem_walk_iff (ht : IsLabelSuffix sep t h) :
    s ∈ walk sep t.length h ↔ IsLabelSuffix sep s h ∧ IsLabelSuffix sep t s := by
  constructor
  · intro hs
    have visited : IsLabelSuffix sep s h ∧ t.length ≤ s.length := by
      rcases List.mem_cons.mp hs with rfl | hs
      · exact ⟨.refl sep s, ht.length_le⟩
      split_ifs at hs with stop
      · simp at hs
      rcases ht with rfl | ht
      · exact absurd le_rfl stop
      · exact ⟨.inr (remainders_isSuffix hs), remainders_length_ge ht rfl hs⟩
    exact ⟨visited.1, ht.of_length_le visited.1 visited.2⟩
  · rintro ⟨rfl | hs, hts⟩
    · exact List.mem_cons_self
    · have lt : t.length < h.length := hts.length_le.trans_lt (length_lt_of_cons_suffix hs)
      rw [walk, if_neg (by omega)]
      exact List.mem_cons_of_mem _ (mem_remainders hs hts.length_le)

end BlinkerFluid.LabelSuffix
