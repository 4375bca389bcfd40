import Mathlib.Data.List.Basic

/-! A fixed table of slots, some of them used. An entry is put into the first free
slot, and freed by overwriting the first used slot that matches. Order does not
matter, so the used entries are compared up to permutation. -/

namespace BlinkerFluid.SlotTable

variable {α : Type*} {used free p : α → Bool}

theorem set_of_findIdx {l : List α} {i : ℕ} (found : l.findIdx? p = some i) :
    ∃ pre a post, l = pre ++ a :: post ∧ p a = true ∧ (∀ b ∈ pre, p b = false) ∧
      ∀ x, l.set i x = pre ++ x :: post := by
  induction l generalizing i with
  | nil => simp at found
  | cons a l ih =>
    rw [List.findIdx?_cons] at found
    by_cases first : p a = true
    · rw [if_pos first, Option.some.injEq] at found
      subst found
      exact ⟨[], a, l, rfl, first, by simp, fun x => rfl⟩
    · rw [if_neg first, Option.map_eq_some_iff] at found
      obtain ⟨j, found, rfl⟩ := found
      obtain ⟨pre, b, post, split, hit, misses, overwritten⟩ := ih found
      refine ⟨a :: pre, b, post, by rw [split]; rfl, hit, ?_, fun x => ?_⟩
      · intro c mem
        rcases List.mem_cons.mp mem with rfl | mem
        · exact Bool.eq_false_iff.mpr first
        · exact misses c mem
      · rw [List.set_cons_succ, overwritten]
        rfl

theorem fill_perm (complement : ∀ a, free a = !used a) {l : List α} {i : ℕ}
    (found : l.findIdx? free = some i) (x : α) (occupies : used x = true) :
    ((l.set i x).filter used).Perm (x :: l.filter used) := by
  obtain ⟨pre, a, post, split, vacant, -, overwritten⟩ := set_of_findIdx found
  have unused : used a = false := by simpa [complement] using vacant
  rw [overwritten, split, List.filter_append, List.filter_append,
    List.filter_cons_of_pos occupies, List.filter_cons_of_neg (by simp [unused])]
  exact List.perm_middle

theorem free_filter {l : List α} {i : ℕ}
    (found : l.findIdx? (fun a => used a && p a) = some i) (x : α) (vacant : used x = false) :
    (l.set i x).filter used = (l.filter used).eraseP p := by
  obtain ⟨pre, a, post, split, hit, misses, overwritten⟩ := set_of_findIdx found
  rw [Bool.and_eq_true] at hit
  have earlier : ∀ b ∈ pre.filter used, ¬ p b = true := by
    intro b mem matching
    obtain ⟨mem, occupied⟩ := List.mem_filter.mp mem
    have miss := misses b mem
    simp [occupied, matching] at miss
  rw [overwritten, split, List.filter_append, List.filter_append,
    List.filter_cons_of_neg (by simp [vacant]), List.filter_cons_of_pos hit.1,
    List.eraseP_append_right _ earlier, List.eraseP_cons_of_pos hit.2]

theorem free_filter_none {l : List α} (none : l.findIdx? (fun a => used a && p a) = none) :
    (l.filter used).eraseP p = l.filter used := by
  apply List.eraseP_of_forall_not
  intro a mem matching
  obtain ⟨mem, occupied⟩ := List.mem_filter.mp mem
  have miss := List.findIdx?_eq_none_iff.mp none a mem
  simp [occupied, matching] at miss

theorem full_iff (complement : ∀ a, free a = !used a) (l : List α) :
    l.findIdx? free = none ↔ (l.filter used).length = l.length := by
  rw [List.findIdx?_eq_none_iff, List.length_filter_eq_length_iff]
  refine forall_congr' fun a => imp_congr_right fun _ => ?_
  rw [complement, Bool.not_eq_false']

end BlinkerFluid.SlotTable
