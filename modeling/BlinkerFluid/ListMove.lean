import Mathlib.Data.List.Perm.Basic
import Mathlib.Data.List.InsertIdx

/-! Moving an entry of a list to another place, and what stays: the entries, their
number, and every view of the list that looks at entries one by one. -/

namespace BlinkerFluid.ListMove

variable {α β : Type*}

/-- Erase the entry at one place and insert it at another, both within bounds. -/
def moveEntry (source target : ℕ) (l : List α) : List α :=
  match l[source]? with
  | none => l
  | some entry => if target < l.length then (l.eraseIdx source).insertIdx target entry else l

theorem moveEntry_perm (source target : ℕ) (l : List α) : (moveEntry source target l).Perm l := by
  unfold moveEntry
  cases found : l[source]? with
  | none => exact .refl l
  | some entry =>
    obtain ⟨bound, rfl⟩ := List.getElem?_eq_some_iff.mp found
    simp only
    split
    · have room : target ≤ (l.eraseIdx source).length := by
        rw [List.length_eraseIdx_of_lt bound]
        omega
      exact (List.perm_insertIdx _ _ room).trans (List.getElem_cons_eraseIdx_perm bound)
    · exact .refl l

theorem moveEntry_map (f : α → β) (source target : ℕ) (l : List α) :
    moveEntry source target (l.map f) = (moveEntry source target l).map f := by
  unfold moveEntry
  rw [List.getElem?_map, List.length_map]
  cases l[source]? with
  | none => rfl
  | some entry =>
    simp only [Option.map_some]
    split
    · rw [List.map_insertIdx, List.eraseIdx_map]
    · rfl

theorem insertIdx_append (l more : List α) {place : ℕ} (within : place ≤ l.length) (entry : α) :
    (l ++ more).insertIdx place entry = l.insertIdx place entry ++ more := by
  induction l generalizing place with
  | nil =>
    cases Nat.le_zero.mp within
    rfl
  | cons head l ih =>
    cases place with
    | zero => rfl
    | succ place =>
      rw [List.cons_append, List.insertIdx_succ_cons, ih (Nat.le_of_succ_le_succ within),
        List.insertIdx_succ_cons, List.cons_append]

theorem moveEntry_append (l more : List α) {source target : ℕ} (leaves : source < l.length)
    (arrives : target < l.length) :
    moveEntry source target (l ++ more) = moveEntry source target l ++ more := by
  have room : target ≤ (l.eraseIdx source).length := by
    rw [List.length_eraseIdx_of_lt leaves]
    omega
  have longer : target < (l ++ more).length := by
    rw [List.length_append]
    omega
  unfold moveEntry
  rw [List.getElem?_append_left leaves, List.getElem?_eq_getElem leaves]
  simp only [if_pos arrives, if_pos longer]
  rw [List.eraseIdx_append_of_lt_length leaves, insertIdx_append _ _ room]

end BlinkerFluid.ListMove
