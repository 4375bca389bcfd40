import Mathlib.Algebra.Group.Fin.Basic
import Mathlib.Algebra.Group.Units.Equiv
import Mathlib.Algebra.GroupWithZero.Nat
import Mathlib.Data.List.DropRight
import Mathlib.Data.List.FinRange

/-! A fixed number of slots that are written in turn. Read around from the next slot to be
written, they hold the last entries of the history, oldest first, behind the slots that nothing
has been written to. A count over the slots is a count over those entries, and of entries sorted
by age it loses only what does not fit. -/

namespace BlinkerFluid.RingBuffer

variable {α β : Type*} {n : ℕ}

section Lists

theorem tail_rtake (l : List β) {k : ℕ} (long : k < l.length) :
    (l.rtake (k + 1)).tail = l.rtake k := by
  rw [List.rtake, List.tail_drop, List.rtake]
  congr 1
  omega

theorem rtake_map (f : α → β) (l : List α) (k : ℕ) : (l.map f).rtake k = (l.rtake k).map f := by
  rw [List.rtake, List.length_map, List.rtake, List.map_drop]

theorem zipIdx_ofFn (g : Fin n → β) :
    (List.ofFn g).zipIdx = (List.finRange n).map fun i => (g i, i.val) := by
  refine List.ext_getElem (by simp) fun k inner outer => ?_
  simp

theorem countP_rtake {r : α → α → Prop} (p : α → Bool)
    (lasting : ∀ a b, r a b → p a = true → p b = true) (history : List α)
    (sorted : history.Pairwise r) (k : ℕ) :
    (history.rtake k).countP p = min k (history.countP p) := by
  induction history using List.reverseRecOn generalizing k with
  | nil => simp
  | append_singleton history x ih =>
    obtain ⟨sortedPast, -, older⟩ := List.pairwise_append.mp sorted
    cases k with
    | zero => simp
    | succ k =>
      rw [List.rtake_concat_succ, List.countP_append, List.countP_append, ih sortedPast]
      cases kept : p x with
      | true =>
        rw [List.countP_singleton, if_pos kept]
        omega
      | false =>
        have gone : history.countP p = 0 := by
          refine List.countP_eq_zero.mpr fun a past here => ?_
          have late : p x = true := lasting a x (older a past x List.mem_cons_self) here
          exact absurd late (by simp [kept])
        simp [kept, gone]

end Lists

/-- The slots and the next one to be written. -/
structure CircularBuffer (α : Type*) (n : ℕ) [NeZero n] where
  slots : Fin n → Option α := fun _ => none
  head : Fin n := 0

variable [NeZero n]

def CircularBuffer.push (ring : CircularBuffer α n) (x : α) : CircularBuffer α n where
  slots := Function.update ring.slots ring.head (some x)
  head := ring.head + 1

def CircularBuffer.cells (ring : CircularBuffer α n) : List (Option α) :=
  List.ofFn fun i => ring.slots (ring.head + i)

@[simp] theorem length_cells (ring : CircularBuffer α n) : ring.cells.length = n := List.length_ofFn

theorem cells_push (ring : CircularBuffer α n) (x : α) :
    (ring.push x).cells = ring.cells.tail ++ [some x] := by
  obtain ⟨m, rfl⟩ := Nat.exists_eq_succ_of_ne_zero (NeZero.ne n)
  have shifted : ∀ i : Fin m, (ring.push x).slots (ring.head + 1 + i.castSucc) =
      ring.slots (ring.head + i.succ) := by
    intro i
    have index : ring.head + 1 + i.castSucc = ring.head + i.succ := by
      rw [add_assoc, add_comm 1, Fin.coeSucc_eq_succ]
    rw [index]
    refine Function.update_of_ne ?_ _ _
    rw [ne_eq, add_eq_left]
    exact Fin.succ_ne_zero i
  have last : (ring.push x).slots (ring.head + 1 + Fin.last m) = some x := by
    rw [add_assoc, add_comm 1, Fin.last_add_one, add_zero]
    exact Function.update_self _ _ _
  simp only [CircularBuffer.cells]
  rw [List.ofFn_succ_last, List.ofFn_succ, List.tail_cons]
  exact congrArg₂ (· ++ ·) (congrArg List.ofFn (funext shifted)) (congrArg ([·]) last)

theorem cells_foldl (ring : CircularBuffer α n) (history : List α) :
    (history.foldl CircularBuffer.push ring).cells = (ring.cells ++ history.map some).rtake n := by
  induction history using List.reverseRecOn with
  | nil => simp [List.rtake]
  | append_singleton history x ih =>
    obtain ⟨m, rfl⟩ := Nat.exists_eq_succ_of_ne_zero (NeZero.ne n)
    have long : m < (ring.cells ++ history.map some).length := by simp; omega
    rw [List.foldl_concat, cells_push, ih, tail_rtake _ long, List.map_append, ← List.append_assoc]
    exact (List.rtake_concat_succ _ _ _).symm

theorem cells_empty : ({} : CircularBuffer α n).cells = List.replicate n none :=
  List.ofFn_const n none

/-- The ring after a history that starts with no slot written. -/
def ofHistory (n : ℕ) [NeZero n] (history : List α) : CircularBuffer α n :=
  history.foldl CircularBuffer.push {}

theorem cells_ofHistory (history : List α) :
    (ofHistory n history).cells =
      List.replicate (n - history.length) none ++ (history.rtake n).map some := by
  rw [ofHistory, cells_foldl, cells_empty, List.rtake, List.length_append, List.length_replicate,
    List.length_map, Nat.add_sub_cancel_left, List.drop_append, List.drop_replicate,
    List.length_replicate, List.rtake, List.map_drop]

section Counting

variable (p : Option α → Bool)

theorem countP_slots (ring : CircularBuffer α n) :
    (List.finRange n).countP (fun i => p (ring.slots i)) = ring.cells.countP p := by
  have turned : ((List.finRange n).map (Equiv.addLeft ring.head)).Perm (List.finRange n) :=
    Equiv.Perm.map_finRange_perm _
  rw [← turned.countP_eq, List.countP_map, CircularBuffer.cells, List.ofFn_eq_map, List.countP_map]
  rfl

theorem countP_ofHistory (history : List α) (unwritten : p none = false) :
    (List.finRange n).countP (fun i => p ((ofHistory n history).slots i)) =
      (history.rtake n).countP (p ∘ some) := by
  rw [countP_slots, cells_ofHistory, List.countP_append, List.countP_replicate, List.countP_map,
    unwritten]
  simp

end Counting

theorem filterMap_ofHistory (f : ℕ → Option α → Option β) (history : List α)
    (unwritten : ∀ i, f i none = none) :
    (List.finRange n).filterMap (fun i : Fin n =>
        f i ((ofHistory n history).slots ((ofHistory n history).head + i))) =
      ((history.rtake n).zipIdx (n - history.length)).filterMap
        fun entry => f entry.2 (some entry.1) := by
  have numbered : (List.finRange n).filterMap (fun i : Fin n =>
      f i ((ofHistory n history).slots ((ofHistory n history).head + i))) =
      (ofHistory n history).cells.zipIdx.filterMap fun entry => f entry.2 entry.1 := by
    rw [CircularBuffer.cells, zipIdx_ofFn, List.filterMap_map]
    rfl
  have blank : ∀ k i, ((List.replicate k (none : Option α)).zipIdx i).filterMap
      (fun entry => f entry.2 entry.1) = [] := by
    intro k i
    refine List.filterMap_eq_nil_iff.mpr fun entry within => ?_
    have empty : entry.1 = none := List.eq_of_mem_replicate (List.fst_mem_of_mem_zipIdx within)
    rw [empty, unwritten]
  rw [numbered, cells_ofHistory, List.zipIdx_append, List.filterMap_append, blank, List.nil_append,
    List.zipIdx_map, List.filterMap_map, List.length_replicate, Nat.zero_add]
  rfl

end BlinkerFluid.RingBuffer
