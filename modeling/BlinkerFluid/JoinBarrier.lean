import Mathlib.Data.List.Induction
import Mathlib.Logic.Function.Iterate

/-! Answers that come in any order. A barrier is made for a number of calls and reacts to
the last of them; each answer is put into its slot and calls the barrier, and the slots are
handed over when it reacts. -/

namespace BlinkerFluid.JoinBarrier

/-- What is promised of a barrier ends with the number of calls it was made for. -/
structure Barrier where
  State : Type
  make : ℕ → State
  run : State → State × Bool
  reacts : ∀ total earlier, earlier < total →
    (run ((fun state => (run state).1)^[earlier] (make total))).2 = decide (earlier + 1 = total)

def counter : Barrier where
  State := ℕ
  make := id
  run left := (left - 1, left == 1)
  reacts total earlier pending := by
    have left : (fun state => state - 1)^[earlier] total = total - earlier := by
      clear pending
      induction earlier with
      | zero => rfl
      | succ earlier ih =>
        rw [Function.iterate_succ_apply', ih]
        omega
    have last : total - earlier = 1 ↔ earlier + 1 = total := by omega
    change (_ == 1) = _
    rw [id, left, Bool.eq_iff_iff, beq_iff_eq, decide_eq_true_iff, last]

structure Join (barrier : Barrier) (ρ : Type*) where
  barrier : barrier.State
  results : List ρ
  handedOver : List (List ρ)

variable {barrier : Barrier} {ρ : Type*}

def Join.start (barrier : Barrier) (total : ℕ) (initial : ρ) : Join barrier ρ :=
  ⟨barrier.make total, List.replicate total initial, []⟩

def Join.answer (join : Join barrier ρ) (answer : ℕ × ρ) : Join barrier ρ :=
  let results := join.results.set answer.1 answer.2
  let (state, last) := barrier.run join.barrier
  ⟨state, results, if last then join.handedOver ++ [results] else join.handedOver⟩

def fill (results : List ρ) (answers : List (ℕ × ρ)) : List ρ :=
  answers.foldl (fun results answer => results.set answer.1 answer.2) results

theorem fill_length (answers : List (ℕ × ρ)) (results : List ρ) :
    (fill results answers).length = results.length := by
  induction answers generalizing results with
  | nil => rfl
  | cons answer answers ih => exact (ih _).trans List.length_set

theorem fill_of_notMem {answers : List (ℕ × ρ)} {i : ℕ} (silent : i ∉ answers.map Prod.fst)
    (results : List ρ) : (fill results answers)[i]? = results[i]? := by
  induction answers generalizing results with
  | nil => rfl
  | cons answer answers ih =>
    rw [List.map_cons, List.mem_cons, not_or] at silent
    exact (ih silent.2 _).trans (List.getElem?_set_ne (Ne.symm silent.1))

theorem fill_of_mem {answers : List (ℕ × ρ)} (once : (answers.map Prod.fst).Nodup) {i : ℕ} {r : ρ}
    (answered : (i, r) ∈ answers) {results : List ρ} (slot : i < results.length) :
    (fill results answers)[i]? = some r := by
  induction answers generalizing results with
  | nil => cases answered
  | cons answer answers ih =>
    rw [List.map_cons, List.nodup_cons] at once
    rcases List.mem_cons.mp answered with rfl | later
    · exact (fill_of_notMem once.1 _).trans (List.getElem?_set_self slot)
    · exact ih once.2 later (by rwa [List.length_set])

/-- Up to the number of answers that the barrier was made for, the slots are handed over with
the last answer and not before. -/
theorem foldl_answer (total : ℕ) (initial : ρ) (answers : List (ℕ × ρ))
    (within : answers.length ≤ total) (some_expected : 0 < total) :
    answers.foldl Join.answer (Join.start barrier total initial) =
      ⟨(fun state => (barrier.run state).1)^[answers.length] (barrier.make total),
        fill (List.replicate total initial) answers,
        if answers.length = total then [fill (List.replicate total initial) answers] else []⟩ := by
  induction answers using List.reverseRecOn with
  | nil => simp [Join.start, fill, (Nat.ne_of_lt some_expected)]
  | append_singleton answers answer ih =>
    rw [List.length_append, List.length_singleton] at within
    have pending : answers.length < total := within
    have last := barrier.reacts total answers.length pending
    have filled : fill (List.replicate total initial) (answers ++ [answer]) =
        (fill (List.replicate total initial) answers).set answer.1 answer.2 := by
      rw [fill, List.foldl_append]
      rfl
    rw [List.foldl_append, ih (Nat.le_of_lt pending), List.foldl_cons, List.foldl_nil, Join.answer,
      filled, List.length_append, List.length_singleton, Function.iterate_succ_apply']
    simp only [if_neg (Nat.ne_of_lt pending), List.nil_append, last, decide_eq_true_eq]

end BlinkerFluid.JoinBarrier
