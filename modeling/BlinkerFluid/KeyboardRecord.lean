import Mathlib.Data.List.Induction
import BlinkerFluid.Keyboard

/-! The record of dismissals, requests and first responders. A dismissal is answered by a
request that comes a cooldown later; the last dismissal without such an answer decides
whether a view may become first responder. -/

namespace BlinkerFluid.KeyboardRecord
open Keyboard

/-- Every dismissal has met a request at least a cooldown later. -/
def Answered (record : List Occurrence) : Prop :=
  ∀ past time mid, record = past ++ .dismissed time :: mid →
    ∃ asked, .requested asked ∈ mid ∧ time + keyboardDismissCooldown ≤ asked

/-- No view becomes first responder before the dismissals so far are answered. -/
def Respects (record : List Occurrence) : Prop :=
  ∀ upTo view, upTo ++ [.responder view] <+: record → Answered upTo

def answerOccurrence (dismissal : Option ℚ) : Occurrence → Option ℚ
  | .dismissed time => some time
  | .requested asked => dismissal.filter fun time => asked < time + keyboardDismissCooldown
  | .responder _ => dismissal

/-- The time of the last dismissal, unless a late enough request has answered it. -/
def unanswered (record : List Occurrence) : Option ℚ := record.foldl answerOccurrence none

def Ordered (record : List Occurrence) : Prop :=
  record.Pairwise fun earlier later => ∀ first second,
    earlier = .dismissed first → later = .dismissed second → first ≤ second

theorem unanswered_snoc (record : List Occurrence) (occurrence : Occurrence) :
    unanswered (record ++ [occurrence]) = answerOccurrence (unanswered record) occurrence := by
  rw [unanswered, List.foldl_append]
  rfl

theorem ordered_snoc {record : List Occurrence} (ordered : Ordered record)
    (occurrence : Occurrence)
    (late : ∀ first second, .dismissed first ∈ record → occurrence = .dismissed second →
      first ≤ second) : Ordered (record ++ [occurrence]) := by
  refine List.pairwise_append.mpr ⟨ordered, List.pairwise_singleton _ _, ?_⟩
  intro earlier mem later single first second atFirst atSecond
  obtain rfl := List.mem_singleton.mp single
  exact late first second (atFirst ▸ mem) atSecond

theorem exists_of_unanswered {record : List Occurrence} {time : ℚ}
    (opened : unanswered record = some time) :
    ∃ past mid, record = past ++ .dismissed time :: mid ∧
      ∀ asked, .requested asked ∈ mid → asked < time + keyboardDismissCooldown := by
  induction record using List.reverseRecOn with
  | nil => cases opened
  | append_singleton record occurrence ih =>
    rw [unanswered_snoc] at opened
    cases occurrence with
    | dismissed latest =>
      obtain rfl : latest = time := Option.some.inj opened
      exact ⟨record, [], rfl, fun asked mem => absurd mem List.not_mem_nil⟩
    | requested asked =>
      obtain ⟨before, early⟩ := Option.filter_eq_some_iff.mp opened
      obtain ⟨past, mid, rfl, all⟩ := ih before
      refine ⟨past, mid ++ [.requested asked], by simp, fun other mem => ?_⟩
      rcases List.mem_append.mp mem with mem | mem
      · exact all other mem
      · cases List.mem_singleton.mp mem
        exact of_decide_eq_true early
    | responder view =>
      obtain ⟨past, mid, rfl, all⟩ := ih opened
      refine ⟨past, mid ++ [.responder view], by simp, fun other mem => ?_⟩
      rcases List.mem_append.mp mem with mem | mem
      · exact all other mem
      · cases List.mem_singleton.mp mem

theorem unanswered_of_unasked (past mid : List Occurrence) (time : ℚ)
    (ordered : Ordered (past ++ .dismissed time :: mid))
    (unasked : ∀ asked, .requested asked ∈ mid → asked < time + keyboardDismissCooldown) :
    ∃ latest, unanswered (past ++ .dismissed time :: mid) = some latest ∧ time ≤ latest := by
  induction mid using List.reverseRecOn with
  | nil => exact ⟨time, unanswered_snoc past (.dismissed time), le_refl time⟩
  | append_singleton mid occurrence ih =>
    have split : past ++ .dismissed time :: (mid ++ [occurrence]) =
        (past ++ .dismissed time :: mid) ++ [occurrence] := by simp
    rw [split] at ordered ⊢
    obtain ⟨latest, opened, after⟩ := ih (List.pairwise_append.mp ordered).1
      fun asked mem => unasked asked (List.mem_append_left _ mem)
    rw [unanswered_snoc, opened]
    cases occurrence with
    | dismissed again =>
      refine ⟨again, rfl, ?_⟩
      exact (List.pairwise_append.mp ordered).2.2 (.dismissed time) (by simp) (.dismissed again)
        List.mem_cons_self time again rfl rfl
    | requested asked =>
      have early : asked < latest + keyboardDismissCooldown :=
        (unasked asked (by simp)).trans_le (by gcongr)
      refine ⟨latest, ?_, after⟩
      simp [answerOccurrence, early]
    | responder view => exact ⟨latest, rfl, after⟩

theorem answered_iff_unanswered {record : List Occurrence} (ordered : Ordered record) :
    Answered record ↔ unanswered record = none := by
  constructor
  · intro answered
    cases opened : unanswered record with
    | none => rfl
    | some time =>
      obtain ⟨past, mid, rfl, all⟩ := exists_of_unanswered opened
      obtain ⟨asked, mem, late⟩ := answered past time mid rfl
      exact absurd late (not_le.mpr (all asked mem))
  · rintro none past time mid rfl
    by_contra open'
    push Not at open'
    obtain ⟨latest, opened, -⟩ := unanswered_of_unasked past mid time ordered open'
    exact Option.some_ne_none latest (opened.symm.trans none)

theorem respects_snoc {record : List Occurrence} (occurrence : Occurrence) :
    Respects (record ++ [occurrence]) ↔
      Respects record ∧ ∀ view, occurrence = .responder view → Answered record := by
  constructor
  · intro respects
    refine ⟨fun upTo view before => respects upTo view ?_, fun view atEnd => ?_⟩
    · exact before.trans (List.prefix_append _ _)
    · exact respects record view (atEnd ▸ List.prefix_rfl)
  · rintro ⟨respects, last⟩ upTo view before
    rcases List.prefix_concat_iff.mp before with atEnd | inside
    · obtain ⟨rfl, single⟩ := List.append_inj' atEnd rfl
      exact last view (List.cons.inj single).1.symm
    · exact respects upTo view inside

theorem respects_snoc_responder {record : List Occurrence} (ordered : Ordered record)
    (view : View) : Respects (record ++ [.responder view]) ↔
      Respects record ∧ unanswered record = none := by
  rw [respects_snoc, ← answered_iff_unanswered ordered]
  exact and_congr_right fun _ => ⟨fun last => last view rfl, fun answered _ _ => answered⟩

theorem respects_append_dismissed (record : List Occurrence) (time : ℚ) (count : ℕ) :
    Respects (record ++ List.replicate count (.dismissed time)) ↔ Respects record := by
  induction count with
  | zero => simp
  | succ count ih =>
    rw [List.replicate_succ', ← List.append_assoc, respects_snoc, ih]
    exact and_iff_left nofun

theorem unanswered_append_dismissed (record : List Occurrence) (time : ℚ) (count : ℕ) :
    unanswered (record ++ List.replicate (count + 1) (.dismissed time)) = some time := by
  rw [List.replicate_succ', ← List.append_assoc, unanswered_snoc]
  rfl

theorem not_respects_dismissed (past : List Occurrence) (time : ℚ) (view : View) :
    ¬Respects (past ++ [.dismissed time, .responder view]) := by
  intro respects
  obtain ⟨asked, mem, -⟩ :=
    respects (past ++ [.dismissed time]) view (by simp) past time [] rfl
  exact List.not_mem_nil mem

theorem respects_nil : Respects [] := by
  intro upTo view before
  simp at before

end BlinkerFluid.KeyboardRecord
