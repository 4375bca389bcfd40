import Mathlib.Data.List.Basic

/-! Runs of a deterministic machine. A run folds a step function over a list of
events; an event may be permitted in some states only. An invariant that every
permitted step preserves holds after every permitted run. -/

namespace BlinkerFluid.StepRun

variable {σ ε : Type*}

/-- Every event of the list is permitted in the state in which it arrives. -/
def Permitted (ok : σ → ε → Prop) (step : σ → ε → σ) : σ → List ε → Prop
  | _, [] => True
  | s, e :: es => ok s e ∧ Permitted ok step (step s e) es

instance Permitted.decidable (ok : σ → ε → Prop) [∀ s e, Decidable (ok s e)]
    (step : σ → ε → σ) : (s : σ) → (es : List ε) → Decidable (Permitted ok step s es)
  | _, [] => isTrue trivial
  | s, e :: es =>
    have := Permitted.decidable ok step (step s e) es
    inferInstanceAs (Decidable (ok s e ∧ Permitted ok step (step s e) es))

variable {ok : σ → ε → Prop} {step : σ → ε → σ}

@[simp] theorem permitted_nil (s : σ) : Permitted ok step s [] := trivial

@[simp] theorem permitted_cons (s : σ) (e : ε) (es : List ε) :
    Permitted ok step s (e :: es) ↔ ok s e ∧ Permitted ok step (step s e) es := Iff.rfl

theorem permitted_append (s : σ) (es fs : List ε) :
    Permitted ok step s (es ++ fs) ↔
      Permitted ok step s es ∧ Permitted ok step (es.foldl step s) fs := by
  induction es generalizing s with
  | nil => simp
  | cons e es ih => simp only [List.cons_append, permitted_cons, List.foldl_cons, ih, and_assoc]

/-- A run is permitted if each of its events is, behind the events before it. -/
theorem permitted_iff_each (s : σ) (es : List ε) :
    Permitted ok step s es ↔ ∀ past e, past ++ [e] <+: es → ok (past.foldl step s) e := by
  constructor
  · rintro permitted past e ⟨rest, rfl⟩
    rw [permitted_append, permitted_append] at permitted
    exact permitted.1.2.1
  · intro each
    induction es generalizing s with
    | nil => trivial
    | cons e es ih =>
      refine ⟨each [] e ⟨es, rfl⟩, ih _ fun past e' ahead => each (e :: past) e' ?_⟩
      exact List.cons_prefix_cons.mpr ⟨rfl, ahead⟩

theorem permitted_past {s : σ} {past es : List ε} (permitted : Permitted ok step s es)
    (before : past <+: es) : Permitted ok step s past := by
  obtain ⟨rest, rfl⟩ := before
  exact ((permitted_append s past rest).mp permitted).1

theorem permitted_and_mem {p : ε → Prop} (s : σ) (es : List ε)
    (permitted : Permitted ok step s es) (all : ∀ e ∈ es, p e) :
    Permitted (fun s e => ok s e ∧ p e) step s es := by
  induction es generalizing s with
  | nil => trivial
  | cons e es ih =>
    exact ⟨⟨permitted.1, all e List.mem_cons_self⟩,
      ih _ permitted.2 fun e' mem => all e' (List.mem_cons_of_mem _ mem)⟩

/-- Two permissions that agree wherever a permitted run can get permit the same runs. -/
theorem permitted_congr_while {inv : σ → Prop} {ok' : σ → ε → Prop}
    (preserved : ∀ s e, inv s → ok' s e → inv (step s e))
    (agree : ∀ s e, inv s → (ok s e ↔ ok' s e)) (s : σ) (es : List ε) (start : inv s) :
    Permitted ok step s es ↔ Permitted ok' step s es := by
  induction es generalizing s with
  | nil => rfl
  | cons e es ih =>
    rw [permitted_cons, permitted_cons, agree s e start]
    exact and_congr_right fun permitted => ih _ (preserved s e start permitted)

theorem permitted_congr {inv : σ → Prop} {ok' : σ → ε → Prop}
    (preserved : ∀ s e, inv s → inv (step s e)) (agree : ∀ s e, inv s → (ok s e ↔ ok' s e)) (s : σ)
    (es : List ε) (start : inv s) : Permitted ok step s es ↔ Permitted ok' step s es :=
  permitted_congr_while (fun s e held _ => preserved s e held) agree s es start

/-- What every permitted step preserves holds at the end of every permitted run. -/
theorem invariant_run {inv : σ → Prop}
    (preserved : ∀ s e, inv s → ok s e → inv (step s e))
    (s : σ) (es : List ε) (start : inv s) (permitted : Permitted ok step s es) :
    inv (es.foldl step s) := by
  induction es generalizing s with
  | nil => exact start
  | cons e es ih => exact ih _ (preserved s e start permitted.1) permitted.2

/-- Where a step that is not permitted is seen in the next state, the runs whose states are
all good are the permitted ones. -/
theorem good_iff_permitted {inv good : σ → Prop}
    (preserved : ∀ s e, inv s → ok s e → inv (step s e)) (sound : ∀ s, inv s → good s)
    (seen : ∀ s e, inv s → ¬ok s e → ¬good (step s e)) (s : σ) (es : List ε) (start : inv s) :
    (∀ past, past <+: es → good (past.foldl step s)) ↔ Permitted ok step s es := by
  constructor
  · intro throughout
    induction es generalizing s with
    | nil => trivial
    | cons e es ih =>
      have permitted : ok s e := by
        by_contra refused
        exact seen s e start refused (throughout [e] ⟨es, rfl⟩)
      refine ⟨permitted, ih _ (preserved s e start permitted) fun past before => ?_⟩
      exact throughout (e :: past) (List.cons_prefix_cons.mpr ⟨rfl, before⟩)
  · intro permitted past before
    exact sound _ (invariant_run preserved s past start (permitted_past permitted before))

/-- Where the permitted steps are those that keep a property, the runs that have it throughout
are the permitted ones. -/
theorem kept_iff_permitted {inv good : σ → Prop}
    (preserved : ∀ s e, inv s → good s → ok s e → inv (step s e))
    (each : ∀ s e, inv s → good s → (good (step s e) ↔ ok s e)) (s : σ) (es : List ε)
    (start : inv s) (holds : good s) :
    (∀ past, past <+: es → good (past.foldl step s)) ↔ Permitted ok step s es := by
  have kept : ∀ s e, inv s ∧ good s → ok s e → inv (step s e) ∧ good (step s e) := by
    rintro s e ⟨known, holds⟩ permitted
    exact ⟨preserved s e known holds permitted, (each s e known holds).mpr permitted⟩
  have seen : ∀ s e, inv s ∧ good s → ¬ok s e → ¬good (step s e) := by
    rintro s e ⟨known, holds⟩ refused still
    exact refused ((each s e known holds).mp still)
  exact good_iff_permitted kept (fun s held => held.2) seen s es ⟨start, holds⟩

/-- Where a property stays lost once a step is not permitted, the runs that end with it
are the permitted ones. -/
theorem lasting_iff_permitted {inv good : σ → Prop}
    (each : ∀ s e, inv s → inv (step s e) ∧ (good (step s e) ↔ good s ∧ ok s e)) (s : σ)
    (es : List ε) (start : inv s) :
    good (es.foldl step s) ↔ good s ∧ Permitted ok step s es := by
  induction es generalizing s with
  | nil => simp
  | cons e es ih =>
    obtain ⟨kept, next⟩ := each s e start
    rw [List.foldl_cons, ih _ kept, next, permitted_cons, and_assoc]

theorem invariant_always {inv : σ → Prop} (preserved : ∀ s e, inv s → inv (step s e)) (s : σ)
    (es : List ε) (start : inv s) : inv (es.foldl step s) := by
  induction es generalizing s with
  | nil => exact start
  | cons e es ih => exact ih _ (preserved s e start)

/-- Two machines side by side run as each of them alone. -/
theorem foldl_prod {τ δ : Type*} (first : σ → ε → σ) (second : τ → δ → τ) (s : σ) (t : τ)
    (pairs : List (ε × δ)) :
    pairs.foldl (fun state pair => (first state.1 pair.1, second state.2 pair.2)) (s, t) =
      ((pairs.map Prod.fst).foldl first s, (pairs.map Prod.snd).foldl second t) := by
  induction pairs generalizing s t with
  | nil => rfl
  | cons pair pairs ih => exact ih _ _

/-! A machine that answers each event. -/

section Outputs

variable {ο : Type*} (answer : σ → ε → σ × ο)

def stateAfter (s : σ) (es : List ε) : σ := es.foldl (fun s e => (answer s e).1) s

def outputs : σ → List ε → List ο
  | _, [] => []
  | s, e :: es => (answer s e).2 :: outputs (answer s e).1 es

theorem outputs_append (s : σ) (es fs : List ε) :
    outputs answer s (es ++ fs) =
      outputs answer s es ++ outputs answer (stateAfter answer s es) fs := by
  induction es generalizing s with
  | nil => rfl
  | cons e es ih => exact congrArg (_ :: ·) (ih _)

end Outputs

end BlinkerFluid.StepRun
