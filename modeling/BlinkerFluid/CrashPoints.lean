import Mathlib.Data.List.Basic

/-! Programs that may die at any moment. A process returns a value and a final state,
together with every state it has passed through on the way, so that a property of
the store at each crash point is a property of the states passed. Only an atomic step
changes the state. -/

namespace BlinkerFluid.CrashPoints

structure Outcome (σ α : Type) where
  value : α
  state : σ
  passed : List σ

structure Process (σ α : Type) where
  run : σ → Outcome σ α

variable {σ α β : Type}

namespace Process

def pure (a : α) : Process σ α := ⟨fun s => ⟨a, s, []⟩⟩

def bind (m : Process σ α) (f : α → Process σ β) : Process σ β := ⟨fun s =>
  let first := m.run s
  let second := (f first.value).run first.state
  ⟨second.value, second.state, first.passed ++ second.passed⟩⟩

instance : Monad (Process σ) where
  pure := Process.pure
  bind := Process.bind

def atomically (f : σ → σ) : Process σ Unit := ⟨fun s => ⟨(), f s, [f s]⟩⟩

def get : Process σ σ := ⟨fun s => ⟨s, s, []⟩⟩

end Process

/-- The store may be found in any of these states if the process dies. -/
def crashStates (m : Process σ α) (s : σ) : List σ := s :: (m.run s).passed

/-- Run from this state, the process has a property at its end and after each step. -/
def Keeps (P : σ → Prop) (m : Process σ α) (s : σ) : Prop :=
  P (m.run s).state ∧ ∀ t ∈ (m.run s).passed, P t

@[simp] theorem run_pure (a : α) (s : σ) : (pure a : Process σ α).run s = ⟨a, s, []⟩ := rfl

@[simp] theorem run_atomically (f : σ → σ) (s : σ) :
    (Process.atomically f).run s = ⟨(), f s, [f s]⟩ := rfl

@[simp] theorem run_get (s : σ) : (Process.get : Process σ σ).run s = ⟨s, s, []⟩ := rfl

theorem run_bind (m : Process σ α) (f : α → Process σ β) (s : σ) :
    (m >>= f).run s =
      ⟨((f (m.run s).value).run (m.run s).state).value,
        ((f (m.run s).value).run (m.run s).state).state,
        (m.run s).passed ++ ((f (m.run s).value).run (m.run s).state).passed⟩ := rfl

@[simp] theorem run_bind_value (m : Process σ α) (f : α → Process σ β) (s : σ) :
    ((m >>= f).run s).value = ((f (m.run s).value).run (m.run s).state).value := rfl

@[simp] theorem run_bind_state (m : Process σ α) (f : α → Process σ β) (s : σ) :
    ((m >>= f).run s).state = ((f (m.run s).value).run (m.run s).state).state := rfl

@[simp] theorem run_bind_passed (m : Process σ α) (f : α → Process σ β) (s : σ) :
    ((m >>= f).run s).passed =
      (m.run s).passed ++ ((f (m.run s).value).run (m.run s).state).passed := rfl

@[simp] theorem run_get_bind (f : σ → Process σ β) (s : σ) :
    (Process.get >>= f).run s = (f s).run s := rfl

@[simp] theorem run_ite (c : Prop) [Decidable c] (m n : Process σ α) (s : σ) :
    (if c then m else n).run s = if c then m.run s else n.run s := by
  by_cases holds : c <;> simp [holds]

variable {P : σ → Prop} {s : σ}

theorem keeps_pure (here : P s) (a : α) : Keeps P (pure a : Process σ α) s := ⟨here, by simp⟩

theorem keeps_atomically {f : σ → σ} (after : P (f s)) : Keeps P (Process.atomically f) s :=
  ⟨after, by simpa using after⟩

theorem keeps_get_bind {f : σ → Process σ β} (rest : Keeps P (f s) s) :
    Keeps P (Process.get >>= f) s := by
  simpa [Keeps] using rest

theorem keeps_bind {m : Process σ α} {f : α → Process σ β} (first : Keeps P m s)
    (second : Keeps P (f (m.run s).value) (m.run s).state) : Keeps P (m >>= f) s := by
  refine ⟨second.1, fun t mem => ?_⟩
  rcases List.mem_append.mp mem with mem | mem
  · exact first.2 t mem
  · exact second.2 t mem

theorem keeps_crashStates {m : Process σ α} (here : P s) (keeps : Keeps P m s) :
    ∀ t ∈ crashStates m s, P t := by
  intro t mem
  rcases List.mem_cons.mp mem with rfl | mem
  · exact here
  · exact keeps.2 t mem

end BlinkerFluid.CrashPoints
