import Mathlib.Logic.Basic

namespace Runs

variable {σ ε : Type*}

/-- The states a partial step function reaches from `init` through steps that meet `allowed`. -/
inductive Run (step : σ → ε → Option σ) (allowed : σ → ε → Prop) (init : σ → Prop) : σ → Prop where
  | start {state : σ} (initial : init state) : Run step allowed init state
  | next {state after : σ} {event : ε} (before : Run step allowed init state) (meets : allowed state event)
      (taken : step state event = some after) : Run step allowed init after

variable {step : σ → ε → Option σ} {allowed : σ → ε → Prop} {init : σ → Prop}

/-- What holds initially and is kept by every allowed step holds in every state of every run. -/
theorem Run.invariant {inv : σ → Prop} {state : σ} (run : Run step allowed init state)
    (base : ∀ s, init s → inv s)
    (kept : ∀ s event after, inv s → allowed s event → step s event = some after → inv after) :
    inv state := by
  induction run with
  | start initial => exact base _ initial
  | next _ meets taken ih => exact kept _ _ _ ih meets taken

theorem Run.weaken {other : σ → ε → Prop} {state : σ} (run : Run step allowed init state)
    (weaker : ∀ s event, allowed s event → other s event) : Run step other init state := by
  induction run with
  | start initial => exact .start initial
  | next _ meets taken ih => exact .next ih (weaker _ _ meets) taken

theorem Run.append {state after : σ} (first : Run step allowed init state)
    (second : Run step allowed (fun s => s = state) after) : Run step allowed init after := by
  induction second with
  | start initial =>
    subst initial
    exact first
  | next _ meets taken ih => exact .next ih meets taken

theorem Run.uncons {start state : σ} (run : Run step allowed (fun s => s = start) state) :
    state = start ∨ ∃ event next, allowed start event ∧ step start event = some next ∧
      Run step allowed (fun s => s = next) state := by
  induction run with
  | start initial => exact .inl initial
  | next _ meets taken ih =>
    rcases ih with rfl | ⟨event, next, allows, first, rest⟩
    · exact .inr ⟨_, _, meets, taken, .start rfl⟩
    · exact .inr ⟨event, next, allows, first, .next rest meets taken⟩

def execute (step : σ → ε → Option σ) : σ → List ε → Option σ
  | state, [] => some state
  | state, event :: events => (step state event).bind fun after => execute step after events

theorem Run.of_execute {state after : σ} {events : List ε} (every : ∀ s event, allowed s event)
    (executed : execute step state events = some after) : Run step allowed (fun s => s = state) after := by
  induction events generalizing state with
  | nil =>
    cases executed
    exact .start rfl
  | cons event events ih =>
    obtain ⟨middle, taken, rest⟩ := Option.bind_eq_some_iff.mp executed
    have first : Run step allowed (fun s => s = state) middle := .next (.start rfl) (every _ _) taken
    exact first.append (ih rest)

section Records

variable {γ : Type*} {record : σ → ε → σ → γ → γ}

/-- The step function together with a record that is kept of the steps. -/
def recorded (step : σ → ε → Option σ) (record : σ → ε → σ → γ → γ) (state : σ × γ) (event : ε) : Option (σ × γ) :=
  (step state.1 event).map fun after => (after, record state.1 event after state.2)

theorem recorded_eq_some {state after : σ × γ} {event : ε} :
    recorded step record state event = some after ↔
      step state.1 event = some after.1 ∧ after.2 = record state.1 event after.1 state.2 := by
  unfold recorded
  rw [Option.map_eq_some_iff]
  constructor
  · rintro ⟨middle, taken, rfl⟩
    exact ⟨taken, rfl⟩
  · intro ⟨taken, same⟩
    exact ⟨after.1, taken, Prod.ext rfl same.symm⟩

end Records

end Runs
