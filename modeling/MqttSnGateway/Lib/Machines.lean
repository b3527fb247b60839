import Mathlib.Data.List.Basic

namespace Machines

variable {σ τ ι ρ : Type*}

/-- The results of a machine that takes one input after the other, and its last state. -/
def run (step : σ → ι → ρ × σ) : σ → List ι → List ρ × σ
  | state, [] => ([], state)
  | state, input :: inputs =>
    let (result, after) := step state input
    let (results, last) := run step after inputs
    (result :: results, last)

/-- Every input is allowed in the state that it meets. -/
def Along (step : σ → ι → ρ × σ) (allowed : σ → ι → Prop) : σ → List ι → Prop
  | _, [] => True
  | state, input :: inputs => allowed state input ∧ Along step allowed (step state input).2 inputs

instance Along.decide {step : σ → ι → ρ × σ} {allowed : σ → ι → Prop} [∀ state input, Decidable (allowed state input)] :
    (state : σ) → (inputs : List ι) → Decidable (Along step allowed state inputs)
  | _, [] => inferInstanceAs (Decidable True)
  | state, input :: inputs =>
    have : Decidable (Along step allowed (step state input).2 inputs) := Along.decide (step state input).2 inputs
    inferInstanceAs (Decidable (allowed state input ∧ Along step allowed (step state input).2 inputs))

variable {step : σ → ι → ρ × σ} {other : τ → ι → ρ × τ} {related : σ → τ → Prop} {allowed : τ → ι → Prop}

end Machines
