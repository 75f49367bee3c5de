import Mathlib.Data.List.Basic

/-!
# Runs of a deterministic step function

A machine is a step function `State → Input → State`.  Nondeterminism of its
environment is carried by the inputs, so quantifying over input lists is the
same as quantifying over every behaviour of the environment.  The rules below
turn a fact about one step into a fact about every state of every run.
-/

namespace Foundation.Run

variable {State Input : Type}

/-- Every state visited by a run, the initial one first. -/
def states (step : State → Input → State) : State → List Input → List State
  | state, [] => [state]
  | state, input :: rest => state :: states step (step state input) rest

/-- `property` holds at each step of the run, between the state the step starts
from and the input it consumes. -/
def EveryStep (step : State → Input → State)
    (property : State → Input → Prop) : State → List Input → Prop
  | _, [] => True
  | state, input :: rest =>
      property state input ∧ EveryStep step property (step state input) rest

/-- `property` holds in every state the run visits. -/
def Always (step : State → Input → State) (property : State → Prop)
    (state : State) (inputs : List Input) : Prop :=
  ∀ visited ∈ states step state inputs, property visited

variable {step : State → Input → State}

instance {property : State → Prop} [DecidablePred property] (state : State)
    (inputs : List Input) : Decidable (Always step property state inputs) :=
  inferInstanceAs (Decidable (∀ _ ∈ _, _))

@[simp] theorem always_nil {property : State → Prop} {state : State} :
    Always step property state [] ↔ property state := by
  simp [Always, states]

@[simp] theorem always_cons {property : State → Prop} {state : State}
    {input : Input} {rest : List Input} :
    Always step property state (input :: rest) ↔
      property state ∧ Always step property (step state input) rest := by
  simp [Always, states]

theorem everyStep_append {property : State → Input → Prop} {state : State}
    {inputs more : List Input} :
    EveryStep step property state (inputs ++ more) ↔
      EveryStep step property state inputs ∧
        EveryStep step property (inputs.foldl step state) more := by
  induction inputs generalizing state with
  | nil => simp [EveryStep]
  | cons input rest ih => simp [EveryStep, ih, and_assoc]

/-- An invariant that every step of the run preserves holds where the run ends. -/
theorem invariant_foldl {invariant : State → Prop} {condition : State → Input → Prop}
    (preserved : ∀ state input, invariant state → condition state input →
      invariant (step state input)) :
    (inputs : List Input) → (state : State) → invariant state →
      EveryStep step condition state inputs → invariant (inputs.foldl step state)
  | [], _, initial, _ => initial
  | input :: rest, state, initial, ⟨first, others⟩ =>
      invariant_foldl preserved rest (step state input)
        (preserved state input initial first) others

/-- An invariant that every step of the run preserves holds in every state. -/
theorem always_of_invariant {invariant property : State → Prop}
    {condition : State → Input → Prop}
    (sound : ∀ state, invariant state → property state)
    (preserved : ∀ state input, invariant state → condition state input →
      invariant (step state input)) :
    (inputs : List Input) → (state : State) → invariant state →
      EveryStep step condition state inputs → Always step property state inputs
  | [], state, initial, _ => always_nil.2 (sound state initial)
  | input :: rest, state, initial, ⟨first, others⟩ =>
      always_cons.2 ⟨sound state initial,
        always_of_invariant sound preserved rest (step state input)
          (preserved state input initial first) others⟩

theorem everyStep_true : (inputs : List Input) → (state : State) →
    EveryStep step (fun _ _ => True) state inputs
  | [], _ => trivial
  | _ :: rest, _ => ⟨trivial, everyStep_true rest _⟩

theorem everyStep_of_forall {condition : Input → Prop} :
    (inputs : List Input) → (state : State) → (∀ input ∈ inputs, condition input) →
      EveryStep step (fun _ input => condition input) state inputs
  | [], _, _ => trivial
  | _ :: rest, _, all =>
      ⟨all _ List.mem_cons_self,
        everyStep_of_forall rest _ fun input member => all input (List.mem_cons_of_mem _ member)⟩

/-- A property of single steps that holds wherever the invariant does. -/
theorem everyStep_of_invariant {invariant : State → Prop}
    {condition property : State → Input → Prop}
    (preserved : ∀ state input, invariant state → condition state input →
      invariant (step state input))
    (sound : ∀ state input, invariant state → condition state input →
      property state input) :
    (inputs : List Input) → (state : State) → invariant state →
      EveryStep step condition state inputs → EveryStep step property state inputs
  | [], _, _, _ => trivial
  | input :: rest, state, initial, ⟨first, others⟩ =>
      ⟨sound state input initial first,
        everyStep_of_invariant preserved sound rest (step state input)
          (preserved state input initial first) others⟩

/-- Exactness rule.  The invariant makes the state good, and a step from a state
that satisfies it leads to a good state precisely under `condition`, which also
preserves the invariant.  Then the runs that stay good are precisely those whose
steps all meet `condition`. -/
theorem always_iff_everyStep {invariant good : State → Prop}
    {condition : State → Input → Prop}
    (sound : ∀ state, invariant state → good state)
    (exact : ∀ state input, invariant state →
      (good (step state input) ↔ condition state input))
    (preserved : ∀ state input, invariant state → condition state input →
      invariant (step state input)) :
    (inputs : List Input) → (state : State) → invariant state →
      (Always step good state inputs ↔ EveryStep step condition state inputs)
  | [], state, initial => by simp [EveryStep, sound state initial]
  | input :: rest, state, initial => by
      rw [always_cons, EveryStep]
      constructor
      · intro ⟨_, reached⟩
        have next : good (step state input) := by
          apply reached
          cases rest <;> simp [states]
        have met := (exact state input initial).mp next
        have kept := preserved state input initial met
        exact ⟨met, (always_iff_everyStep sound exact preserved rest _ kept).mp reached⟩
      · intro ⟨met, others⟩
        have kept := preserved state input initial met
        exact ⟨sound state initial,
          (always_iff_everyStep sound exact preserved rest _ kept).mpr others⟩

/-- The exactness rule for a property that is its own invariant. -/
theorem always_iff_everyStep_self {good : State → Prop}
    {condition : State → Input → Prop}
    (exact : ∀ state input, good state →
      (good (step state input) ↔ condition state input)) :
    (inputs : List Input) → (state : State) → good state →
      (Always step good state inputs ↔ EveryStep step condition state inputs) :=
  always_iff_everyStep (fun _ initial => initial) exact
    fun state input initial met => (exact state input initial).mpr met

end Foundation.Run
