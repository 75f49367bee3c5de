import Mathlib.Data.Option.Basic

/-!
# Fallible computations that keep their effects

A fallible call returns a result together with the state it leaves behind; a
failing call keeps the effects it had before it failed.  `andThen` is the
sequencing of such calls, and `Ends` the statement of what holds at their two
kinds of end, with one rule for each way of composing calls.
-/

namespace Foundation.Effect

variable {ε α β State : Type}

/-- Go on with the value of a call, or end with its error. -/
def andThen (first : Except ε α × State) (next : α → State → Except ε β × State) :
    Except ε β × State :=
  match first with
  | (.error error, state) => (.error error, state)
  | (.ok value, state) => next value state

/-- Report a call's error under another name. -/
def mapError {δ : Type} (rename : ε → δ) (outcome : Except ε α × State) :
    Except δ α × State :=
  match outcome with
  | (.error error, state) => (.error (rename error), state)
  | (.ok value, state) => (.ok value, state)

/-- Fail with the given error, if there is one, and succeed otherwise. -/
def failing (failure : Option ε) (state : State) : Except ε Unit × State :=
  match failure with
  | some error => (.error error, state)
  | none => (.ok (), state)

theorem failing_state (failure : Option ε) (state : State) :
    (failing failure state).2 = state := by
  cases failure <;> rfl

/-- What holds when a call ends with a value, and when it ends with an error. -/
def Ends (ok : α → State → Prop) (failed : ε → State → Prop) :
    Except ε α × State → Prop
  | (.ok value, state) => ok value state
  | (.error error, state) => failed error state

section Rules

variable {ok : α → State → Prop} {failed : ε → State → Prop}
variable {outcome : Except ε α × State}

theorem ends_mono {ok' : α → State → Prop} {failed' : ε → State → Prop}
    (ends : Ends ok failed outcome)
    (onOk : ∀ value state, ok value state → ok' value state)
    (onError : ∀ error state, failed error state → failed' error state) :
    Ends ok' failed' outcome := by
  rcases outcome with ⟨result, state⟩
  cases result with
  | ok value => exact onOk value state ends
  | error error => exact onError error state ends

theorem ends_andThen {ok' : β → State → Prop}
    {next : α → State → Except ε β × State} (first : Ends ok failed outcome)
    (rest : ∀ value state, ok value state → Ends ok' failed (next value state)) :
    Ends ok' failed (andThen outcome next) := by
  rcases outcome with ⟨result, state⟩
  cases result with
  | ok value => exact rest value state first
  | error error => exact first

theorem ends_mapError {δ : Type} {rename : ε → δ} {failed' : δ → State → Prop}
    (ends : Ends ok (fun error state => failed' (rename error) state) outcome) :
    Ends ok failed' (mapError rename outcome) := by
  rcases outcome with ⟨result, state⟩
  cases result with
  | ok value => exact ends
  | error error => exact ends

theorem ends_failing {ok : Unit → State → Prop} {failure : Option ε} {state : State}
    (onOk : failure = none → ok () state)
    (onError : ∀ error, failure = some error → failed error state) :
    Ends ok failed (failing failure state) := by
  cases failure with
  | none => exact onOk rfl
  | some error => exact onError error rfl

/-- `failing` changes nothing. -/
theorem ends_failing_same {property : State → Prop} {failure : Option ε} {state : State}
    (holds : property state) :
    Ends (fun _ => property) (fun _ => property) (failing failure state) :=
  ends_failing (fun _ => holds) (fun _ _ => holds)

/-- A fact about the state alone, whichever way the call ends. -/
theorem ends_iff_state {property : State → Prop} :
    Ends (fun _ state => property state) (fun _ state => property state) outcome ↔
      property outcome.2 := by
  rcases outcome with ⟨result, state⟩
  cases result <;> exact Iff.rfl

end Rules

end Foundation.Effect
