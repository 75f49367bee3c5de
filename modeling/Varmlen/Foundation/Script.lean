import Varmlen.Foundation.Effect

/-!
# Scripts

Actions that are carried out one after the other, up to the first that fails.  What a
script leaves behind when it fails is what the actions before that one leave behind,
together with the traces of the failure.
-/

namespace Foundation.Script

open Foundation.Effect

variable {Action State ε : Type} (perform : Action → State → Except ε Unit × State)

def run : List Action → State → Except ε Unit × State
  | [], state => (.ok (), state)
  | action :: rest, state => andThen (perform action state) fun _ => run rest

variable {perform} {actions : List Action} {state final : State} {error : ε}

theorem run_append (first rest : List Action) (state : State) :
    run perform (first ++ rest) state =
      andThen (run perform first state) fun _ => run perform rest := by
  induction first generalizing state with
  | nil => rfl
  | cons action first ih =>
      rw [List.cons_append, run, run]
      rcases perform action state with ⟨result, left⟩
      cases result with
      | error error => rfl
      | ok done => exact ih left

/-- A script that succeeds does so part by part. -/
theorem run_append_eq_ok {first rest : List Action} :
    run perform (first ++ rest) state = (.ok (), final) ↔
      ∃ reached, run perform first state = (.ok (), reached) ∧
        run perform rest reached = (.ok (), final) := by
  rw [run_append]
  cases ran : run perform first state with
  | mk result reached =>
      cases result with
      | error error => simp [andThen]
      | ok done => simp [andThen]

/-- A script that fails has carried out the actions before the one that failed. -/
theorem exists_of_run_error (failed : run perform actions state = (.error error, final)) :
    ∃ done action rest reached, actions = done ++ action :: rest ∧
      run perform done state = (.ok (), reached) ∧
      perform action reached = (.error error, final) := by
  induction actions generalizing state with
  | nil => cases failed
  | cons action rest ih =>
      rw [run] at failed
      cases outcome : perform action state with
      | mk result left =>
          rw [outcome] at failed
          cases result with
          | error other =>
              cases failed
              exact ⟨[], action, rest, state, rfl, rfl, outcome⟩
          | ok done =>
              rcases ih failed with ⟨before, failing, after, reached, parts, ran, fails⟩
              refine ⟨action :: before, failing, after, reached, ?_, ?_, fails⟩
              · rw [parts, List.cons_append]
              · rw [run, outcome]
                exact ran

/-- Where a script with a loop and a step after it can stop. -/
theorem stop_cases {before loop after done rest : List Action} {step action : Action}
    (parts : before ++ loop ++ step :: after = done ++ action :: rest) :
    (∃ left, before = done ++ action :: left) ∨
      (∃ passed left, done = before ++ passed ∧ loop = passed ++ action :: left) ∨
      action = step ∨ ∃ more, done = before ++ loop ++ step :: more ∧
        after = more ++ action :: rest := by
  rcases List.append_eq_append_iff.1 parts with ⟨more, isDone, left⟩ | ⟨left, isLoop, isRest⟩
  · cases more with
    | nil => exact .inr (.inr (.inl (List.head_eq_of_cons_eq left).symm))
    | cons first more =>
        rw [List.cons_append, List.cons.injEq] at left
        exact .inr (.inr (.inr ⟨more, left.1 ▸ isDone, left.2⟩))
  · cases left with
    | nil => exact .inr (.inr (.inl (List.head_eq_of_cons_eq isRest)))
    | cons first left =>
        rw [List.cons_append, List.cons.injEq] at isRest
        rw [← isRest.1] at isLoop
        rcases List.append_eq_append_iff.1 isLoop with
          ⟨passed, isDone, inside⟩ | ⟨behind, isBefore, behindParts⟩
        · exact .inr (.inl ⟨passed, left, isDone, inside⟩)
        · cases behind with
          | nil =>
              rw [List.append_nil] at isBefore
              exact .inr (.inl ⟨[], left, by rw [isBefore, List.append_nil],
                behindParts.symm⟩)
          | cons second behind =>
              rw [List.cons_append, List.cons.injEq] at behindParts
              exact .inl ⟨behind, behindParts.1 ▸ isBefore⟩

end Foundation.Script
