import Mathlib.Data.Option.Basic

/-!
# Sequences of checks

A check fails with an error or hands a value on.  What passes a sequence of checks has
passed each of them.
-/

namespace Foundation.Checks

variable {ε α β : Type}

/-- Fail with the error if the condition holds. -/
def refuseIf (condition : Bool) (error : ε) : Except ε Unit :=
  if condition then .error error else .ok ()

/-- Fail with the error unless there is a value. -/
def needed (value : Option α) (error : ε) : Except ε α :=
  match value with
  | some value => .ok value
  | none => .error error

theorem bind_eq_ok {check : Except ε α} {next : α → Except ε β} {result : β} :
    (check >>= next) = .ok result ↔ ∃ value, check = .ok value ∧ next value = .ok result := by
  cases check with
  | error error => simp [bind, Except.bind]
  | ok value => simp [bind, Except.bind]

theorem refuseIf_eq_ok {condition : Bool} {error : ε} {done : Unit} :
    refuseIf condition error = .ok done ↔ condition = false := by
  cases condition with
  | false => simp [refuseIf]
  | true => simp [refuseIf]

theorem needed_eq_ok {value : Option α} {error : ε} {found : α} :
    needed value error = .ok found ↔ value = some found := by
  cases value with
  | none => simp [needed]
  | some value => simp [needed]

/-! ## Checks of all the items of a list -/

section All

variable {check : α → Except ε β} {items : List α} {results : List β}

/-- What comes out of a list that passes comes from its items. -/
theorem mem_of_mapM (all : items.mapM check = .ok results) (result : β) :
    result ∈ results ↔ ∃ item ∈ items, check item = .ok result := by
  induction items generalizing results with
  | nil =>
      cases all
      simp
  | cons item rest ih =>
      rw [List.mapM_cons, bind_eq_ok] at all
      obtain ⟨value, first, more⟩ := all
      rw [bind_eq_ok] at more
      obtain ⟨values, others, same⟩ := more
      cases same
      simp [ih others, first, eq_comm]

/-- Every item of a list that passes has passed. -/
theorem forall_of_mapM (all : items.mapM check = .ok results) :
    ∀ item ∈ items, ∃ result, check item = .ok result := by
  induction items generalizing results with
  | nil => simp
  | cons item rest ih =>
      rw [List.mapM_cons, bind_eq_ok] at all
      obtain ⟨value, first, more⟩ := all
      rw [bind_eq_ok] at more
      obtain ⟨values, others, _⟩ := more
      rw [List.forall_mem_cons]
      exact ⟨⟨value, first⟩, ih others⟩

end All

end Foundation.Checks
