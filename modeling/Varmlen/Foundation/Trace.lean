import Mathlib.Data.List.Basic
import Mathlib.Data.Option.Basic

/-!
# Ordering properties of event traces

A trace lists events in the order they happened.  The two ordering properties
used for call traces are stated by splitting the trace at the events concerned,
and come with rules that consume a concrete trace event by event.
-/

namespace Foundation.Trace

variable {Event : Type}

/-- Every event satisfying `target` happens after one satisfying `required`. -/
def PrecededBy (required target : Event → Prop) (trace : List Event) : Prop :=
  ∀ before event after, trace = before ++ event :: after → target event →
    ∃ earlier ∈ before, required earlier

/-- The part of the trace after the first event satisfying `marker`. -/
def afterFirst (marker : Event → Bool) (trace : List Event) : List Event :=
  (trace.dropWhile fun event => !marker event).tail

/-- Between any two events satisfying `opens` there is one satisfying
`closes`. -/
def Alternates (opens closes : Event → Prop) (trace : List Event) : Prop :=
  ∀ before first between second after,
    trace = before ++ first :: between ++ second :: after →
    opens first → opens second → ∃ event ∈ between, closes event

@[simp] theorem afterFirst_nil {marker : Event → Bool} : afterFirst marker [] = [] := rfl

@[simp] theorem afterFirst_cons {marker : Event → Bool} {event : Event}
    {rest : List Event} :
    afterFirst marker (event :: rest) =
      if marker event then rest else afterFirst marker rest := by
  cases found : marker event <;> simp [afterFirst, List.dropWhile, found]

theorem afterFirst_of_unmarked {marker : Event → Bool} {trace : List Event}
    (unmarked : ∀ event ∈ trace, marker event = false) :
    afterFirst marker trace = [] := by
  induction trace with
  | nil => rfl
  | cons event rest ih =>
      rw [afterFirst_cons, unmarked event (by simp)]
      exact ih fun event member => unmarked event (by simp [member])

section PrecededBy

variable {required target : Event → Prop}

@[simp] theorem precededBy_nil : PrecededBy required target [] := by
  intro before event after split
  simp at split

@[simp] theorem precededBy_cons {event : Event} {rest : List Event} :
    PrecededBy required target (event :: rest) ↔
      ¬target event ∧ (required event ∨ PrecededBy required target rest) := by
  constructor
  · intro ordered
    refine ⟨fun isTarget => ?_, ?_⟩
    · simpa using ordered [] event rest rfl isTarget
    · by_cases isRequired : required event
      · exact .inl isRequired
      · right
        intro before later after split isTarget
        rcases ordered (event :: before) later after (by simp [split]) isTarget with
          ⟨earlier, member, found⟩
        rcases List.mem_cons.mp member with rfl | member
        · exact absurd found isRequired
        · exact ⟨earlier, member, found⟩
  · intro ⟨notTarget, reason⟩ before later after split isTarget
    cases before with
    | nil =>
        have same : event = later := by simpa using (List.cons.inj split).1
        exact absurd (same ▸ isTarget) notTarget
    | cons head before =>
        rcases List.cons.inj split with ⟨rfl, restSplit⟩
        rcases reason with isRequired | ordered
        · exact ⟨event, by simp, isRequired⟩
        · rcases ordered before later after restSplit isTarget with ⟨earlier, member, found⟩
          exact ⟨earlier, by simp [member], found⟩

theorem precededBy_of_untargeted {trace : List Event}
    (untargeted : ∀ event ∈ trace, ¬target event) :
    PrecededBy required target trace := by
  intro before event after split isTarget
  exact absurd isTarget (untargeted event (by simp [split]))

/-- A part of the trace that meets the requirement and holds no target settles
what follows it. -/
theorem precededBy_append {left right : List Event}
    (untargeted : ∀ event ∈ left, ¬target event)
    (met : ∃ event ∈ left, required event) :
    PrecededBy required target (left ++ right) := by
  rcases met with ⟨event, member, isRequired⟩
  induction left with
  | nil => simp at member
  | cons head rest ih =>
      rw [List.cons_append, precededBy_cons]
      refine ⟨untargeted head (by simp), ?_⟩
      rcases List.mem_cons.mp member with rfl | later
      · exact .inl isRequired
      · exact .inr (ih (fun event member => untargeted event (by simp [member])) later)

end PrecededBy

section Alternates

variable {opens closes : Event → Prop}

@[simp] theorem alternates_nil : Alternates opens closes [] := by
  intro before first between second after split
  simp at split

theorem alternates_cons {event : Event} {rest : List Event} :
    Alternates opens closes (event :: rest) ↔
      (opens event → PrecededBy closes opens rest) ∧
        Alternates opens closes rest := by
  constructor
  · intro alternate
    refine ⟨fun opened => ?_, ?_⟩
    · intro between second after split opensSecond
      exact alternate [] event between second after (by simp [split]) opened opensSecond
    · intro before first between second after split
      exact alternate (event :: before) first between second after (by simp [split])
  · intro ⟨closedAgain, alternate⟩ before first between second after split opensFirst
    cases before with
    | nil =>
        rcases List.cons.inj split with ⟨rfl, restSplit⟩
        exact closedAgain opensFirst between second after restSplit
    | cons head before =>
        rcases List.cons.inj split with ⟨rfl, restSplit⟩
        exact alternate before first between second after restSplit opensFirst

end Alternates

/-- Monitor for `Alternates`: it remembers whether the last relevant event was
an opening one, and fails at an opening that was not closed before. -/
def monitor (opens closes : Event → Bool) : Bool → List Event → Option Bool
  | pending, [] => some pending
  | pending, event :: rest =>
      if opens event then
        if pending then none else monitor opens closes true rest
      else monitor opens closes (pending && !closes event) rest

section Monitor

variable {opens closes : Event → Bool}

theorem monitor_append (left right : List Event) (pending : Bool) :
    monitor opens closes pending (left ++ right) =
      (monitor opens closes pending left).bind
        fun next => monitor opens closes next right := by
  induction left generalizing pending with
  | nil => rfl
  | cons event rest ih =>
      simp only [List.cons_append, monitor]
      split
      · split
        · rfl
        · exact ih true
      · exact ih _

private theorem monitor_isSome_iff
    (disjoint : ∀ event, opens event = true → closes event = false)
    (trace : List Event) (pending : Bool) :
    (monitor opens closes pending trace).isSome = true ↔
      Alternates (opens · = true) (closes · = true) trace ∧
        (pending = true → PrecededBy (closes · = true) (opens · = true) trace) := by
  induction trace generalizing pending with
  | nil => simp [monitor]
  | cons event rest ih =>
      rw [monitor, alternates_cons, precededBy_cons]
      cases opened : opens event with
      | true =>
          have notClosed := disjoint event opened
          cases pending <;> simp [ih, notClosed, and_comm]
      | false =>
          cases closed : closes event <;> cases pending <;> simp [ih]

/-- The monitor accepts exactly the traces in which openings alternate. -/
theorem alternates_iff_monitor
    (disjoint : ∀ event, opens event = true → closes event = false)
    (trace : List Event) :
    Alternates (opens · = true) (closes · = true) trace ↔
      (monitor opens closes false trace).isSome = true := by
  simp [monitor_isSome_iff disjoint]

end Monitor

end Foundation.Trace
