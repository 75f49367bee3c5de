import Mathlib.Data.List.DropRight

/-!
# The end of a text in whole lines

A text whose lines each end with a separator, the last one perhaps without it.  A part at
its end consists of whole lines when it begins where the text does or directly after a
separator; of the parts that fit a limit there is a longest one, and a window of that size
shows where it begins.
-/

namespace Foundation.Lines

variable {α : Type}

/-- A line begins after these parts of a text. -/
def AtLineStart (separator : α) (front : List α) : Prop :=
  front = [] ∨ front.getLast? = some separator

/-- A part at the end of a text that begins with a line. -/
def WholeLines (separator : α) (text lines : List α) : Prop :=
  ∃ front, text = front ++ lines ∧ AtLineStart separator front

/-- The most of a text's last lines that fit a limit. -/
structure LongestLines (separator : α) (limit : Nat) (text lines : List α) : Prop where
  whole : WholeLines separator text lines
  fits : lines.length ≤ limit
  longest : ∀ other, WholeLines separator text other → other.length ≤ limit →
    other.length ≤ lines.length

section Windows

variable {separator : α} {front window other rest before : List α}

/-- Whole lines that fit a window are all of it, or begin after a separator in it. -/
theorem WholeLines.inside (whole : WholeLines separator (front ++ window) other)
    (fits : other.length ≤ window.length) :
    (other = window ∧ AtLineStart separator front) ∨
      ∃ before, window = before ++ separator :: other := by
  rcases whole with ⟨lead, text, starts⟩
  have isSuffix : other <:+ window :=
    List.suffix_of_suffix_length_le ⟨lead, text.symm⟩ (List.suffix_append _ _) fits
  rcases isSuffix with ⟨between, rfl⟩
  rw [← List.append_assoc, List.append_cancel_right_eq] at text
  subst text
  cases between using List.reverseRecOn with
  | nil =>
      left
      rw [List.append_nil] at starts
      exact ⟨rfl, starts⟩
  | append_singleton before last =>
      right
      rw [← List.append_assoc] at starts
      rcases starts with none | isLast
      · simp at none
      · rw [List.getLast?_concat] at isLast
        refine ⟨before, ?_⟩
        rw [List.append_assoc, Option.some.inj isLast, List.singleton_append]

/-- What follows any separator is no longer than what follows the first one. -/
theorem length_le_of_first {lead : List α} (first : separator ∉ before)
    (same : before ++ separator :: rest = lead ++ separator :: other) :
    other.length ≤ rest.length := by
  induction before generalizing lead with
  | nil =>
      have lengths := congrArg List.length same
      simp only [List.nil_append, List.length_append, List.length_cons] at lengths
      omega
  | cons head before ih =>
      rw [List.mem_cons, not_or] at first
      cases lead with
      | nil => exact absurd (List.cons.inj same).1.symm first.1
      | cons _ lead => exact ih first.2 (List.cons.inj same).2

/-- A window that begins with a line is the longest part of its size. -/
theorem longestLines_window (starts : AtLineStart separator front) :
    LongestLines separator window.length (front ++ window) window where
  whole := ⟨front, rfl, starts⟩
  fits := Nat.le_refl _
  longest _ _ fits := fits

/-- In a window that begins inside a line, the longest part begins after the first
separator. -/
theorem longestLines_after (inside : ¬AtLineStart separator front)
    (split : window = before ++ separator :: rest) (first : separator ∉ before) :
    LongestLines separator window.length (front ++ window) rest where
  whole := by
    refine ⟨front ++ (before ++ [separator]), ?_, ?_⟩
    · rw [split]
      simp only [List.append_assoc, List.singleton_append]
    · right
      rw [← List.append_assoc, List.getLast?_concat]
  fits := by
    rw [split, List.length_append, List.length_cons]
    omega
  longest other whole fits := by
    rcases whole.inside fits with ⟨_, starts⟩ | ⟨lead, text⟩
    · exact absurd starts inside
    · exact length_le_of_first first (split ▸ text)

end Windows

/-! ## The last line -/

section LastLine

variable [DecidableEq α] {separator : α} {text lines : List α}

/-- What follows the last separator of a text other than one at its end. -/
def lastLine (separator : α) (text : List α) : List α :=
  text.dropLast.rtakeWhile (· ≠ separator) ++ text.getLast?.toList

theorem lastLine_ne_nil (nonempty : text ≠ []) : lastLine separator text ≠ [] := by
  rw [lastLine, List.getLast?_eq_getLast_of_ne_nil nonempty]
  simp

theorem wholeLines_lastLine (text : List α) :
    WholeLines separator text (lastLine separator text) := by
  refine ⟨text.dropLast.rdropWhile (· ≠ separator), ?_, ?_⟩
  · have parts : text = text.dropLast ++ text.getLast?.toList := by
      cases text using List.reverseRecOn with
      | nil => rfl
      | append_singleton text last => rw [List.dropLast_concat, List.getLast?_concat]; rfl
    rw [lastLine, ← List.append_assoc, List.rdropWhile_append_rtakeWhile, ← parts]
  · by_cases none : text.dropLast.rdropWhile (· ≠ separator) = []
    · exact .inl none
    · right
      have stops := List.rdropWhile_last_not _ _ none
      rw [decide_eq_true_eq, not_not] at stops
      rw [List.getLast?_eq_getLast_of_ne_nil none, stops]

theorem length_rtakeWhile_le {front : List α} (starts : AtLineStart separator front)
    (lines : List α) :
    ((front ++ lines).rtakeWhile (· ≠ separator)).length ≤ lines.length := by
  induction lines using List.reverseRecOn with
  | nil =>
      rw [List.append_nil]
      rcases starts with rfl | isLast
      · exact Nat.le_refl 0
      · have none : front.rtakeWhile (· ≠ separator) = [] := by
          rw [List.rtakeWhile_eq_nil_iff]
          intro nonempty
          rw [List.getLast?_eq_getLast_of_ne_nil nonempty, Option.some.injEq] at isLast
          simp [isLast]
        rw [none]
  | append_singleton lines last ih =>
      rw [← List.append_assoc, List.rtakeWhile_concat, List.length_append]
      split
      next =>
        rw [List.length_append]
        exact Nat.add_le_add_right ih _
      next => exact Nat.zero_le _

/-- No line of a text begins after its last line. -/
theorem length_lastLine_le (whole : WholeLines separator text lines) (nonempty : lines ≠ []) :
    (lastLine separator text).length ≤ lines.length := by
  rcases whole with ⟨front, rfl, starts⟩
  have last : (front ++ lines).getLast?.toList.length = 1 := by
    rw [List.getLast?_append_of_ne_nil _ nonempty, List.getLast?_eq_getLast_of_ne_nil nonempty]
    rfl
  have positive := List.length_pos_iff.2 nonempty
  have shorter := length_rtakeWhile_le starts lines.dropLast
  rw [List.length_dropLast] at shorter
  rw [lastLine, List.length_append, last, List.dropLast_append_of_ne_nil nonempty]
  omega

end LastLine

end Foundation.Lines
