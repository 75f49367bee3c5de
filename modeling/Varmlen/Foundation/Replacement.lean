import Varmlen.Foundation.TextParts

/-!
# Replacing a pattern

A text is cut at the occurrences of a pattern, and a replacement is put between the pieces.
What can be seen of the text afterwards is what can be seen in a piece.
-/

namespace Foundation.Text

/-! ## Parts of a text -/

section Infix

variable {part left right : List Char} {stop : Char}

/-- A part without the separator stands on one side of it. -/
theorem infix_of_infix_append_cons (found : part <:+: left ++ stop :: right)
    (free : stop ∉ part) : part <:+: left ∨ part <:+: right := by
  rcases List.infix_append_iff.1 found with before | after | ⟨front, back, parts, ends, starts⟩
  · exact .inl before
  · rcases List.infix_cons_iff.1 after with starts | inside
    · cases part with
      | nil => exact .inl List.nil_infix
      | cons first rest =>
          rw [List.cons_prefix_cons] at starts
          exact absurd (starts.1 ▸ List.mem_cons_self) free
    · exact .inr inside
  · cases back with
    | nil =>
        rw [List.append_nil] at parts
        exact .inl (parts ▸ ends.isInfix)
    | cons first rest =>
        rw [List.cons_prefix_cons] at starts
        exact absurd (by rw [parts, starts.1]; simp) free

/-- A part that is not on the left does not start there when a run of a character follows
that it cannot get past or end with. -/
theorem not_prefix_append_replicate {count : Nat} (free : ¬part <:+: left)
    (last : part.getLast? ≠ some stop) (short : part.length ≤ count) :
    ¬part <+: left ++ (List.replicate count stop ++ right) := by
  intro starts
  rcases List.prefix_or_prefix_of_prefix starts (List.prefix_append left _)
    with inside | ⟨rest, rfl⟩
  · exact free inside.isInfix
  · rw [List.prefix_append_right_inj] at starts
    have within : rest <+: List.replicate count stop := by
      refine List.prefix_of_prefix_length_le starts (List.prefix_append _ _) ?_
      rw [List.length_append] at short
      rw [List.length_replicate]
      omega
    have run : rest = List.replicate rest.length stop := (List.prefix_replicate_iff.1 within).2
    cases rest with
    | nil => exact free (by simp)
    | cons first rest =>
        refine last ?_
        rw [run, List.getLast?_append]
        simp [List.getLast?_replicate]

end Infix

/-! ## The steps of a replacement -/

section Steps

variable {pattern : List Char} (replacement : List Char)

theorem replaceFrom_skip (skipped rest : List Char) :
    replaceFrom pattern replacement skipped.length (skipped ++ rest) =
      replaceFrom pattern replacement 0 rest := by
  induction skipped with
  | nil => rfl
  | cons char skipped ih => exact ih

theorem replaceFrom_pattern (nonempty : pattern ≠ []) (rest : List Char) :
    replaceFrom pattern replacement 0 (pattern ++ rest) =
      replacement ++ replaceFrom pattern replacement 0 rest := by
  cases pattern with
  | nil => exact absurd rfl nonempty
  | cons first others =>
      rw [List.cons_append, replaceFrom, if_pos (by simp)]
      exact congrArg (replacement ++ ·) (replaceFrom_skip replacement others rest)

theorem replaceFrom_cons {char : Char} {rest : List Char} (apart : ¬pattern <+: char :: rest) :
    replaceFrom pattern replacement 0 (char :: rest) =
      char :: replaceFrom pattern replacement 0 rest := by
  rw [replaceFrom, if_neg (by simpa using apart)]

/-- A run of a character that the pattern does not start with is passed over. -/
theorem replaceFrom_replicate {stop : Char} (first : pattern.head? ≠ some stop)
    (nonempty : pattern ≠ []) (count : Nat) (rest : List Char) :
    replaceFrom pattern replacement 0 (List.replicate count stop ++ rest) =
      List.replicate count stop ++ replaceFrom pattern replacement 0 rest := by
  have apart (rest : List Char) : ¬pattern <+: stop :: rest := by
    cases pattern with
    | nil => exact absurd rfl nonempty
    | cons head others =>
        intro starts
        rw [List.cons_prefix_cons] at starts
        exact first (by rw [starts.1, List.head?_cons])
  induction count with
  | zero => rfl
  | succ count ih =>
      rw [List.replicate_succ, List.cons_append, replaceFrom_cons replacement (apart _), ih,
        List.cons_append]

/-- So is a text without the pattern, up to a run of a character that the pattern does not
end with. -/
theorem replaceFrom_append_replicate {front : List Char} {stop : Char} {count : Nat}
    (free : ¬pattern <:+: front) (last : pattern.getLast? ≠ some stop)
    (short : pattern.length ≤ count) (rest : List Char) :
    replaceFrom pattern replacement 0 (front ++ (List.replicate count stop ++ rest)) =
      front ++ replaceFrom pattern replacement 0 (List.replicate count stop ++ rest) := by
  induction front with
  | nil => rfl
  | cons char front ih =>
      have later : ¬pattern <:+: front := fun found => free (List.infix_cons found)
      have apart : ¬pattern <+: char :: (front ++ (List.replicate count stop ++ rest)) :=
        not_prefix_append_replicate free last short
      rw [List.cons_append, replaceFrom_cons replacement apart, ih later, List.cons_append]

theorem replaceFrom_eq_self {text : List Char} (free : ¬pattern <:+: text) :
    replaceFrom pattern replacement 0 text = text := by
  induction text with
  | nil => rfl
  | cons char rest ih =>
      have later : ¬pattern <:+: rest := fun found => free (List.infix_cons found)
      rw [replaceFrom_cons replacement fun starts => free starts.isInfix, ih later]

theorem mem_replaceFrom {text : List Char} {skip : Nat} {char : Char}
    (member : char ∈ replaceFrom pattern replacement skip text) :
    char ∈ replacement ∨ char ∈ text := by
  induction text generalizing skip with
  | nil => cases member
  | cons first rest ih =>
      have later {skip : Nat} (member : char ∈ replaceFrom pattern replacement skip rest) :
          char ∈ replacement ∨ char ∈ first :: rest :=
        (ih member).imp_right (List.mem_cons_of_mem first)
      cases skip with
      | succ skip => exact later member
      | zero =>
          rw [replaceFrom] at member
          split at member
          next =>
            rcases List.mem_append.1 member with replaced | kept
            · exact .inl replaced
            · exact later kept
          next =>
            rcases List.mem_cons.1 member with rfl | kept
            · exact .inr List.mem_cons_self
            · exact later kept

end Steps

/-! ## The pieces of a text -/

/-- The pieces of a text that are left when a pattern is cut out. -/
structure Cuts (pattern text : List Char) (pieces : List (List Char)) : Prop where
  nonempty : pieces ≠ []
  joined : pattern.intercalate pieces = text
  free : ∀ piece ∈ pieces, ¬pattern <:+: piece

section Cuts

variable {pattern : List Char}

theorem Cuts.nil (nonempty : pattern ≠ []) : Cuts pattern [] [[]] where
  nonempty := by simp
  joined := rfl
  free := by simpa using nonempty

theorem Cuts.cut {rest : List Char} {pieces : List (List Char)} (cuts : Cuts pattern rest pieces)
    (nonempty : pattern ≠ []) : Cuts pattern (pattern ++ rest) ([] :: pieces) where
  nonempty := by simp
  joined := by
    rw [List.intercalate_cons_of_ne_nil cuts.nonempty, cuts.joined, List.nil_append]
  free := by
    intro piece member
    rcases List.mem_cons.1 member with rfl | later
    · simpa using nonempty
    · exact cuts.free piece later

theorem prefix_intercalate (separator first : List Char) (others : List (List Char)) :
    first <+: separator.intercalate (first :: others) := by
  cases others with
  | nil => simp
  | cons second others => simp [List.append_assoc]

theorem Cuts.keep {char : Char} {rest first : List Char} {others : List (List Char)}
    (cuts : Cuts pattern rest (first :: others)) (apart : ¬pattern <+: char :: rest) :
    Cuts pattern (char :: rest) ((char :: first) :: others) where
  nonempty := by simp
  joined := by
    rw [List.intercalate_cons_cons_left, cuts.joined]
  free := by
    intro piece member
    rcases List.mem_cons.1 member with rfl | later
    · intro found
      rcases List.infix_cons_iff.1 found with starts | inside
      · refine apart (starts.trans ?_)
        rw [← cuts.joined, List.cons_prefix_cons]
        exact ⟨rfl, prefix_intercalate pattern first others⟩
      · exact cuts.free first (by simp) inside
    · exact cuts.free piece (List.mem_cons_of_mem _ later)

/-- A replacement is put between the pieces. -/
theorem exists_cuts (nonempty : pattern ≠ []) (replacement text : List Char) :
    ∃ pieces, Cuts pattern text pieces ∧
      replaceFrom pattern replacement 0 text = replacement.intercalate pieces := by
  induction measured : text.length using Nat.strongRecOn generalizing text with
  | _ size ih =>
      by_cases starts : pattern <+: text
      · rcases starts with ⟨rest, rfl⟩
        have shorter : rest.length < size := by
          have := List.length_pos_iff.2 nonempty
          rw [List.length_append] at measured
          omega
        rcases ih rest.length shorter rest rfl with ⟨pieces, cuts, replaced⟩
        refine ⟨[] :: pieces, cuts.cut nonempty, ?_⟩
        rw [replaceFrom_pattern replacement nonempty, replaced,
          List.intercalate_cons_of_ne_nil cuts.nonempty, List.nil_append]
      · cases text with
        | nil => exact ⟨[[]], .nil nonempty, rfl⟩
        | cons char rest =>
            have shorter : rest.length < size := by
              rw [List.length_cons] at measured
              omega
            rcases ih rest.length shorter rest rfl with ⟨pieces, cuts, replaced⟩
            cases pieces with
            | nil => exact absurd rfl cuts.nonempty
            | cons first others =>
                refine ⟨(char :: first) :: others, cuts.keep starts, ?_⟩
                rw [replaceFrom_cons replacement starts, replaced,
                  List.intercalate_cons_cons_left]

end Cuts

/-! ## What is seen afterwards -/

section Seen

variable {part inner : List Char} {opening closing : Char}

/-- What has neither end of the replacement and is not inside it is seen in a piece. -/
theorem exists_piece (noOpening : opening ∉ part) (noClosing : closing ∉ part)
    (outside : ¬part <:+: inner) {pieces : List (List Char)} (nonempty : pieces ≠ [])
    (seen : part <:+: (opening :: inner ++ [closing]).intercalate pieces) :
    ∃ piece ∈ pieces, part <:+: piece := by
  induction pieces with
  | nil => exact absurd rfl nonempty
  | cons first others ih =>
      cases others with
      | nil => exact ⟨first, by simp, by simpa using seen⟩
      | cons second others =>
          rw [List.intercalate_cons_cons, List.append_assoc, List.cons_append, List.cons_append,
            List.append_assoc, List.singleton_append] at seen
          rcases infix_of_infix_append_cons seen noOpening with before | after
          · exact ⟨first, by simp, before⟩
          · rcases infix_of_infix_append_cons after noClosing with inside | later
            · exact absurd inside outside
            · rcases ih (by simp) later with ⟨piece, member, found⟩
              exact ⟨piece, List.mem_cons_of_mem _ member, found⟩

/-- A text with two pieces has a piece and a separator, counted by their characters. -/
theorem countP_le_intercalate (counted : Char → Bool) {separator piece first second : List Char}
    {others : List (List Char)} (member : piece ∈ first :: second :: others) :
    piece.countP counted + separator.countP counted ≤
      (separator.intercalate (first :: second :: others)).countP counted := by
  rw [List.intercalate_cons_cons, List.countP_append, List.countP_append]
  rcases List.mem_cons.1 member with rfl | later
  · omega
  · have := (infix_intercalate separator later).sublist.countP_le (p := counted)
    omega

end Seen

end Foundation.Text
