import Varmlen.Foundation.Text

/-!
# Taking texts apart

What splitting, trimming and reading numbers give for a text that was put together from
known parts.
-/

namespace Foundation.Text

/-- A property of given characters, by testing them one by one. -/
theorem forall_mem_of_all {chars : List Char} {holds : Char → Prop} [DecidablePred holds]
    (tested : (chars.all fun char => holds char) = true) : ∀ char ∈ chars, holds char := by
  simpa using tested

/-! ## Runs of characters -/

section Stop

variable {stop : Char} {front : List Char}

theorem passes_of_free (free : stop ∉ front) : ∀ char ∈ front, (char != stop) = true := by
  intro char member
  rw [bne_iff_ne]
  rintro rfl
  exact free member

theorem takeWhile_ne_append (free : stop ∉ front) (tail : List Char) :
    (front ++ stop :: tail).takeWhile (· != stop) = front := by
  rw [List.takeWhile_append_of_pos (passes_of_free free), List.takeWhile_cons_of_neg (by simp),
    List.append_nil]

theorem dropWhile_ne_append (free : stop ∉ front) (tail : List Char) :
    (front ++ stop :: tail).dropWhile (· != stop) = stop :: tail := by
  rw [List.dropWhile_append_of_pos (passes_of_free free),
    List.dropWhile_cons_of_neg (by simp)]

theorem takeWhile_ne_eq_self (free : stop ∉ front) : front.takeWhile (· != stop) = front := by
  rw [← List.append_nil front, List.takeWhile_append_of_pos (passes_of_free free),
    List.takeWhile_nil]

end Stop

theorem charsBefore_singleton (stop : Char) (chars : List Char) :
    charsBefore [stop] chars = chars.takeWhile (· != stop) := by
  induction chars with
  | nil => rfl
  | cons char rest ih =>
      by_cases same : stop = char
      · subst same
        rw [charsBefore, if_pos (by simp), List.takeWhile_cons_of_neg (by simp)]
      · rw [charsBefore, if_neg (by simpa using same),
          List.takeWhile_cons_of_pos (by simpa using Ne.symm same), ih]

/-! ## Splitting at a separator -/

section Separator

variable {separator : Char} {text left right : String}

theorem splitOnce_eq (parts : text.toList = left.toList ++ separator :: right.toList)
    (free : separator ∉ left.toList) : splitOnce separator text = some (left, right) := by
  rw [splitOnce, parts, if_pos (by simp), takeWhile_ne_append free, dropWhile_ne_append free]
  simp

theorem rsplitOnce_eq (parts : text.toList = left.toList ++ separator :: right.toList)
    (free : separator ∉ right.toList) : rsplitOnce separator text = some (left, right) := by
  have reversed : text.toList.reverse =
      right.toList.reverse ++ separator :: left.toList.reverse := by
    rw [parts]
    simp
  have freeReversed : separator ∉ right.toList.reverse := by simpa using free
  rw [rsplitOnce, reversed, if_pos (by simp), takeWhile_ne_append freeReversed,
    dropWhile_ne_append freeReversed]
  simp

theorem rsplitOnce_eq_none (free : separator ∉ text.toList) :
    rsplitOnce separator text = none := by
  rw [rsplitOnce]
  exact if_neg (by simpa using free)

end Separator

/-- A part without the separator stands on one side of it. -/
theorem infix_of_separator {separator : Char} {part left right : List Char}
    (free : separator ∉ part) (found : part <:+: left ++ separator :: right) :
    part <:+: left ∨ part <:+: right := by
  rcases List.infix_append_iff.1 found with before | after | ⟨front, back, rfl, ends, starts⟩
  · exact .inl before
  · rcases List.infix_cons_iff.1 after with here | later
    · cases part with
      | nil => exact .inl List.nil_infix
      | cons first rest =>
          rw [List.cons_prefix_cons] at here
          exact absurd (here.1 ▸ List.mem_cons_self) free
    · exact .inr later
  · cases back with
    | nil =>
        rw [List.append_nil]
        exact .inl ends.isInfix
    | cons first rest =>
        rw [List.cons_prefix_cons] at starts
        exact absurd (starts.1 ▸ List.mem_append_right _ List.mem_cons_self) free

/-! ## Trimming -/

theorem dropWhile_eq_self_of_head {drops : Char → Bool} {first : Char} {rest : List Char}
    (kept : drops first = false) : (first :: rest).dropWhile drops = first :: rest :=
  List.dropWhile_cons_of_neg (by simp [kept])

/-- Trimming leaves a text up to a character that is no white space as it is. -/
theorem trim_toList_append {first last : Char} {middle tail : List Char} {text : String}
    (parts : text.toList = first :: middle ++ last :: tail)
    (firstKept : isWhitespace first = false) (lastKept : isWhitespace last = false) :
    (trim text).toList = first :: middle ++ last :: (trimEnd (.ofList tail)).toList := by
  rw [trim, trimEnd, String.toList_ofList, String.toList_ofList, String.toList_ofList, parts,
    List.cons_append, dropWhile_eq_self_of_head firstKept]
  have reversed : (first :: (middle ++ last :: tail)).reverse =
      tail.reverse ++ last :: (first :: middle).reverse := by simp
  rw [reversed, List.dropWhile_append]
  split
  next empty =>
    rw [dropWhile_eq_self_of_head lastKept, List.isEmpty_iff.1 empty]
    simp
  next => simp

/-- A text keeps its first character unless that is white space. -/
theorem trim_toList_cons {first : Char} {rest : List Char} {text : String}
    (parts : text.toList = first :: rest) (kept : isWhitespace first = false) :
    ∃ tail, (trim text).toList = first :: tail := by
  rw [trim, String.toList_ofList, parts, dropWhile_eq_self_of_head kept, List.reverse_cons,
    List.dropWhile_append]
  split
  next => exact ⟨[], by rw [dropWhile_eq_self_of_head kept, List.reverse_singleton]⟩
  next => exact ⟨_, List.reverse_concat ..⟩

theorem prefix_trim (text : String) :
    (trim text).toList <+: text.toList.dropWhile isWhitespace := by
  rw [trim, String.toList_ofList, ← List.reverse_suffix, List.reverse_reverse]
  exact List.dropWhile_suffix isWhitespace

theorem infix_trim (text : String) : (trim text).toList <:+: text.toList :=
  (prefix_trim text).isInfix.trans (List.dropWhile_suffix isWhitespace).isInfix

theorem trim_parts (text : String) :
    ∃ after : List Char, (∀ char ∈ after, isWhitespace char = true) ∧
      text.toList = text.toList.takeWhile isWhitespace ++ ((trim text).toList ++ after) := by
  generalize kept : text.toList.dropWhile isWhitespace = rest
  refine ⟨(rest.reverse.takeWhile isWhitespace).reverse, ?_, ?_⟩
  · intro char member
    rw [List.mem_reverse] at member
    exact List.all_eq_true.1 List.all_takeWhile char member
  · have whole : (trim text).toList ++ (rest.reverse.takeWhile isWhitespace).reverse = rest := by
      rw [trim, String.toList_ofList, kept, ← List.reverse_append, List.takeWhile_append_dropWhile,
        List.reverse_reverse]
    rw [whole, ← kept, List.takeWhile_append_dropWhile]

/-- A text is trimmed up to its last character that is no white space. -/
theorem trim_toList_last {front back : List Char} {last : Char} {text : String}
    (parts : text.toList = front ++ last :: back) (kept : isWhitespace last = false)
    (white : ∀ char ∈ back, isWhitespace char = true) :
    (trim text).toList = front.dropWhile isWhitespace ++ [last] := by
  have opened : (front ++ last :: back).dropWhile isWhitespace =
      front.dropWhile isWhitespace ++ last :: back := by
    rw [List.dropWhile_append]
    split
    next empty => rw [List.isEmpty_iff.1 empty, dropWhile_eq_self_of_head kept, List.nil_append]
    next => rfl
  have closed : (front.dropWhile isWhitespace ++ last :: back).reverse =
      back.reverse ++ last :: (front.dropWhile isWhitespace).reverse := by simp
  rw [trim, String.toList_ofList, parts, opened, closed,
    List.dropWhile_append_of_pos (by simpa using white), dropWhile_eq_self_of_head kept]
  simp

/-- What is trimmed has no white space to trim. -/
@[simp] theorem trim_trim (text : String) : trim (trim text) = trim text := by
  have head : ∀ chars : List Char, ∀ front, front <+: chars.dropWhile isWhitespace →
      front.dropWhile isWhitespace = front := by
    intro chars front isPrefix
    cases front with
    | nil => rfl
    | cons first rest =>
        rcases isPrefix with ⟨tail, parts⟩
        have kept := List.head?_dropWhile_not isWhitespace chars
        rw [← parts] at kept
        exact dropWhile_eq_self_of_head (by simpa using kept)
  have trimmed : trim (trim text) =
      .ofList ((trim text).toList.reverse.dropWhile isWhitespace).reverse := by
    rw [trim, head _ _ (prefix_trim text)]
  rw [trimmed, trim, String.toList_ofList, List.reverse_reverse, head _ _ (List.prefix_refl _)]

theorem trim_eq_self {text : String} (solid : ∀ char ∈ text.toList, isWhitespace char = false) :
    trim text = text := by
  have kept {chars : List Char} (solid : ∀ char ∈ chars, isWhitespace char = false) :
      chars.dropWhile isWhitespace = chars := by
    cases chars with
    | nil => rfl
    | cons first rest => exact dropWhile_eq_self_of_head (solid first List.mem_cons_self)
  rw [trim, kept solid, kept fun char member => solid char (List.mem_reverse.1 member),
    List.reverse_reverse, String.ofList_toList]

/-- A text that is not all white space has a last character that is none. -/
theorem exists_last_visible {chars : List Char} {char : Char} (member : char ∈ chars)
    (visible : isWhitespace char = false) :
    ∃ front last back, chars = front ++ last :: back ∧ isWhitespace last = false ∧
      ∀ char ∈ back, isWhitespace char = true := by
  have found : (chars.reverse.find? fun char => !isWhitespace char).isSome = true := by
    rw [List.find?_isSome]
    exact ⟨char, List.mem_reverse.2 member, by rw [visible, Bool.not_false]⟩
  rcases Option.isSome_iff_exists.1 found with ⟨last, isLast⟩
  rcases List.find?_eq_some_iff_append.1 isLast with ⟨solid, before, after, cut, white⟩
  refine ⟨after.reverse, last, before.reverse, ?_, by simpa using solid, by simpa using white⟩
  rw [← List.reverse_inj, cut]
  simp

theorem exists_visible_of_trim {text : String} (nonempty : trim text ≠ "") :
    ∃ char ∈ text.toList, isWhitespace char = false := by
  by_contra none
  have white : ∀ char ∈ text.toList, isWhitespace char = true := by simpa using none
  have empty : text.toList.dropWhile isWhitespace = [] :=
    by
    rw [← List.append_nil text.toList, List.dropWhile_append_of_pos white, List.dropWhile_nil]
  apply nonempty
  rw [trim, empty]
  rfl

/-- Trimming leaves the characters that are no white space. -/
theorem filter_visible_trim (text : String) :
    (trim text).toList.filter (!isWhitespace ·) = text.toList.filter (!isWhitespace ·) := by
  have dropped {chars : List Char} (white : ∀ char ∈ chars, isWhitespace char = true) :
      chars.filter (!isWhitespace ·) = [] := by simpa using white
  rcases trim_parts text with ⟨after, white, parts⟩
  have opening : ∀ char ∈ text.toList.takeWhile isWhitespace, isWhitespace char = true :=
    List.all_eq_true.1 List.all_takeWhile
  calc
    (trim text).toList.filter (!isWhitespace ·) =
        (text.toList.takeWhile isWhitespace ++ ((trim text).toList ++ after)).filter
          (!isWhitespace ·) := by
      rw [List.filter_append, List.filter_append, dropped white, dropped opening, List.append_nil,
        List.nil_append]
    _ = text.toList.filter (!isWhitespace ·) := by rw [← parts]

theorem countP_trim (text : String) :
    (trim text).toList.countP (!isWhitespace ·) = text.toList.countP (!isWhitespace ·) := by
  rw [List.countP_eq_length_filter, filter_visible_trim, ← List.countP_eq_length_filter]

/-- Characters of the list stand around the text, but neither at its start nor at its
end. -/
theorem trimMatches_eq {chars : List Char} {text inner : String} (opening closing : List Char)
    (parts : text.toList = opening ++ inner.toList ++ closing)
    (openingDropped : ∀ char ∈ opening, char ∈ chars)
    (closingDropped : ∀ char ∈ closing, char ∈ chars)
    (kept : ∀ char ∈ inner.toList, char ∉ chars) : trimMatches chars text = inner := by
  have drops : ∀ run : List Char, (∀ char ∈ run, char ∈ chars) → ∀ rest,
      (run ++ rest).dropWhile chars.contains = rest.dropWhile chars.contains := by
    intro run dropped rest
    exact List.dropWhile_append_of_pos (by simpa using dropped)
  have keeps : ∀ run : List Char, (∀ char ∈ run, char ∉ chars) →
      run.dropWhile chars.contains = run := by
    intro run kept
    cases run with
    | nil => rfl
    | cons first rest => exact dropWhile_eq_self_of_head (by simpa using kept first (.head _))
  rw [trimMatches, parts, List.append_assoc, drops opening openingDropped]
  cases text : inner.toList with
  | nil =>
      have all : closing.dropWhile chars.contains = [] := by
        simpa using drops closing closingDropped []
      rw [List.nil_append, all, ← String.ofList_toList (s := inner), text]
      rfl
  | cons first rest =>
      rw [text] at kept
      have start : (first :: rest ++ closing).dropWhile chars.contains =
          first :: rest ++ closing := dropWhile_eq_self_of_head (by
        simpa using kept first (.head _))
      rw [start, List.reverse_append, drops _ (by simpa using closingDropped),
        keeps _ (by simpa only [List.mem_reverse] using kept), List.reverse_reverse, ← text,
        String.ofList_toList]

/-! ## Lists of parts -/

theorem not_mem_of_mem_splitOn {separator : Char} {chars : List Char} :
    ∀ part ∈ chars.splitOn separator, separator ∉ part := by
  induction chars with
  | nil => simp
  | cons char rest ih =>
      rw [List.splitOn_cons_eq_if_modifyHead]
      split
      next => simpa using ih
      next different =>
        rcases List.exists_cons_of_ne_nil (List.splitOn_ne_nil separator rest) with
          ⟨first, more, parts⟩
        rw [parts, List.forall_mem_cons] at ih
        rw [parts, List.modifyHead_cons, List.forall_mem_cons]
        refine ⟨?_, ih.2⟩
        rw [List.mem_cons, not_or]
        exact ⟨fun same => different (by simp [same]), ih.1⟩

theorem not_mem_of_mem_split {separator : Char} {text part : String}
    (member : part ∈ split separator text) : separator ∉ part.toList := by
  rcases List.mem_map.1 member with ⟨chars, isPart, rfl⟩
  rw [String.toList_ofList]
  exact not_mem_of_mem_splitOn chars isPart

/-- Parts that were joined are found again. -/
theorem split_intercalate {separator : Char} {parts : List String} (nonempty : parts ≠ [])
    (free : ∀ part ∈ parts, separator ∉ part.toList) :
    split separator (String.intercalate (String.singleton separator) parts) = parts := by
  have joined : (String.intercalate (String.singleton separator) parts).toList =
      [separator].intercalate (parts.map String.toList) := by
    rw [String.toList_intercalate]
    simp
  rw [split, joined, List.splitOn_intercalate _ (by simpa using free) (by simpa using nonempty),
    List.map_map]
  simp

theorem not_mem_intercalate {char : Char} {separator : String} {parts : List String}
    (apart : char ∉ separator.toList) (free : ∀ part ∈ parts, char ∉ part.toList) :
    char ∉ (separator.intercalate parts).toList := by
  induction parts with
  | nil => simp
  | cons first rest ih =>
      rw [List.forall_mem_cons] at free
      cases rest with
      | nil => simpa using free.1
      | cons second rest =>
          rw [String.intercalate_cons_cons, String.toList_append, String.toList_append,
            List.mem_append, List.mem_append, not_or, not_or]
          exact ⟨⟨free.1, apart⟩, ih free.2⟩

/-! ## Words -/

/-- A word that white space does not divide. -/
def IsWord (word : String) : Prop := word ≠ "" ∧ ∀ char ∈ word.toList, isWhitespace char = false

section Words

variable {word : String}

theorem isWord_iff :
    IsWord word ↔ (word != "" && word.toList.all fun char => !isWhitespace char) = true := by
  simp [IsWord]

theorem splitWhitespace_append (isWord : IsWord word) (rest : String) :
    splitWhitespace (word ++ " " ++ rest) = word :: splitWhitespace rest := by
  have parts : (word ++ " " ++ rest).toList = word.toList ++ ' ' :: rest.toList := by simp
  have visible : word.toList.isEmpty = false := by simpa using isWord.1
  rw [splitWhitespace, parts, List.splitOnP_append_cons_of_forall_mem isWord.2 ' ' (by decide),
    List.filter_cons_of_pos (by simp [visible]), List.map_cons, String.ofList_toList]
  rfl

theorem splitWhitespace_word (isWord : IsWord word) : splitWhitespace word = [word] := by
  have visible : word.toList.isEmpty = false := by simpa using isWord.1
  rw [splitWhitespace, List.splitOnP_eq_singleton isWord.2,
    List.filter_cons_of_pos (by simp [visible]), List.filter_nil, List.map_cons,
    String.ofList_toList, List.map_nil]

/-- Words are found again. -/
theorem splitWhitespace_intercalate {words : List String} (solid : ∀ word ∈ words, IsWord word) :
    splitWhitespace (" ".intercalate words) = words := by
  induction words with
  | nil => simp [splitWhitespace]
  | cons word rest ih =>
      rw [List.forall_mem_cons] at solid
      cases rest with
      | nil => simpa using splitWhitespace_word solid.1
      | cons next rest => rw [String.intercalate_cons_cons, splitWhitespace_append solid.1, ih solid.2]

/-- Space at the start makes no difference. -/
theorem splitWhitespace_space (text : String) :
    splitWhitespace (" " ++ text) = splitWhitespace text := by
  have parts : (" " ++ text).toList = [] ++ ' ' :: text.toList := by simp
  rw [splitWhitespace, parts, List.splitOnP_append_cons_of_forall_mem (by simp) ' ' (by decide)]
  rfl

end Words

/-! ## Lines -/

theorem infix_intercalate (separator : List Char) {part : List Char} {parts : List (List Char)}
    (member : part ∈ parts) : part <:+: separator.intercalate parts := by
  induction parts with
  | nil => cases member
  | cons first rest ih =>
      cases rest with
      | nil =>
          rw [List.mem_singleton.1 member, List.intercalate_singleton]
      | cons second rest =>
          rw [List.intercalate_cons_cons]
          rcases List.mem_cons.1 member with rfl | later
          · exact (List.prefix_append part _).isInfix.trans
              (List.prefix_append _ _).isInfix
          · exact (ih later).trans (List.suffix_append _ _).isInfix

theorem infix_withoutCarriageReturn (line : String) :
    (withoutCarriageReturn line).toList <:+: line.toList := by
  rw [withoutCarriageReturn]
  split
  next =>
    rw [String.toList_ofList]
    exact (List.dropLast_prefix _).isInfix
  next => exact List.infix_rfl

theorem withoutCarriageReturn_cons {char : Char} (noReturn : char ≠ '\r') (rest : List Char) :
    ∃ kept, (withoutCarriageReturn (.ofList (char :: rest))).toList = char :: kept := by
  rw [withoutCarriageReturn]
  split
  next ended =>
    rw [String.toList_ofList, String.toList_ofList]
    cases rest with
    | nil =>
        have isSuffix : ['\r'] <:+ [char] := by simpa [endsWith] using ended
        have isReturn : '\r' = char := List.mem_singleton.1 (isSuffix.subset (.head _))
        exact absurd isReturn.symm noReturn
    | cons second rest => exact ⟨_, List.dropLast_cons_cons ..⟩
  next => exact ⟨rest, String.toList_ofList⟩

theorem infix_split {separator : Char} {text part : String} (member : part ∈ split separator text) :
    part.toList <:+: text.toList := by
  rcases List.mem_map.1 member with ⟨chars, isPart, rfl⟩
  rw [String.toList_ofList]
  have joined := infix_intercalate [separator] isPart
  rwa [List.intercalate_splitOn] at joined

theorem infix_lines {text line : String} (member : line ∈ lines text) :
    line.toList <:+: text.toList := by
  rw [lines, List.mem_append] at member
  rcases member with ended | last
  · rcases List.mem_map.1 ended with ⟨part, isPart, rfl⟩
    exact (infix_withoutCarriageReturn part).trans
      (infix_split ((List.dropLast_sublist _).subset isPart))
  · rw [Option.mem_toList, Option.filter_eq_some_iff] at last
    exact infix_split (List.mem_of_getLast? last.1)

/-- A character before a text stands in its first line. -/
theorem lines_cons {char : Char} {text marked : String}
    (marks : marked.toList = char :: text.toList) (noFeed : char ≠ '\n')
    (noReturn : char ≠ '\r') :
    ∃ line rest, lines marked = line :: (lines text).tail ∧ line.toList = char :: rest := by
  rcases List.exists_cons_of_ne_nil (split_ne_nil '\n' text) with ⟨first, rest, parts⟩
  have markedParts : split '\n' marked = .ofList (char :: first.toList) :: rest := by
    rw [split, marks, List.splitOn_cons_eq_if_modifyHead, if_neg (by simpa using noFeed)]
    rw [split] at parts
    rcases List.map_eq_cons_iff.1 parts with ⟨chars, more, found, rfl, rfl⟩
    rw [found, List.modifyHead_cons, List.map_cons, String.toList_ofList]
  rw [lines, lines, markedParts, parts]
  cases rest with
  | nil =>
      refine ⟨.ofList (char :: first.toList), first.toList, ?_, String.toList_ofList⟩
      have single : ∀ option : Option String, option.toList.tail = [] := by
        intro option
        cases option <;> rfl
      simp [single]
  | cons second rest =>
      rcases withoutCarriageReturn_cons noReturn first.toList with ⟨kept, line⟩
      exact ⟨_, kept, by simp, line⟩

/-- The lines of a text that ends each of them. -/
theorem lines_joined {pieces : List String} (free : ∀ piece ∈ pieces, '\n' ∉ piece.toList)
    (kept : ∀ piece ∈ pieces, endsWith piece "\r" = false) :
    lines (String.join (pieces.map (· ++ "\n"))) = pieces := by
  have joined : String.join (pieces.map (· ++ "\n")) =
      String.intercalate (String.singleton '\n') (pieces ++ [""]) := by
    rw [← String.toList_inj, String.toList_intercalate]
    induction pieces with
    | nil => rfl
    | cons piece rest ih =>
        have later := ih (fun piece member => free piece (.tail _ member))
          (fun piece member => kept piece (.tail _ member))
        cases rest with
        | nil => simp [List.intercalate, String.join]
        | cons second rest =>
            rw [List.map_cons, String.join_cons, String.toList_append, later]
            simp [List.intercalate_cons_cons]
  have apart : ∀ piece ∈ pieces ++ [""], '\n' ∉ piece.toList := by
    intro piece member feed
    cases List.mem_append.1 member with
    | inl inside => exact free piece inside feed
    | inr last =>
        rw [List.mem_singleton.1 last] at feed
        cases feed
  have whole : ∀ piece ∈ pieces, withoutCarriageReturn piece = piece := by
    intro piece member
    rw [withoutCarriageReturn, kept piece member, if_neg Bool.false_ne_true]
  rw [lines, joined, split_intercalate (by simp) apart]
  simp [List.map_congr_left whole]

/-! ## Numbers -/

theorem toList_toString (number : Nat) : (toString number).toList = Nat.toDigits 10 number := by
  rw [Nat.toString_eq_repr, Nat.toList_repr]

theorem isDigit_of_mem_toString {number : Nat} {char : Char}
    (member : char ∈ (toString number).toList) : char.isDigit = true := by
  rw [toList_toString] at member
  exact Nat.isDigit_of_mem_toDigits (by decide) (by decide) member

/-- The digits that a number is read from: all characters after an optional sign. -/
theorem parseUnsigned_eq_none {bound : Nat} {text : String} {char : Char}
    (member : char ∈ text.toList) (noDigit : char.isDigit = false) (noSign : char ≠ '+') :
    parseUnsigned bound text = none := by
  rw [parseUnsigned]
  split
  next rest signed =>
    rw [signed] at member
    have inside : char ∈ rest := (List.mem_cons.1 member).resolve_left noSign
    exact if_pos (.inr (by simpa using ⟨char, inside, noDigit⟩))
  next => exact if_pos (.inr (by simpa using ⟨char, member, noDigit⟩))

theorem parseUnsigned_lt {bound number : Nat} {text : String}
    (read : parseUnsigned bound text = some number) : number < bound := by
  rw [parseUnsigned, Option.ite_none_left_eq_some] at read
  rcases Option.ite_none_right_eq_some.1 read.2 with ⟨small, value⟩
  rwa [Option.some.inj value] at small

theorem parseUnsigned_toString {bound number : Nat} (small : number < bound) :
    parseUnsigned bound (toString number) = some number := by
  have digits : ∀ char ∈ Nat.toDigits 10 number, char.isDigit = true :=
    fun char member => Nat.isDigit_of_mem_toDigits (by decide) (by decide) member
  have value : (Nat.toDigits 10 number).foldl
      (fun value digit => value * 10 + (digit.toNat - 48)) 0 = number := by
    have sums : (fun (value : Nat) (digit : Char) => value * 10 + (digit.toNat - 48)) =
        fun value digit => 10 * value + (digit.toNat - '0'.toNat) := by
      funext value digit
      rw [Nat.mul_comm]
      rfl
    rw [sums, ← Nat.ofDigitChars_eq_foldl, Nat.ofDigitChars_ten_toDigits]
  rw [parseUnsigned, toList_toString]
  split
  next rest signed =>
    have sign := digits '+' (by rw [signed]; exact .head _)
    cases sign
  next =>
    rw [if_neg, value, if_pos small]
    simpa using digits

theorem toString_injective : Function.Injective (toString : Nat → String) := by
  intro first second same
  have read := parseUnsigned_toString (Nat.lt_succ_of_le (Nat.le_max_left first second))
  rw [same, parseUnsigned_toString (Nat.lt_succ_of_le (Nat.le_max_right first second))] at read
  exact (Option.some.inj read).symm

end Foundation.Text
