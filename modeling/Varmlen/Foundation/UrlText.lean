import Mathlib.Data.List.DropRight
import Varmlen.Foundation.TextParts

/-!
# URLs as the standard reads them

What a URL parser does to a text whose scheme is of no special kind, up to the host: what is
taken off first, where the authority ends, which hosts are refused, and how the other ones are
written.
-/

namespace Foundation.UrlText

open Foundation.Text

/-! ## The text that is read -/

/-- A character that is stripped off both ends. -/
def isC0OrSpace (char : Char) : Bool := char.toNat ≤ 0x20

/-- A character that is taken out everywhere. -/
def isTabOrNewline (char : Char) : Bool := char == '\t' || char == '\n' || char == '\r'

/-- The characters without the ones that are stripped off the end or taken out. -/
def cleaned (chars : List Char) : List Char :=
  (chars.rdropWhile isC0OrSpace).filter fun char => !isTabOrNewline char

/-- The characters of a text that are parsed. -/
def input (text : String) : List Char := cleaned (text.toList.dropWhile isC0OrSpace)

/-- The characters that end an authority. -/
def authorityEnds : List Char := ['/', '?', '#']

/-- What stands between the two slashes after the scheme and the path. -/
def authority (text : String) : List Char :=
  (((input text).dropWhile (· != ':')).drop 3).takeWhile fun char => !authorityEnds.contains char

/-- What is taken out is white space, of the kind that is stripped off. -/
theorem of_isTabOrNewline {char : Char} (dropped : isTabOrNewline char = true) :
    isWhitespace char = true ∧ isC0OrSpace char = true := by
  have listed : char = '\t' ∨ char = '\n' ∨ char = '\r' := by
    simpa [isTabOrNewline, or_assoc] using dropped
  rcases listed with rfl | rfl | rfl
  · decide
  · decide
  · decide

theorem kept_of_solid {char : Char} (solid : isC0OrSpace char = false) :
    isTabOrNewline char = false := by
  rw [Bool.eq_false_iff]
  intro dropped
  rw [(of_isTabOrNewline dropped).2] at solid
  cases solid

theorem isC0OrSpace_eq_false {char : Char} (visible : isWhitespace char = false)
    (high : 0x20 ≤ char.toNat) : isC0OrSpace char = false := by
  rw [isC0OrSpace, decide_eq_false_iff_not]
  intro low
  have space : char.toNat = 0x20 := by omega
  simp [isWhitespace, space] at visible

section Cleaned

variable {front back : List Char} {last : Char}

/-- Nothing before a solid character is stripped off the end. -/
theorem cleaned_append_cons (solid : isC0OrSpace last = false) :
    cleaned (front ++ last :: back) =
      (front.filter fun char => !isTabOrNewline char) ++ last :: cleaned back := by
  have stripped : (front ++ last :: back).rdropWhile isC0OrSpace =
      front ++ last :: back.rdropWhile isC0OrSpace := by
    induction back using List.reverseRecOn with
    | nil => rw [List.rdropWhile_concat_neg _ _ _ (by simp [solid]), List.rdropWhile_nil]
    | append_singleton more final ih =>
        have regrouped :
            front ++ last :: (more ++ [final]) = (front ++ last :: more) ++ [final] := by
          simp
        rw [regrouped]
        cases drops : isC0OrSpace final with
        | true =>
            rw [List.rdropWhile_concat_pos _ _ _ drops, List.rdropWhile_concat_pos _ _ _ drops, ih]
        | false =>
            rw [List.rdropWhile_concat_neg _ _ _ (by simp [drops]),
              List.rdropWhile_concat_neg _ _ _ (by simp [drops]), regrouped]
  rw [cleaned, stripped, List.filter_append,
    List.filter_cons_of_pos (by simp [kept_of_solid solid]), cleaned]

theorem mem_of_mem_cleaned {chars : List Char} {char : Char} (member : char ∈ cleaned chars) :
    char ∈ chars :=
  (List.rdropWhile_prefix isC0OrSpace _).subset (List.mem_of_mem_filter member)

end Cleaned

section Input

variable {text : String} {front rest : List Char}

theorem input_of_solid {first : Char} (parts : text.toList = front ++ first :: rest)
    (stripped : ∀ char ∈ front, isC0OrSpace char = true) (solid : isC0OrSpace first = false) :
    input text = first :: cleaned rest := by
  rw [input, parts, List.dropWhile_append_of_pos stripped,
    List.dropWhile_cons_of_neg (by simp [solid])]
  have kept : cleaned ([] ++ first :: rest) = [] ++ first :: cleaned rest :=
    cleaned_append_cons solid
  exact kept

/-- The first character that is not stripped comes first. -/
theorem input_head {solid : Char} (parts : text.toList = front ++ rest) (member : solid ∈ front)
    (isSolid : isC0OrSpace solid = false) :
    ∃ first ∈ front, isC0OrSpace first = false ∧ (input text).head? = some first := by
  have found : (front.find? fun char => !isC0OrSpace char).isSome = true := by
    rw [List.find?_isSome]
    exact ⟨solid, member, by rw [isSolid, Bool.not_false]⟩
  rcases Option.isSome_iff_exists.1 found with ⟨first, isFirst⟩
  rcases List.find?_eq_some_iff_append.1 isFirst with ⟨kept, before, after, cut, stripped⟩
  have firstSolid : isC0OrSpace first = false := by simpa using kept
  have whole : text.toList = before ++ first :: (after ++ rest) := by
    rw [parts, cut, List.append_assoc, List.cons_append]
  refine ⟨first, List.mem_of_find?_eq_some isFirst, firstSolid, ?_⟩
  rw [input_of_solid whole (by simpa using stripped) firstSolid, List.head?_cons]

theorem authority_eq {scheme : String} (noColon : ':' ∉ scheme.toList)
    (opened : input text = (scheme ++ "://").toList ++ rest) :
    authority text = rest.takeWhile fun char => !authorityEnds.contains char := by
  have parts : (scheme ++ "://").toList ++ rest = scheme.toList ++ ':' :: '/' :: '/' :: rest := by
    rw [String.toList_append, List.append_assoc]
    rfl
  rw [authority, opened, parts, dropWhile_ne_append noColon]
  rfl

theorem mem_authority {char : Char} (member : char ∈ authority text) :
    isTabOrNewline char = false ∧ char ∉ authorityEnds := by
  have inInput : char ∈ input text :=
    (List.dropWhile_suffix _).subset
      (List.mem_of_mem_drop ((List.takeWhile_prefix _).subset member))
  have kept := List.mem_filter.1 inInput
  have before := List.all_eq_true.1 List.all_takeWhile char member
  exact ⟨by simpa using kept.2, by simpa using before⟩

end Input

/-! ## Schemes -/

/-- The schemes that a parser has rules of their own for. -/
def specialSchemes : List String := ["ftp", "file", "http", "https", "ws", "wss"]

/-- A scheme of no special kind. -/
def isOpaqueScheme (scheme : String) : Bool :=
  !specialSchemes.contains scheme && scheme.toList.head?.any Char.isLower &&
    scheme.toList.all fun char => char.isLower || char.isDigit || ['+', '-', '.'].contains char

/-! ## Hosts -/

/-- The characters that no host has. -/
def forbiddenHostChars : List Char :=
  ['\x00', '\t', '\n', '\r', ' ', '#', '/', ':', '<', '>', '?', '@', '[', '\\', ']', '^', '|']

def hexDigit (digit : Nat) : Char :=
  if digit < 10 then Char.ofNat (0x30 + digit) else Char.ofNat (0x41 + (digit - 10))

def percentEncodedByte (byte : UInt8) : List Char :=
  ['%', hexDigit (byte.toNat / 16), hexDigit (byte.toNat % 16)]

/-- A character that is written as it is. -/
def isPrintable (char : Char) : Bool := 0x20 ≤ char.toNat && char.toNat ≤ 0x7e

/-- A character as it is written in a host. -/
def percentEncoded (char : Char) : List Char :=
  if isPrintable char then [char] else (String.utf8EncodeChar char).flatMap percentEncodedByte

/-- The host that an authority without user info and port gives, as it is written. -/
def opaqueHost (authority : List Char) : Option String :=
  if authority.any forbiddenHostChars.contains then none
  else some (.ofList (authority.flatMap percentEncoded))

theorem percentEncoded_ne_nil (char : Char) : percentEncoded char ≠ [] := by
  rw [percentEncoded]
  split
  next => exact List.cons_ne_nil _ _
  next =>
    cases encoded : String.utf8EncodeChar char with
    | nil => exact absurd encoded String.utf8EncodeChar_ne_nil
    | cons byte more => exact List.cons_ne_nil _ _

theorem percentEncoded_self {chars : List Char}
    (printable : ∀ char ∈ chars, isPrintable char = true) :
    chars.flatMap percentEncoded = chars := by
  induction chars with
  | nil => rfl
  | cons char rest ih =>
      rw [List.forall_mem_cons] at printable
      rw [List.flatMap_cons, percentEncoded, if_pos printable.1, ih printable.2]
      rfl

def percentChars : List Char := "%0123456789ABCDEF".toList

theorem mem_percentEncoded {char written : Char} (member : written ∈ percentEncoded char) :
    (written = char ∧ isPrintable char = true) ∨ written ∈ percentChars := by
  have digits : ∀ digit < 16, hexDigit digit ∈ percentChars := by decide
  rw [percentEncoded] at member
  split at member
  next printable => exact .inl ⟨List.mem_singleton.1 member, printable⟩
  next =>
    rcases List.mem_flatMap.1 member with ⟨byte, _, inByte⟩
    have small := byte.toNat_lt
    right
    rw [percentEncodedByte, List.mem_cons, List.mem_pair] at inByte
    rcases inByte with rfl | rfl | rfl
    · decide
    · exact digits _ (by omega)
    · exact digits _ (by omega)

/-- A host has no white space. -/
theorem visible_percentEncoded {char written : Char} (noSpace : char ≠ ' ')
    (member : written ∈ percentEncoded char) :
    isWhitespace written = false ∧ written.toNat < 0x80 := by
  have digits : ∀ digit ∈ percentChars, isWhitespace digit = false ∧ digit.toNat < 0x80 :=
    forall_mem_of_all (by decide)
  rcases mem_percentEncoded member with ⟨rfl, printable⟩ | digit
  · have code : written.toNat ≠ 0x20 := fun same => noSpace (Char.toNat_inj.1 same)
    simp only [isPrintable, Bool.and_eq_true, decide_eq_true_eq] at printable
    refine ⟨?_, by omega⟩
    simp [isWhitespace]
    omega
  · exact digits written digit

end Foundation.UrlText
