import Varmlen.Foundation.JsonReading
import Varmlen.Foundation.Utf8

/-!
# The length of a JSON text

How many bytes a value takes up when it is printed without white space.  Escaping makes a
text up to six times as long.
-/

namespace Foundation.Json

open Foundation.Utf8

/-! ## Escaped texts -/

/-- The bytes of a character in a string literal. -/
def escapedSize (char : Char) : Nat :=
  if char = '"' ∨ char = '\\' ∨ char = '\n' ∨ char = '\r' ∨ char = '\t' ∨ char.toNat = 8 ∨
      char.toNat = 12 then 2
  else if char.toNat < 32 then 6
  else char.utf8Size

/-- The bytes of a text in a string literal, without the quotes. -/
def escapedBytes (text : String) : Nat := (text.toList.map escapedSize).sum

theorem bytes_digitChar : ∀ digit < 16, (Nat.digitChar digit).utf8Size = 1 := by decide

theorem bytes_escapeChar (char : Char) : bytes (escapeChar char).toList = escapedSize char := by
  by_cases named : char = '"' ∨ char = '\\' ∨ char = '\n' ∨ char = '\r' ∨ char = '\t' ∨
      char.toNat = 8 ∨ char.toNat = 12
  · rw [escapedSize, if_pos named]
    rcases named with rfl | rfl | rfl | rfl | rfl | backspace | formFeed
    · rfl
    · rfl
    · rfl
    · rfl
    · rfl
    · rw [← Char.ofNat_toNat char, backspace]
      rfl
    · rw [← Char.ofNat_toNat char, formFeed]
      rfl
  · rw [escapedSize, if_neg named]
    simp only [not_or] at named
    rw [escapeChar, if_neg named.1, if_neg named.2.1, if_neg named.2.2.1, if_neg named.2.2.2.1,
      if_neg named.2.2.2.2.1, if_neg named.2.2.2.2.2.1, if_neg named.2.2.2.2.2.2]
    split
    next control =>
      have high := bytes_digitChar (char.toNat / 16) (by omega)
      have low := bytes_digitChar (char.toNat % 16) (by omega)
      rw [String.toList_ofList, bytes_cons, bytes_cons, bytes_cons, bytes_cons, bytes_cons,
        bytes_cons, high, low]
      rfl
    next => simp

/-- Escaping makes no character shorter, and at most six times as long. -/
theorem escapedSize_bounds (char : Char) :
    char.utf8Size ≤ escapedSize char ∧ escapedSize char ≤ 6 * char.utf8Size := by
  rw [escapedSize]
  split
  next named =>
    have ascii : char.toNat < 128 := by
      rcases named with rfl | rfl | rfl | rfl | rfl | backspace | formFeed
      · decide
      · decide
      · decide
      · decide
      · decide
      · omega
      · omega
    rw [utf8Size_of_ascii ascii]
    decide
  next =>
    split
    next control =>
      rw [utf8Size_of_ascii (by omega)]
      decide
    next => omega

theorem escapedBytes_bounds (text : String) :
    bytes text.toList ≤ escapedBytes text ∧ escapedBytes text ≤ 6 * bytes text.toList := by
  rw [escapedBytes]
  induction text.toList with
  | nil => simp
  | cons char rest ih =>
      have bounds := escapedSize_bounds char
      rw [bytes_cons, List.map_cons, List.sum_cons]
      omega

theorem bytes_writeString (text : String) :
    bytes (writeString text).toList = escapedBytes text + 2 := by
  have escaped : bytes (text.toList.flatMap fun char => (escapeChar char).toList) =
      escapedBytes text := by
    rw [escapedBytes]
    induction text.toList with
    | nil => rfl
    | cons char rest ih =>
        rw [List.flatMap_cons, bytes_append, bytes_escapeChar, ih, List.map_cons, List.sum_cons]
  rw [toList_writeString, bytes_cons, bytes_append, escaped]
  have quote : '"'.utf8Size = 1 := rfl
  rw [quote, bytes_cons, quote, bytes_nil]
  omega

/-! ## Values -/

namespace Value

mutual

/-- Without white space the level of nesting does not show. -/
theorem write_compact (value : Value) (level : Nat) :
    value.write .compact level = value.toText := by
  cases value with
  | null => rfl
  | bool value => rfl
  | number value => cases value <;> rfl
  | string value => rfl
  | array items =>
      have parts := writeItems_compact items
      rw [toText, write, write, parts, parts]
      rfl
  | object fields =>
      have parts := writeFields_compact fields
      rw [toText, write, write, parts, parts]
      rfl

theorem writeItems_compact (items : List Value) (level : Nat) :
    writeItems .compact level items = items.map toText := by
  cases items with
  | nil => rfl
  | cons item rest =>
      rw [writeItems, write_compact item level, writeItems_compact rest level, List.map_cons]

theorem writeFields_compact (fields : List (String × Value)) (level : Nat) :
    writeFields .compact level fields =
      fields.map fun field => writeString field.1 ++ ":" ++ field.2.toText := by
  cases fields with
  | nil => rfl
  | cons field rest =>
      rcases field with ⟨key, value⟩
      rw [writeFields, write_compact value level, writeFields_compact rest level, List.map_cons]
      rfl

end

/-- The bytes of the value as it is printed. -/
def textBytes (value : Value) : Nat := bytes value.toText.toList

theorem bytes_partsText (parts : List String) :
    bytes (partsText parts) =
      (parts.map fun part => bytes part.toList).sum + (parts.length - 1) := by
  have comma : ','.utf8Size = 1 := rfl
  induction parts with
  | nil => rfl
  | cons first rest ih =>
      rw [partsText_cons, bytes_append, List.map_cons, List.sum_cons]
      cases rest with
      | nil => rfl
      | cons second rest =>
          rw [if_neg (List.cons_ne_nil _ _), bytes_cons, comma, ih]
          simp only [List.length_cons]
          omega

theorem textBytes_string (text : String) :
    (Value.string text).textBytes = escapedBytes text + 2 :=
  bytes_writeString text

theorem textBytes_array (items : List Value) :
    (Value.array items).textBytes = (items.map textBytes).sum + (items.length - 1) + 2 := by
  have text : (Value.array items).toText =
      bracketed .compact 0 "[" "]" (writeItems .compact 1 items) := rfl
  rw [textBytes, text, writeItems_compact, toList_bracketed, bytes_append, bytes_append,
    bytes_partsText, List.map_map, List.length_map]
  have opening : bytes "[".toList = 1 := rfl
  have closing : bytes "]".toList = 1 := rfl
  rw [opening, closing]
  have same : ((fun part => bytes part.toList) ∘ toText : Value → Nat) = textBytes := rfl
  rw [same]
  omega

theorem textBytes_object (fields : List (String × Value)) :
    (Value.object fields).textBytes =
      (fields.map fun field => escapedBytes field.1 + 3 + field.2.textBytes).sum +
        (fields.length - 1) + 2 := by
  have text : (Value.object fields).toText =
      bracketed .compact 0 "\x7b" "\x7d" (writeFields .compact 1 fields) := rfl
  have field (key : String) (value : Value) :
      bytes (writeString key ++ ":" ++ value.toText).toList =
        escapedBytes key + 3 + value.textBytes := by
    have colon : bytes ":".toList = 1 := rfl
    rw [String.toList_append, String.toList_append, bytes_append, bytes_append,
      bytes_writeString, colon, textBytes]
  rw [textBytes, text, writeFields_compact, toList_bracketed, bytes_append, bytes_append,
    bytes_partsText, List.map_map, List.length_map]
  have opening : bytes "\x7b".toList = 1 := rfl
  have closing : bytes "\x7d".toList = 1 := rfl
  rw [opening, closing]
  simp only [Function.comp_def, field]
  omega

end Value

end Foundation.Json
