import Mathlib.Data.List.Basic

/-!
# Base64

Texts in base64, with the standard or the URL-safe alphabet and with padding or without.
The two alphabets agree in all symbols but the last two, and those of one are not in the
other: whatever variant a text was encoded with, it stands for the same bytes in every
variant that accepts it.
-/

namespace Foundation.Base64

/-- How a text is encoded. -/
structure Variant where
  urlSafe : Bool
  padded : Bool
  deriving DecidableEq, Repr

/-- The symbol of six bits. -/
def symbol (urlSafe : Bool) (digit : Nat) : Char :=
  if digit < 26 then Char.ofNat (0x41 + digit)
  else if digit < 52 then Char.ofNat (0x61 + (digit - 26))
  else if digit < 62 then Char.ofNat (0x30 + (digit - 52))
  else if digit = 62 then if urlSafe then '-' else '+'
  else if urlSafe then '_' else '/'

/-- The six bits of a symbol, whichever alphabet it is from. -/
def digitOf (char : Char) : Option Nat :=
  let code := char.toNat
  if 0x41 ≤ code ∧ code ≤ 0x5a then some (code - 0x41)
  else if 0x61 ≤ code ∧ code ≤ 0x7a then some (code - 0x61 + 26)
  else if 0x30 ≤ code ∧ code ≤ 0x39 then some (code - 0x30 + 52)
  else if char = '+' ∨ char = '-' then some 62
  else if char = '/' ∨ char = '_' then some 63
  else none

/-- The bits of the bytes, six at a time; zeros fill up the last ones. -/
def sextets : List UInt8 → List Nat
  | first :: second :: third :: rest =>
      first.toNat / 4 :: (first.toNat % 4 * 16 + second.toNat / 16) ::
        (second.toNat % 16 * 4 + third.toNat / 64) :: third.toNat % 64 :: sextets rest
  | [first, second] =>
      [first.toNat / 4, first.toNat % 4 * 16 + second.toNat / 16, second.toNat % 16 * 4]
  | [first] => [first.toNat / 4, first.toNat % 4 * 16]
  | [] => []

/-- The bytes of some sextets. -/
def bytesOf : List Nat → List UInt8
  | a :: b :: c :: d :: rest =>
      UInt8.ofNat (a * 4 + b / 16) :: UInt8.ofNat (b % 16 * 16 + c / 4) ::
        UInt8.ofNat (c % 4 * 64 + d) :: bytesOf rest
  | [a, b, c] => [UInt8.ofNat (a * 4 + b / 16), UInt8.ofNat (b % 16 * 16 + c / 4)]
  | [a, b] => [UInt8.ofNat (a * 4 + b / 16)]
  | _ => []

def encodeBytes (variant : Variant) (bytes : List UInt8) : List Char :=
  let symbols := (sextets bytes).map (symbol variant.urlSafe)
  if variant.padded then symbols ++ List.replicate ((4 - symbols.length % 4) % 4) '='
  else symbols

def encode (variant : Variant) (text : String) : String :=
  String.ofList (encodeBytes variant text.toUTF8.data.toList)

/-- Read a text that is the encoding of another one. -/
def decode (variant : Variant) (text : String) : Option String :=
  let bytes := bytesOf (text.toList.filterMap digitOf)
  (String.fromUTF8? ⟨bytes.toArray⟩).filter fun decoded => encode variant decoded == text

/-! ## What an encoding stands for -/

theorem digitOf_symbol {digit : Nat} (urlSafe : Bool) (small : digit < 64) :
    digitOf (symbol urlSafe digit) = some digit := by
  have table : ∀ urlSafe, ∀ digit < 64, digitOf (symbol urlSafe digit) = some digit := by
    decide
  exact table urlSafe digit small

theorem sextets_small (bytes : List UInt8) : ∀ digit ∈ sextets bytes, digit < 64 := by
  induction bytes using sextets.induct with
  | case1 first second third rest ih =>
      have firstLt := first.toNat_lt
      have secondLt := second.toNat_lt
      have thirdLt := third.toNat_lt
      rw [sextets]
      simp only [List.forall_mem_cons]
      exact ⟨by omega, by omega, by omega, by omega, ih⟩
  | case2 first second =>
      have firstLt := first.toNat_lt
      have secondLt := second.toNat_lt
      rw [sextets]
      simp only [List.forall_mem_cons]
      exact ⟨by omega, by omega, by omega, by simp⟩
  | case3 first =>
      have firstLt := first.toNat_lt
      rw [sextets]
      simp only [List.forall_mem_cons]
      exact ⟨by omega, by omega, by simp⟩
  | case4 => simp [sextets]

theorem bytesOf_sextets (bytes : List UInt8) : bytesOf (sextets bytes) = bytes := by
  have whole (byte : UInt8) {value : Nat} (same : value = byte.toNat) :
      UInt8.ofNat value = byte := by rw [same, UInt8.ofNat_toNat]
  induction bytes using sextets.induct with
  | case1 first second third rest ih =>
      have secondLt := second.toNat_lt
      have thirdLt := third.toNat_lt
      rw [sextets, bytesOf, ih, whole first (by omega), whole second (by omega),
        whole third (by omega)]
  | case2 first second =>
      have secondLt := second.toNat_lt
      rw [sextets, bytesOf, whole first (by omega), whole second (by omega)]
  | case3 first => rw [sextets, bytesOf, whole first (by omega)]
  | case4 => rfl

/-- The symbols of an encoding are its sextets, whatever the variant. -/
theorem filterMap_encodeBytes (variant : Variant) (bytes : List UInt8) :
    (encodeBytes variant bytes).filterMap digitOf = sextets bytes := by
  have symbols : ((sextets bytes).map (symbol variant.urlSafe)).filterMap digitOf =
      sextets bytes := by
    rw [List.filterMap_map]
    have read : ∀ digit ∈ sextets bytes,
        (digitOf ∘ symbol variant.urlSafe) digit = some digit :=
      fun digit member => digitOf_symbol variant.urlSafe (sextets_small bytes digit member)
    rw [List.filterMap_congr read, List.filterMap_some]
  have padding : ∀ count, (List.replicate count '=').filterMap digitOf = [] := by
    intro count
    rw [List.filterMap_eq_nil_iff]
    intro char member
    rw [List.eq_of_mem_replicate member]
    decide
  rw [encodeBytes]
  split
  next => rw [List.filterMap_append, symbols, padding, List.append_nil]
  next => exact symbols

theorem encodeBytes_injective {variant other : Variant} {left right : List UInt8}
    (same : encodeBytes variant left = encodeBytes other right) : left = right := by
  have digits : sextets left = sextets right := by
    rw [← filterMap_encodeBytes variant left, same, filterMap_encodeBytes]
  rw [← bytesOf_sextets left, digits, bytesOf_sextets]

/-- Two texts with a common encoding are the same, even where the variants differ. -/
theorem encode_injective {variant other : Variant} {left right : String}
    (same : encode variant left = encode other right) : left = right := by
  rw [encode, encode, String.ofList_inj] at same
  have bytes := encodeBytes_injective same
  rw [← String.toByteArray_inj]
  exact ByteArray.ext (Array.ext' bytes)

theorem decode_eq_some_iff {variant : Variant} {text decoded : String} :
    decode variant text = some decoded ↔ encode variant decoded = text := by
  rw [decode, Option.filter_eq_some_iff, beq_iff_eq]
  constructor
  · intro ⟨_, encoded⟩
    exact encoded
  · intro encoded
    refine ⟨?_, encoded⟩
    rw [← encoded, encode, String.toList_ofList, filterMap_encodeBytes, bytesOf_sextets]
    rw [Array.toArray_toList, String.fromUTF8?]
    exact dif_pos decoded.isValidUTF8

/-! ## The characters of an encoding -/

theorem mem_encode {variant : Variant} {text : String} {char : Char}
    (member : char ∈ (encode variant text).toList) : (digitOf char).isSome ∨ char = '=' := by
  rw [encode, String.toList_ofList, encodeBytes] at member
  have symbols : char ∈ (sextets text.toUTF8.data.toList).map (symbol variant.urlSafe) →
      (digitOf char).isSome ∨ char = '=' := by
    intro listed
    rcases List.mem_map.1 listed with ⟨digit, isDigit, rfl⟩
    left
    rw [digitOf_symbol variant.urlSafe (sextets_small _ digit isDigit)]
    rfl
  split at member
  next =>
    rcases List.mem_append.1 member with listed | padding
    · exact symbols listed
    · exact .inr (List.eq_of_mem_replicate padding)
  next => exact symbols member

theorem not_mem_encode {variant : Variant} {text : String} {char : Char}
    (noSymbol : digitOf char = none) (noPadding : char ≠ '=') :
    char ∉ (encode variant text).toList := by
  intro member
  rcases mem_encode member with symbol | padding
  · rw [noSymbol] at symbol
    cases symbol
  · exact noPadding padding

theorem eq_empty_of_encode {variant : Variant} {text : String}
    (empty : encode variant text = "") : text = "" := by
  have nothing : encode variant "" = "" := by
    rcases variant with ⟨urlSafe, padded⟩
    cases urlSafe <;> cases padded <;> rfl
  exact encode_injective (empty.trans nothing.symm)

/-- The symbols of both alphabets, and the padding. -/
def symbolChars : List Char :=
  "ABCDEFGHIJKLMNOPQRSTUVWXYZabcdefghijklmnopqrstuvwxyz0123456789+-/_=".toList

theorem mem_symbolChars {variant : Variant} {text : String} {char : Char}
    (member : char ∈ (encode variant text).toList) : char ∈ symbolChars := by
  have symbols : ∀ urlSafe, ∀ digit < 64, symbol urlSafe digit ∈ symbolChars := by
    decide +kernel
  have listed {digits : List Nat} (small : ∀ digit ∈ digits, digit < 64)
      (isSymbol : char ∈ digits.map (symbol variant.urlSafe)) : char ∈ symbolChars := by
    rcases List.mem_map.1 isSymbol with ⟨digit, isDigit, rfl⟩
    exact symbols variant.urlSafe digit (small digit isDigit)
  rw [encode, String.toList_ofList, encodeBytes] at member
  split at member
  next =>
    rcases List.mem_append.1 member with isSymbol | padding
    · exact listed (sextets_small _) isSymbol
    · rw [List.eq_of_mem_replicate padding]
      decide
  next => exact listed (sextets_small _) member

/-- The first byte of a text is not among the highest. -/
theorem first_byte_lt {text : String} {first : UInt8} {rest : List UInt8}
    (bytes : text.toUTF8.data.toList = first :: rest) : first.toNat < 0xf8 := by
  have small : ∀ code < 256, (UInt8.ofNat code).IsUTF8FirstByte → code < 0xf8 := by decide +kernel
  have opens : first.IsUTF8FirstByte := by
    rw [← String.ofList_toList (s := text)] at bytes
    cases chars : text.toList with
    | nil =>
        rw [chars] at bytes
        cases bytes
    | cons char others =>
        rw [chars, String.toUTF8_eq_toByteArray, String.toByteArray_ofList, List.utf8Encode_cons,
          List.utf8Encode_singleton] at bytes
        cases encoded : String.utf8EncodeChar char with
        | nil => exact absurd encoded String.utf8EncodeChar_ne_nil
        | cons byte more =>
            have isFirst := UInt8.isUTF8FirstByte_getElem_zero_utf8EncodeChar (c := char)
            simp [encoded] at isFirst bytes
            rwa [bytes.1] at isFirst
  have whole := small first.toNat first.toNat_lt
  rw [UInt8.ofNat_toNat] at whole
  exact whole opens

/-- Only bytes that no text starts with are encoded with a slash in front. -/
theorem head?_encode_ne_slash (variant : Variant) (text : String) :
    (encode variant text).toList.head? ≠ some '/' := by
  intro slash
  cases bytes : text.toUTF8.data.toList with
  | nil =>
      have nothing : encodeBytes variant [] = [] := by
        rcases variant with ⟨urlSafe, padded⟩
        cases urlSafe <;> cases padded <;> rfl
      rw [encode, String.toList_ofList, bytes, nothing] at slash
      cases slash
  | cons first rest =>
      have small := first_byte_lt bytes
      have symbols : ∀ urlSafe, ∀ digit < 62, symbol urlSafe digit ≠ '/' := by decide
      rw [encode, String.toList_ofList, bytes] at slash
      have opened : ∃ more, sextets (first :: rest) = first.toNat / 4 :: more := by
        cases rest with
        | nil => exact ⟨_, rfl⟩
        | cons second others =>
            cases others with
            | nil => exact ⟨_, rfl⟩
            | cons third others => exact ⟨_, rfl⟩
      rcases opened with ⟨more, digits⟩
      have headed : (encodeBytes variant (first :: rest)).head? =
          some (symbol variant.urlSafe (first.toNat / 4)) := by
        rw [encodeBytes, digits]
        split
        next => rfl
        next => rfl
      rw [headed] at slash
      exact symbols variant.urlSafe _ (by omega) (Option.some.inj slash)

end Foundation.Base64
