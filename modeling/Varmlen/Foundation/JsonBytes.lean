import Varmlen.Foundation.JsonReading
import Varmlen.Foundation.Utf8Lossy

/-!
# The bytes of a JSON text

A value without fractional numbers is printed without white space and without control
characters, whatever its texts hold.
-/

namespace Foundation.Json

open Foundation.Utf8 (encode)

namespace Value

mutual

/-- All numbers in the value are integers. -/
def isIntegral : Value → Bool
  | .number (.float _) => false
  | .array items => itemsIntegral items
  | .object fields => fieldsIntegral fields
  | _ => true

def itemsIntegral : List Value → Bool
  | [] => true
  | value :: rest => isIntegral value && itemsIntegral rest

def fieldsIntegral : List (String × Value) → Bool
  | [] => true
  | (_, value) :: rest => isIntegral value && fieldsIntegral rest

end

@[simp] theorem itemsIntegral_iff {items : List Value} :
    itemsIntegral items = true ↔ ∀ item ∈ items, item.isIntegral = true := by
  induction items with
  | nil => simp [itemsIntegral]
  | cons item rest ih => rw [itemsIntegral, Bool.and_eq_true, ih, List.forall_mem_cons]

theorem isIntegral_array {items : List Value} :
    (Value.array items).isIntegral = true ↔ ∀ item ∈ items, item.isIntegral = true :=
  itemsIntegral_iff

end Value

/-! ## Printed characters -/

/-- No control character stands in the text. -/
def IsPrinted (chars : List Char) : Prop := ∀ char ∈ chars, 32 ≤ char.toNat

theorem isPrinted_append {left right : List Char} (first : IsPrinted left)
    (second : IsPrinted right) : IsPrinted (left ++ right) := by
  intro char member
  exact (List.mem_append.1 member).elim (first char) (second char)

theorem isPrinted_of_all {text : String} (printed : text.toList.all (32 ≤ ·.toNat) = true) :
    IsPrinted text.toList := by
  intro char member
  exact of_decide_eq_true (List.all_eq_true.1 printed char member)

theorem digitChar_printed : ∀ digit < 16, 32 ≤ (Nat.digitChar digit).toNat := by decide

theorem isPrinted_escapeChar (char : Char) : IsPrinted (escapeChar char).toList := by
  rw [escapeChar]
  split
  · exact isPrinted_of_all (by decide)
  split
  · exact isPrinted_of_all (by decide)
  split
  · exact isPrinted_of_all (by decide)
  split
  · exact isPrinted_of_all (by decide)
  split
  · exact isPrinted_of_all (by decide)
  split
  · exact isPrinted_of_all (by decide)
  split
  · exact isPrinted_of_all (by decide)
  split
  next small =>
    have high := digitChar_printed (char.toNat / 16) (by omega)
    have low := digitChar_printed (char.toNat % 16) (by omega)
    intro other member
    simp only [String.toList_ofList, List.mem_cons, List.not_mem_nil, or_false] at member
    rcases member with rfl | rfl | rfl | rfl | rfl | rfl
    · decide
    · decide
    · decide
    · decide
    · exact high
    · exact low
  next large =>
    intro other member
    have same : other = char := by simpa using member
    rw [same]
    exact Nat.le_of_not_lt large

theorem isPrinted_writeString (text : String) : IsPrinted (writeString text).toList := by
  rw [toList_writeString]
  intro char member
  simp only [List.mem_cons, List.mem_append, List.mem_flatMap, List.not_mem_nil, or_false] at member
  rcases member with rfl | ⟨other, _, inside⟩ | rfl
  · decide
  · exact isPrinted_escapeChar other char inside
  · decide

theorem isPrinted_partsText {parts : List String}
    (printed : ∀ part ∈ parts, IsPrinted part.toList) : IsPrinted (partsText parts) := by
  induction parts with
  | nil => intro char member; simp [partsText] at member
  | cons first rest ih =>
      rw [partsText_cons]
      apply isPrinted_append (printed first List.mem_cons_self)
      split
      · intro char member
        cases member
      · intro char member
        cases member with
        | head => decide
        | tail _ inside =>
            exact ih (fun part inRest => printed part (List.mem_cons_of_mem _ inRest)) char inside

theorem isPrinted_int (value : Int) : IsPrinted (toString value).toList := by
  have digits (number : Nat) : IsPrinted (Nat.toDigits 10 number) := by
    intro char member
    have isDigit := Nat.isDigit_of_mem_toDigits (by decide) (by decide) member
    have bounds : 48 ≤ char.toNat := by
      simp only [Char.isDigit, Bool.and_eq_true, decide_eq_true_eq] at isDigit
      exact isDigit.1
    exact Nat.le_trans (by decide) bounds
  rw [Int.toString_eq_repr]
  cases value with
  | ofNat number =>
      have text : (Int.ofNat number).repr.toList = Nat.toDigits 10 number := Nat.toList_repr
      rw [text]
      exact digits number
  | negSucc number =>
      have text : (Int.negSucc number).repr.toList = '-' :: Nat.toDigits 10 (number + 1) := by
        simp [Int.repr, Nat.toList_repr]
      rw [text]
      intro char member
      cases member with
      | head => decide
      | tail _ inside => exact digits _ char inside

mutual

theorem isPrinted_write {value : Value} (integral : value.isIntegral = true) (level : Nat) :
    IsPrinted (value.write .compact level).toList := by
  cases value with
  | null =>
      change IsPrinted "null".toList
      exact isPrinted_of_all (by decide)
  | bool value =>
      cases value with
      | false =>
          change IsPrinted "false".toList
          exact isPrinted_of_all (by decide)
      | true =>
          change IsPrinted "true".toList
          exact isPrinted_of_all (by decide)
  | number given =>
      cases given with
      | int given => exact isPrinted_int given
      | float literal => cases integral
  | string text => exact isPrinted_writeString text
  | array items =>
      rw [Value.write, toList_bracketed]
      apply isPrinted_append
      · apply isPrinted_append
        · exact isPrinted_of_all (by decide)
        · exact isPrinted_partsText (isPrinted_items integral _)
      · exact isPrinted_of_all (by decide)
  | object fields =>
      rw [Value.write, toList_bracketed]
      apply isPrinted_append
      · apply isPrinted_append
        · exact isPrinted_of_all (by decide)
        · exact isPrinted_partsText (isPrinted_fields integral _)
      · exact isPrinted_of_all (by decide)

theorem isPrinted_items {items : List Value} (integral : Value.itemsIntegral items = true)
    (level : Nat) : ∀ part ∈ Value.writeItems .compact level items, IsPrinted part.toList := by
  cases items with
  | nil => intro part member; cases member
  | cons value rest =>
      rw [Value.itemsIntegral, Bool.and_eq_true] at integral
      rw [Value.writeItems]
      intro part member
      cases member with
      | head => exact isPrinted_write integral.1 level
      | tail _ inside => exact isPrinted_items integral.2 level part inside

theorem isPrinted_fields {fields : List (String × Value)}
    (integral : Value.fieldsIntegral fields = true) (level : Nat) :
    ∀ part ∈ Value.writeFields .compact level fields, IsPrinted part.toList := by
  cases fields with
  | nil => intro part member; cases member
  | cons field rest =>
      rcases field with ⟨key, value⟩
      rw [Value.fieldsIntegral, Bool.and_eq_true] at integral
      rw [Value.writeFields]
      intro part member
      cases member with
      | head =>
          rw [String.toList_append, String.toList_append]
          apply isPrinted_append
          · exact isPrinted_append (isPrinted_writeString key) (isPrinted_of_all (by decide))
          · exact isPrinted_write integral.1 level
      | tail _ inside => exact isPrinted_fields integral.2 level part inside

end

/-! ## Printed bytes -/

/-- The bytes of `serde_json::to_vec`. -/
def toBytes (value : Value) : List UInt8 := encode value.toText.toList

theorem printed_encode {chars : List Char} (printed : IsPrinted chars) :
    ∀ byte ∈ encode chars, 0x20 ≤ byte := by
  intro byte member
  obtain ⟨char, inside, isByte⟩ := List.mem_flatMap.1 member
  have control : (0x20 : UInt8).toNat = 32 := rfl
  rw [UInt8.le_iff_toNat_le, control]
  by_cases ascii : byte.toNat < 128
  · have code := (Foundation.Utf8.encodeChar_of_mem isByte ascii).1
    have bound := printed char inside
    omega
  · omega

theorem printed_toBytes {value : Value} (integral : value.isIntegral = true) :
    ∀ byte ∈ toBytes value, 0x20 ≤ byte :=
  printed_encode (isPrinted_write integral 0)

end Foundation.Json
