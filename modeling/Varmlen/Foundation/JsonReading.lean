import Varmlen.Foundation.JsonText
import Varmlen.Foundation.JsonTree

/-!
# Reading back what was written

A reader gives a document back as it was written, up to the last digit of its inexact
numbers, unless the document nests too deeply.  What does not look at inexact numbers
cannot tell the two apart.
-/

namespace Foundation.Json

namespace Value

theorem asU64_nat {number : Nat} (small : number < 2 ^ 64) :
    (nat number).asU64 = some number := by
  rw [nat, asU64, if_pos (by omega), Int.toNat_natCast]

mutual

/-- The value with its inexact numbers left open. -/
def exactPart : Value → Value
  | .number (.float _) => .number (.float "")
  | .array items => .array (itemsExactPart items)
  | .object fields => .object (fieldsExactPart fields)
  | value => value

def itemsExactPart : List Value → List Value
  | [] => []
  | value :: rest => exactPart value :: itemsExactPart rest

def fieldsExactPart : List (String × Value) → List (String × Value)
  | [] => []
  | (key, value) :: rest => (key, exactPart value) :: fieldsExactPart rest

end

theorem itemsExactPart_eq (items : List Value) :
    itemsExactPart items = items.map exactPart := by
  induction items with
  | nil => rfl
  | cons item rest ih => rw [itemsExactPart, ih, List.map_cons]

@[simp] theorem get_fieldsExactPart (fields : Object) (key : String) :
    Object.get (fieldsExactPart fields) key = (Object.get fields key).map exactPart := by
  induction fields with
  | nil => rfl
  | cons field rest ih =>
      rw [fieldsExactPart, Object.get, Object.get, ih]
      split
      next => rfl
      next => rfl

@[simp] theorem keysAll_fieldsExactPart (test : String → Bool) (fields : Object) :
    Object.keysAll test (fieldsExactPart fields) = Object.keysAll test fields := by
  induction fields with
  | nil => rfl
  | cons field rest ih => exact congrArg (test field.1 && ·) ih

@[simp] theorem get_exactPart (value : Value) (key : String) :
    value.exactPart.get key = (value.get key).map exactPart := by
  cases value with
  | object fields => exact get_fieldsExactPart fields key
  | number number => cases number <;> rfl
  | _ => rfl

@[simp] theorem asString_exactPart (value : Value) :
    value.exactPart.asString = value.asString := by
  cases value with
  | number number => cases number <;> rfl
  | _ => rfl

@[simp] theorem asBool_exactPart (value : Value) : value.exactPart.asBool = value.asBool := by
  cases value with
  | number number => cases number <;> rfl
  | _ => rfl

@[simp] theorem asU64_exactPart (value : Value) : value.exactPart.asU64 = value.asU64 := by
  cases value with
  | number number => cases number <;> rfl
  | _ => rfl

@[simp] theorem asArray_exactPart (value : Value) :
    value.exactPart.asArray = value.asArray.map (·.map exactPart) := by
  cases value with
  | array items => exact congrArg some (itemsExactPart_eq items)
  | number number => cases number <;> rfl
  | _ => rfl

@[simp] theorem asObject_exactPart (value : Value) :
    value.exactPart.asObject = value.asObject.map fieldsExactPart := by
  cases value with
  | number number => cases number <;> rfl
  | _ => rfl

@[simp] theorem bind_asArray_exactPart (field : Option Value) :
    (field.map exactPart).bind asArray = (field.bind asArray).map (·.map exactPart) := by
  cases field with
  | none => rfl
  | some value => exact asArray_exactPart value

@[simp] theorem bind_asObject_exactPart (field : Option Value) :
    (field.map exactPart).bind asObject = (field.bind asObject).map fieldsExactPart := by
  cases field with
  | none => rfl
  | some value => exact asObject_exactPart value

@[simp] theorem bind_asString_exactPart (field : Option Value) :
    (field.map exactPart).bind asString = field.bind asString := by
  cases field with
  | none => rfl
  | some value => exact asString_exactPart value

@[simp] theorem bind_asBool_exactPart (field : Option Value) :
    (field.map exactPart).bind asBool = field.bind asBool := by
  cases field with
  | none => rfl
  | some value => exact asBool_exactPart value

@[simp] theorem bind_asU64_exactPart (field : Option Value) :
    (field.map exactPart).bind asU64 = field.bind asU64 := by
  cases field with
  | none => rfl
  | some value => exact asU64_exactPart value

@[simp] theorem getString_exactPart (value : Value) (key : String) :
    value.exactPart.getString key = value.getString key := by
  rw [getString, getString, get_exactPart, bind_asString_exactPart]

@[simp] theorem pointer_exactPart (value : Value) (path : List String) :
    value.exactPart.pointer path = (value.pointer path).map exactPart := by
  induction path generalizing value with
  | nil => rfl
  | cons key rest ih =>
      rw [pointer, pointer, get_exactPart]
      cases value.get key with
      | none => rfl
      | some field => exact ih field

mutual

theorem anyKey_exactPart (test : String → Bool) (value : Value) :
    anyKey test value.exactPart = anyKey test value := by
  cases value with
  | object fields => exact fieldsAnyKey_exactPart test fields
  | array items => exact itemsAnyKey_exactPart test items
  | number number => cases number <;> rfl
  | null => rfl
  | bool value => rfl
  | string value => rfl

theorem fieldsAnyKey_exactPart (test : String → Bool) (fields : List (String × Value)) :
    fieldsAnyKey test (fieldsExactPart fields) = fieldsAnyKey test fields := by
  match fields with
  | [] => rfl
  | (key, value) :: rest =>
      rw [fieldsExactPart, fieldsAnyKey, fieldsAnyKey, anyKey_exactPart test value,
        fieldsAnyKey_exactPart test rest]

theorem itemsAnyKey_exactPart (test : String → Bool) (items : List Value) :
    itemsAnyKey test (itemsExactPart items) = itemsAnyKey test items := by
  match items with
  | [] => rfl
  | value :: rest =>
      rw [itemsExactPart, itemsAnyKey, itemsAnyKey, anyKey_exactPart test value,
        itemsAnyKey_exactPart test rest]

end

end Value

/-! ## Readers -/

/-- A reader gives up on a document that nests this deep. -/
def recursionLimit : Nat := 128

/-- How a reader takes the text of a document. -/
structure ReadsBack (read : JsonReader) (text : String) (document : Value) : Prop where
  shallow : document.depth < recursionLimit →
    ∃ back, read text = .ok back ∧ back.exactPart = document.exactPart
  deep : recursionLimit ≤ document.depth → ∃ error, read text = .error error

/-- Whether a reading passes a check that does not look at inexact numbers. -/
theorem ReadsBack.passes_iff {read : JsonReader} {text : String} {document : Value}
    (reads : ReadsBack read text document) {check : Value → Prop}
    (exact : ∀ value : Value, check value.exactPart ↔ check value) :
    (∃ back, read text = .ok back ∧ check back) ↔
      document.depth < recursionLimit ∧ check document := by
  by_cases shallow : document.depth < recursionLimit
  · rcases reads.shallow shallow with ⟨back, given, same⟩
    have sameCheck : check back ↔ check document := by
      rw [← exact back, same, exact document]
    rw [given]
    simp [shallow, sameCheck]
  · rcases reads.deep (Nat.le_of_not_lt shallow) with ⟨error, failed⟩
    rw [failed]
    simp [shallow]

theorem readsBack_of_read {read : JsonReader} {text : String} {document : Value}
    (given : read text = .ok document) (shallow : document.depth < recursionLimit) :
    ReadsBack read text document :=
  ⟨fun _ => ⟨document, given, rfl⟩, fun deep => absurd shallow (Nat.not_lt.2 deep)⟩

/-- A reader that knows some texts. -/
def JsonReader.ofTexts (documents : List (String × Value)) : JsonReader := fun text =>
  match documents.lookup text with
  | some document => .ok document
  | none => .error "expected value at line 1 column 1"

section Texts

variable {text : String} {document : Value} {rest : List (String × Value)}

theorem ofTexts_head : JsonReader.ofTexts ((text, document) :: rest) text = .ok document := by
  simp [JsonReader.ofTexts]

theorem ofTexts_tail {wanted : String} (different : wanted ≠ text) :
    JsonReader.ofTexts ((text, document) :: rest) wanted = JsonReader.ofTexts rest wanted := by
  rw [JsonReader.ofTexts, List.lookup_cons, beq_false_of_ne different]
  rfl

end Texts

/-! ## The characters of a text -/

theorem toList_writeString (written : String) :
    (writeString written).toList =
      '"' :: (written.toList.flatMap (fun char => (escapeChar char).toList) ++ ['"']) := by
  simp [writeString, List.flatMap_map]

/-- The parts of an array or an object, one after the other. -/
def partsText (parts : List String) : List Char := (String.intercalate "," parts).toList

theorem toList_bracketed (level : Nat) (opening closing : String) (parts : List String) :
    (bracketed .compact level opening closing parts).toList =
      opening.toList ++ partsText parts ++ closing.toList := by
  cases parts with
  | nil => simp [bracketed, partsText]
  | cons first rest => simp [bracketed, Layout.compact, partsText]

theorem partsText_cons (first : String) (rest : List String) :
    partsText (first :: rest) =
      first.toList ++ if rest = [] then [] else ',' :: partsText rest := by
  cases rest with
  | nil => simp [partsText]
  | cons second rest => simp [partsText, String.intercalate_cons_cons]

/-! ## The first characters of a text -/

theorem intercalate_cons (separator first : String) (rest : List String) :
    ∃ tail, String.intercalate separator (first :: rest) = first ++ tail := by
  cases rest with
  | nil => exact ⟨"", by rw [String.intercalate_singleton, String.append_empty]⟩
  | cons second rest =>
      exact ⟨separator ++ String.intercalate separator (second :: rest), by
        rw [String.intercalate_cons_cons, String.append_assoc]⟩

theorem toText_object (field : String × Value) (rest : List (String × Value)) :
    ∃ tail, (Value.object (field :: rest)).toText.toList = '\x7b' :: '"' :: tail := by
  rcases intercalate_cons ","
    (writeString field.1 ++ ":" ++ field.2.write .compact 1)
    (Value.writeFields .compact 1 rest) with ⟨more, fields⟩
  have text : (Value.object (field :: rest)).toText =
      "\x7b" ++ "" ++ (writeString field.1 ++ ":" ++ field.2.write .compact 1 ++ more) ++
        "" ++ "\x7d" := by
    rw [← fields]
    rfl
  rw [text, writeString]
  simp

theorem toPrettyText_object (field : String × Value) (rest : List (String × Value)) :
    ∃ tail, (Value.object (field :: rest)).toPrettyText.toList = '\x7b' :: '\n' :: tail := by
  have text : (Value.object (field :: rest)).toPrettyText =
      bracketed .pretty 0 "\x7b" "\x7d" (Value.writeFields .pretty 1 (field :: rest)) := rfl
  rw [text, Value.writeFields]
  simp [bracketed, Layout.pretty]

theorem toText_array (items : List Value) :
    ∃ tail, (Value.array items).toText.toList = '[' :: tail := by
  have text : (Value.array items).toText =
      bracketed .compact 0 "[" "]" (Value.writeItems .compact 1 items) := rfl
  rw [text, bracketed]
  split
  next => simp
  next => simp

/-- The two ways to write an object differ. -/
theorem toPrettyText_ne_toText {field other : String × Value}
    {rest others : List (String × Value)} :
    (Value.object (field :: rest)).toPrettyText ≠ (Value.object (other :: others)).toText := by
  intro same
  rcases toPrettyText_object field rest with ⟨_, pretty⟩
  rcases toText_object other others with ⟨_, compact⟩
  rw [same, compact, List.cons.injEq, List.cons.injEq] at pretty
  exact absurd pretty.2.1 (by decide)

/-- No text of an object is one of an array. -/
theorem toText_array_ne {items : List Value} {text : String} {tail : List Char}
    (opened : text.toList = '\x7b' :: tail) : text ≠ (Value.array items).toText := by
  intro same
  rcases toText_array items with ⟨_, array⟩
  rw [same, array, List.cons.injEq] at opened
  exact absurd opened.1 (by decide)

end Foundation.Json
