import Mathlib.Data.List.Basic
import Varmlen.Foundation.JsonText

/-!
# Typed JSON

How values of a type are written as JSON documents and read from them, the way derived
implementations do it.  Documents are raw here: an object lists its fields as they stand
in the text, so that a field may occur twice.  A format reads back what it has written.
-/

namespace Foundation.Serde

open Foundation.Json

/-- A way to write the values of a type that loses nothing. -/
structure Format (α : Type) where
  write : α → Value
  read : Value → Option α
  readsBack : ∀ value, read (write value) = some value

variable {α β : Type}

/-! ## Scalars and lists -/

def readString : Value → Option String
  | .string text => some text
  | _ => none

def readBool : Value → Option Bool
  | .bool value => some value
  | _ => none

/-- An integer from zero up to a bound. -/
def readUnsigned (bound : Nat) : Value → Option Nat
  | .number (.int (.ofNat number)) => if number < bound then some number else none
  | _ => none

def readList (read : Value → Option α) : Value → Option (List α)
  | .array items => items.mapM read
  | _ => none

/-- A value that may be `null`. -/
def readOption (read : Value → Option α) : Value → Option (Option α)
  | .null => some none
  | document => (read document).map some

theorem readUnsigned_ofNat {bound number : Nat} (fits : number < bound) :
    readUnsigned bound (.number (.int (.ofNat number))) = some number := by
  rw [readUnsigned, if_pos fits]

def Format.string : Format String where
  write := .string
  read := readString
  readsBack _ := rfl

def Format.bool : Format Bool where
  write := .bool
  read := readBool
  readsBack _ := rfl

def Format.u16 : Format UInt16 where
  write value := .number (.int (.ofNat value.toNat))
  read document := (readUnsigned (2 ^ 16) document).map UInt16.ofNat
  readsBack value := by
    rw [readUnsigned_ofNat value.toNat_lt, Option.map_some, UInt16.ofNat_toNat]

def Format.u32 : Format UInt32 where
  write value := .number (.int (.ofNat value.toNat))
  read document := (readUnsigned (2 ^ 32) document).map UInt32.ofNat
  readsBack value := by
    rw [readUnsigned_ofNat value.toNat_lt, Option.map_some, UInt32.ofNat_toNat]

def Format.u64 : Format UInt64 where
  write value := .number (.int (.ofNat value.toNat))
  read document := (readUnsigned (2 ^ 64) document).map UInt64.ofNat
  readsBack value := by
    rw [readUnsigned_ofNat value.toNat_lt, Option.map_some, UInt64.ofNat_toNat]

theorem mapM_map_some {read : β → Option α} {write : α → β}
    (readsBack : ∀ value, read (write value) = some value) (values : List α) :
    (values.map write).mapM read = some values := by
  induction values with
  | nil => rfl
  | cons value rest ih =>
      rw [List.map_cons, List.mapM_cons, readsBack, ih]
      rfl

def Format.list (format : Format α) : Format (List α) where
  write values := .array (values.map format.write)
  read := readList format.read
  readsBack := mapM_map_some format.readsBack

/-- Values with a text form of their own. -/
def Format.text (write : α → String) (read : String → Option α)
    (readsBack : ∀ value, read (write value) = some value) : Format α where
  write value := .string (write value)
  read document := (readString document).bind read
  readsBack value := readsBack value

/-! ## Variants -/

/-- The name of a variant and what it carries. -/
def variant : Value → Option (String × Option Value)
  | .string name => some (name, none)
  | .object [(name, payload)] => some (name, some payload)
  | _ => none

/-- A variant that carries nothing may be given with `null`. -/
def carriesNothing : Option Value → Bool
  | none => true
  | some .null => true
  | some _ => false

/-- An enumeration, by the names of its variants. -/
def Format.enumeration (all : List α) (name : α → String)
    (found : ∀ value, all.find? (fun other => name other == name value) = some value) :
    Format α where
  write value := .string (name value)
  read document :=
    match variant document with
    | some (given, payload) =>
        if carriesNothing payload then all.find? fun other => name other == given else none
    | none => none
  readsBack := found

/-! ## Records -/

/-- A field that is missing or given once.  One that is given twice cannot be read. -/
def field (fields : List (String × Value)) (name : String) : Option (Option Value) :=
  match fields.filter fun field => field.1 == name with
  | [] => some none
  | [found] => some (some found.2)
  | _ => none

/-- The fields of a record, from an object in any order or from an array in theirs. -/
def record (names : List String) : Value → Option (List (Option Value))
  | .object fields => names.mapM (field fields)
  | .array items =>
      if items.length ≤ names.length then
        some (items.map some ++ List.replicate (names.length - items.length) none)
      else none
  | _ => none

/-- A field that must be given. -/
def required (read : Value → Option α) (given : Option Value) : Option α := given.bind read

/-- A field with a default. -/
def defaulted (default : α) (read : Value → Option α) : Option Value → Option α
  | none => some default
  | some document => read document

/-- A list that is left out when it is empty. -/
def unlessEmpty (name : String) (format : Format α) (values : List α) :
    List (String × Value) :=
  if values.isEmpty then [] else [(name, (Format.list format).write values)]

/-- A value that is left out when there is none. -/
def whenSome (name : String) (write : α → Value) : Option α → List (String × Value)
  | none => []
  | some value => [(name, write value)]

theorem field_of_once {fields : List (String × Value)} {name : String} {value : Value}
    (member : (name, value) ∈ fields) (once : (fields.map Prod.fst).count name = 1) :
    field fields name = some (some value) := by
  have length : (fields.filter fun field => field.1 == name).length = 1 := by
    rw [← once, List.count, List.countP_map, List.countP_eq_length_filter]
    rfl
  rcases List.length_eq_one_iff.1 length with ⟨found, single⟩
  have listed : (name, value) ∈ fields.filter fun field => field.1 == name :=
    List.mem_filter.2 ⟨member, beq_self_eq_true name⟩
  rw [single, List.mem_singleton] at listed
  rw [field, single, ← listed]

end Foundation.Serde
