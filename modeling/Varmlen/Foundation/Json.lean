import Mathlib.Algebra.Group.Int.Defs
import Mathlib.Algebra.Group.Nat.Defs
import Mathlib.Data.List.Basic

/-!
# JSON values

Objects keep their fields in a list, sorted by key as in a `BTreeMap`.  The
access functions go through the first field with a key, so that every list of
fields behaves like a map: what was inserted is read back, and nothing else
changes.
-/

namespace Foundation.Json

/-- Integers are kept exactly, other numbers as they were written. -/
inductive Number where
  | int (value : Int)
  | float (literal : String)
  deriving DecidableEq, Repr

inductive Value where
  | null
  | bool (value : Bool)
  | number (value : Number)
  | string (value : String)
  | array (items : List Value)
  | object (fields : List (String × Value))
  deriving Repr

abbrev Object := List (String × Value)

namespace Object

def get : Object → String → Option Value
  | [], _ => none
  | (key, value) :: rest, wanted => if key = wanted then some value else get rest wanted

def containsKey (object : Object) (key : String) : Bool := (object.get key).isSome

/-- Set a field, in its place by key. -/
def insert : Object → String → Value → Object
  | [], key, value => [(key, value)]
  | (other, old) :: rest, key, value =>
      if other = key then (key, value) :: rest
      else if key < other then (key, value) :: (other, old) :: rest
      else (other, old) :: insert rest key value

def remove : Object → String → Object
  | [], _ => []
  | (other, value) :: rest, key =>
      if other = key then remove rest key else (other, value) :: remove rest key

/-- Set a field unless it is there already. -/
def orInsert (object : Object) (key : String) (value : Value) : Object :=
  if object.containsKey key then object else object.insert key value

/-- Build an object from its fields in any order. -/
def ofFields (fields : List (String × Value)) : Object :=
  fields.foldl (fun object field => object.insert field.1 field.2) []

@[simp] theorem get_insert_self (object : Object) (key : String) (value : Value) :
    (object.insert key value).get key = some value := by
  induction object with
  | nil => simp [insert, get]
  | cons field rest ih =>
      rcases field with ⟨other, old⟩
      by_cases same : other = key
      · simp [insert, get, same]
      · by_cases before : key < other
        · simp [insert, get, same, before]
        · simp [insert, get, same, before, ih]

theorem get_insert_of_ne (object : Object) {key wanted : String} (value : Value)
    (different : key ≠ wanted) :
    (object.insert key value).get wanted = object.get wanted := by
  induction object with
  | nil => simp [insert, get, different]
  | cons field rest ih =>
      rcases field with ⟨other, old⟩
      by_cases same : other = key
      · subst same
        simp [insert, get, different]
      · by_cases before : key < other
        · simp [insert, get, same, before, different]
        · simp [insert, get, same, before, ih]

theorem get_insert (object : Object) (key wanted : String) (value : Value) :
    (object.insert key value).get wanted =
      if key = wanted then some value else object.get wanted := by
  split
  next same => rw [same, get_insert_self]
  next different => exact get_insert_of_ne object value different

theorem get_remove (object : Object) (key wanted : String) :
    (object.remove key).get wanted = if key = wanted then none else object.get wanted := by
  induction object with
  | nil => simp [remove, get]
  | cons field rest ih =>
      rcases field with ⟨other, old⟩
      by_cases removed : other = key
      · subst removed
        rw [remove, if_pos rfl, ih]
        by_cases same : other = wanted <;> simp [get, same]
      · by_cases same : other = wanted
        · subst same
          simp [remove, get, removed, Ne.symm removed]
        · simp [remove, get, removed, same, ih]

theorem get_orInsert (object : Object) (key wanted : String) (value : Value) :
    (object.orInsert key value).get wanted =
      if key = wanted then some ((object.get key).getD value) else object.get wanted := by
  rw [orInsert, containsKey]
  cases found : object.get key with
  | some old =>
      by_cases same : key = wanted
      · subst same
        simp [found]
      · simp [same]
  | none => simp [get_insert]

/-- The later fields of a literal leave the ones with other keys alone. -/
theorem get_foldl_insert_of_absent {key : String} (fields : List (String × Value))
    (object : Object) (absent : ∀ field ∈ fields, field.1 ≠ key) :
    (fields.foldl (fun object field => object.insert field.1 field.2) object).get key =
      object.get key := by
  induction fields generalizing object with
  | nil => rfl
  | cons field rest ih =>
      rw [List.foldl_cons, ih _ fun other member => absent other (.tail _ member)]
      exact get_insert_of_ne object field.2 (absent field (.head _))

end Object

namespace Value

def asString : Value → Option String
  | .string value => some value
  | _ => none

def asArray : Value → Option (List Value)
  | .array items => some items
  | _ => none

def asObject : Value → Option Object
  | .object fields => some fields
  | _ => none

def asBool : Value → Option Bool
  | .bool value => some value
  | _ => none

/-- An integer that an unsigned 64-bit number holds. -/
def asU64 : Value → Option Nat
  | .number (.int value) => if 0 ≤ value ∧ value < 2 ^ 64 then some value.toNat else none
  | _ => none

def isObject (value : Value) : Bool := value.asObject.isSome

/-- The field of an object; nothing for any other value. -/
def get (value : Value) (key : String) : Option Value :=
  match value with
  | .object fields => Object.get fields key
  | _ => none

/-- The field of an object, when it is a string. -/
def getString (value : Value) (key : String) : Option String :=
  (value.get key).bind asString

/-- The value at a path of field names. -/
def pointer (value : Value) : List String → Option Value
  | [] => some value
  | key :: rest =>
      match value.get key with
      | some field => field.pointer rest
      | none => none

/-- The items of an array field; none when it is anything else. -/
def getItems (value : Value) (key : String) : List Value :=
  ((value.get key).bind asArray).getD []

/-- Assign a field of an object. -/
def set (value : Value) (key : String) (field : Value) : Value :=
  match value with
  | .object fields => .object (Object.insert fields key field)
  | other => other

/-- Assign a field if there is something to assign. -/
def setSome (value : Value) (key : String) (field : Option Value) : Value :=
  match field with
  | some field => value.set key field
  | none => value

def nat (value : Nat) : Value := .number (.int value)

def strings (values : List String) : Value := .array (values.map .string)

/-- An object literal. -/
def ofFields (fields : List (String × Value)) : Value := .object (Object.ofFields fields)

@[simp] theorem get_object (fields : Object) (key : String) :
    get (.object fields) key = Object.get fields key := rfl

theorem get_set (fields : Object) (key wanted : String) (field : Value) :
    get (set (.object fields) key field) wanted =
      if key = wanted then some field else Object.get fields wanted :=
  Object.get_insert fields key wanted field

@[simp] theorem isObject_setSome (value : Value) (key : String) (field : Option Value) :
    (value.setSome key field).isObject = value.isObject := by
  cases field with
  | none => rfl
  | some field => cases value <;> rfl

theorem get_setSome {value : Value} (isObject : value.isObject = true)
    (key wanted : String) (field : Option Value) :
    (value.setSome key field).get wanted =
      if key = wanted then field.or (value.get wanted) else value.get wanted := by
  cases value with
  | object fields =>
      cases field with
      | none => simp [setSome]
      | some field =>
          rw [setSome, get_set, Option.some_or]
          rfl
  | _ => cases isObject

end Value

end Foundation.Json
