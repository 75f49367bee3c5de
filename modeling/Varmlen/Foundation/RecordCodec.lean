import Varmlen.Foundation.Codec

/-!
# Records from their fields

A record is written as an object and read from one, or from an array.  Its fields may be
missing where they have a default, and some are left out when they are written.
-/

namespace Foundation.Serde

open Foundation.Json

variable {α β : Type}

/-! ## Fields -/

/-- An array gives at least so many of the fields. -/
def givesEnough (least : Nat) : Value → Bool
  | .array items => least ≤ items.length
  | _ => true

/-- The value that is given for a name. -/
def givenFor (names : List String) (values : List (Option Value)) (name : String) :
    Option Value :=
  ((names.zip values).lookup name).join

/-- What is given for the names of a record. -/
def givenFields (least : Nat) (names : List String) (document : Value) :
    Option (String → Option Value) :=
  if givesEnough least document then (record names document).map (givenFor names) else none

theorem field_eq_lookup {fields : List (String × Value)} (once : (fields.map Prod.fst).Nodup)
    (name : String) : field fields name = some (fields.lookup name) := by
  cases found : fields.lookup name with
  | none =>
      have absent : fields.filter (fun field => field.1 == name) = [] := by
        rw [List.filter_eq_nil_iff]
        intro entry member same
        rw [List.lookup_eq_none_iff] at found
        exact bne_iff_ne.1 (found entry member) (eq_of_beq same).symm
      rw [field, absent]
  | some value =>
      obtain ⟨before, after, parts, _⟩ := List.lookup_eq_some_iff.1 found
      have member : (name, value) ∈ fields := by
        rw [parts]
        simp
      apply field_of_once member
      exact List.count_eq_one_of_mem once (List.mem_map_of_mem member)

theorem lookup_zip_map (names : List String) (given : String → Option Value) {name : String}
    (member : name ∈ names) :
    (names.zip (names.map given)).lookup name = some (given name) := by
  induction names with
  | nil => cases member
  | cons first rest ih =>
      rw [List.map_cons, List.zip_cons_cons, List.lookup_cons]
      by_cases same : name = first
      · simp [same]
      · rw [beq_false_of_ne same]
        exact ih ((List.mem_cons.1 member).resolve_left same)

/-- Of an object that names every field once, each field is given as it stands there. -/
theorem givenFields_object {fields : List (String × Value)} (once : (fields.map Prod.fst).Nodup)
    (least : Nat) (names : List String) :
    ∃ given, givenFields least names (.object fields) = some given ∧
      ∀ name ∈ names, given name = fields.lookup name := by
  have read : record names (.object fields) =
      some (names.map fun name => fields.lookup name) := by
    have all : names.mapM (field fields) = (names.map fun name => fields.lookup name).mapM some := by
      rw [List.mapM_map]
      exact congrArg (names.mapM ·) (funext fun name => field_eq_lookup once name)
    have whole := mapM_map_some (fun given : Option Value => (rfl : some (id given) = some given))
      (names.map fun name => fields.lookup name)
    rw [List.map_id] at whole
    rw [record, all, whole]
  have enough : givesEnough least (.object fields) = true := rfl
  refine ⟨_, by rw [givenFields, enough, if_pos rfl, read, Option.map_some], ?_⟩
  intro name member
  rw [givenFor, lookup_zip_map names _ member, Option.join_some]

theorem field_exactPart (fields : List (String × Value)) (name : String) :
    field (Object.mapValues Value.exactPart fields) name =
      (field fields name).map (Option.map Value.exactPart) := by
  have kept : (Object.mapValues Value.exactPart fields).filter (fun field => field.1 == name) =
      Object.mapValues Value.exactPart (fields.filter fun field => field.1 == name) := by
    rw [Object.mapValues, List.filter_map]
    rfl
  rw [field, kept, field]
  cases fields.filter fun field => field.1 == name with
  | nil => rfl
  | cons first rest => cases rest <;> rfl

/-- The fields of a document that leaves inexact numbers open. -/
theorem record_exactPart (names : List String) (document : Value) :
    record names document.exactPart =
      (record names document).map (List.map (Option.map Value.exactPart)) := by
  cases document with
  | object fields =>
      rw [Value.exactPart, record, record, Value.fieldsExactPart_eq, Codec.map_mapM]
      exact congrArg (names.mapM ·) (funext (field_exactPart fields))
  | array items =>
      rw [Value.exactPart, record, record, Value.itemsExactPart_eq, List.length_map]
      split
      next => simp
      next => rfl
  | number number => cases number <;> rfl
  | _ => rfl

theorem lookup_zip_values (names : List String) (change : Value → Value)
    (values : List (Option Value)) (name : String) :
    givenFor names (values.map (Option.map change)) name = (givenFor names values name).map change := by
  rw [givenFor, givenFor]
  induction names generalizing values with
  | nil => rfl
  | cons first rest ih =>
      cases values with
      | nil => rfl
      | cons value others =>
          rw [List.map_cons, List.zip_cons_cons, List.zip_cons_cons, List.lookup_cons,
            List.lookup_cons]
          cases name == first with
          | true => rfl
          | false => exact ih others

theorem givenFields_exactPart (least : Nat) (names : List String) (document : Value) :
    givenFields least names document.exactPart =
      (givenFields least names document).map fun given name =>
        (given name).map Value.exactPart := by
  have enough : givesEnough least document.exactPart = givesEnough least document := by
    cases document with
    | array items => rw [Value.exactPart, givesEnough, givesEnough, Value.itemsExactPart_eq,
        List.length_map]
    | number number => cases number <;> rfl
    | _ => rfl
  rw [givenFields, givenFields, enough, record_exactPart]
  split
  next =>
    rw [Option.map_map, Option.map_map]
    apply congrArg (Option.map · _)
    funext values name
    exact lookup_zip_values names Value.exactPart values name
  next => rfl

/-- A field of a record: how it is read when it is given and when it is not, and whether it is
written. -/
structure Slot (α : Type) where
  write : α → Option Value
  read : Option Value → Option α
  Valid : α → Prop
  kept : α → α
  valid_of_read : ∀ {given value}, read given = some value → Valid value
  reads_exact : ∀ given, (read (given.map Value.exactPart)).map kept = (read given).map kept
  readsBack : ∀ {value}, Valid value → (read (write value)).map kept = some (kept value)

namespace Slot

/-- The document that is written nests no deeper. -/
def Shallow (slot : Slot α) (levels : Nat) (value : α) : Prop :=
  ∀ document ∈ slot.write value, document.depth ≤ levels

def required (codec : Codec α) : Slot α where
  write value := some (codec.write value)
  read := Serde.required codec.read
  Valid := codec.Valid
  kept := codec.kept
  valid_of_read := by
    intro given value read
    cases given with
    | none => cases read
    | some document => exact codec.valid_of_read read
  reads_exact given := by
    cases given with
    | none => rfl
    | some document => exact codec.reads_exact document
  readsBack := codec.readsBack

/-- A field with a default. -/
def defaulted (codec : Codec α) (default : α) (valid : codec.Valid default) : Slot α where
  write value := some (codec.write value)
  read := Serde.defaulted default codec.read
  Valid := codec.Valid
  kept := codec.kept
  valid_of_read := by
    intro given value read
    cases given with
    | none =>
        cases read
        exact valid
    | some document => exact codec.valid_of_read read
  reads_exact given := by
    cases given with
    | none => rfl
    | some document => exact codec.reads_exact document
  readsBack := codec.readsBack

/-- A field that may be missing or `null`, and is written as `null` or left out. -/
def optional (codec : Codec α) (writes : codec.WritesNoNull) (omits : Bool) : Slot (Option α) where
  write value :=
    if omits && value.isNone then none else some ((codec.option writes).write value)
  read := Serde.defaulted none (codec.option writes).read
  Valid := (codec.option writes).Valid
  kept := (codec.option writes).kept
  valid_of_read := by
    intro given value read
    cases given with
    | none =>
        cases read
        intro inner member
        cases member
    | some document => exact (codec.option writes).valid_of_read read
  reads_exact given := by
    cases given with
    | none => rfl
    | some document => exact (codec.option writes).reads_exact document
  readsBack := by
    intro value valid
    cases value with
    | none => cases omits <;> rfl
    | some inner =>
        rw [Option.isNone_some, Bool.and_false]
        exact (codec.option writes).readsBack valid

/-- A field of an older schema, which is read and never written. -/
def legacy (codec : Codec α) (default : α) (valid : codec.Valid default) : Slot α where
  write _ := none
  read := Serde.defaulted default codec.read
  Valid := codec.Valid
  kept _ := default
  valid_of_read := (defaulted codec default valid).valid_of_read
  reads_exact given := by
    have read := congrArg (Option.map fun _ => default)
      ((defaulted codec default valid).reads_exact given)
    rw [Option.map_map, Option.map_map] at read
    exact read
  readsBack _ := rfl

section Laws

variable {codec : Codec α} {default value : α} {valid : codec.Valid default}
  {writes : codec.WritesNoNull} {omits : Bool} {optional : Option α}

@[simp] theorem shallow_required {levels : Nat} :
    (required codec).Shallow levels value ↔ (codec.write value).depth ≤ levels := by
  simp [Shallow, required]

@[simp] theorem shallow_defaulted {levels : Nat} :
    (defaulted codec default valid).Shallow levels value ↔
      (codec.write value).depth ≤ levels := by
  simp [Shallow, defaulted]

@[simp] theorem shallow_legacy {levels : Nat} :
    (legacy codec default valid).Shallow levels value := by
  simp [Shallow, legacy]

@[simp] theorem shallow_optional {levels : Nat} :
    (Slot.optional codec writes omits).Shallow levels optional ↔
      ∀ inner ∈ optional, (codec.write inner).depth ≤ levels := by
  cases optional with
  | none =>
      cases omits <;> simp [Shallow, Slot.optional, Codec.option, Codec.writeOption, Value.depth]
  | some inner => simp [Shallow, Slot.optional, Codec.option, Codec.writeOption]

@[simp] theorem valid_required : (required codec).Valid value ↔ codec.Valid value := Iff.rfl

@[simp] theorem valid_defaulted :
    (defaulted codec default valid).Valid value ↔ codec.Valid value := Iff.rfl

@[simp] theorem valid_optional :
    (Slot.optional codec writes omits).Valid optional ↔
      ∀ inner ∈ optional, codec.Valid inner ∧ codec.write inner ≠ .null := Iff.rfl

@[simp] theorem valid_legacy : (legacy codec default valid).Valid value ↔ codec.Valid value :=
  Iff.rfl

@[simp] theorem kept_required : (required codec).kept value = codec.kept value := rfl

@[simp] theorem kept_defaulted :
    (defaulted codec default valid).kept value = codec.kept value := rfl

@[simp] theorem kept_optional :
    (Slot.optional codec writes omits).kept optional = optional.map codec.kept := rfl

@[simp] theorem kept_legacy : (legacy codec default valid).kept value = default := rfl

end Laws

end Slot

/-! ## Records from their fields -/

/-- Some fields of a record. -/
structure Fields (α : Type) where
  names : List String
  write : α → List (String × Value)
  read : (String → Option Value) → Option α
  Valid : α → Prop
  kept : α → α
  within : ∀ value, ((write value).map Prod.fst).Sublist names
  reads_given : ∀ {given other}, (∀ name ∈ names, given name = other name) →
    read given = read other
  valid_of_read : ∀ {given value}, read given = some value → Valid value
  reads_exact : ∀ given : String → Option Value,
    (read fun name => (given name).map Value.exactPart).map kept = (read given).map kept
  readsBack : ∀ {value}, names.Nodup → Valid value →
    (read fun name => (write value).lookup name).map kept = some (kept value)

namespace Fields

def one (name : String) (slot : Slot α) : Fields α where
  names := [name]
  write value := ((slot.write value).map fun document => (name, document)).toList
  read given := slot.read (given name)
  Valid := slot.Valid
  kept := slot.kept
  within value := by
    cases slot.write value with
    | none => exact List.nil_sublist _
    | some document => exact List.Sublist.refl _
  reads_given same := congrArg slot.read (same name List.mem_cons_self)
  valid_of_read := slot.valid_of_read
  reads_exact given := slot.reads_exact (given name)
  readsBack := by
    intro value _ valid
    have written := slot.readsBack valid
    cases kept : slot.write value with
    | none =>
        rw [kept] at written
        exact written
    | some document =>
        rw [kept] at written
        simpa using written

theorem lookup_eq_none (fields : Fields α) (value : α) {name : String}
    (other : name ∉ fields.names) : (fields.write value).lookup name = none := by
  rw [List.lookup_eq_none_iff]
  intro entry member
  apply bne_iff_ne.2
  intro same
  exact other ((fields.within value).subset (same ▸ List.mem_map_of_mem member))

/-- Two values that may be missing. -/
def pair (left : Option α) (right : Option β) : Option (α × β) :=
  left.bind fun first => right.map fun second => (first, second)

theorem map_pair {γ δ : Type} (first : α → γ) (second : β → δ) (left : Option α)
    (right : Option β) :
    (pair left right).map (Prod.map first second) = pair (left.map first) (right.map second) := by
  cases left <;> cases right <;> rfl

def both (first : Fields α) (second : Fields β) : Fields (α × β) where
  names := first.names ++ second.names
  write value := first.write value.1 ++ second.write value.2
  read given := pair (first.read given) (second.read given)
  Valid value := first.Valid value.1 ∧ second.Valid value.2
  kept := Prod.map first.kept second.kept
  within value := by
    rw [List.map_append]
    exact (first.within value.1).append (second.within value.2)
  reads_given same := by
    rw [first.reads_given fun name member => same name (List.mem_append_left _ member),
      second.reads_given fun name member => same name (List.mem_append_right _ member)]
  valid_of_read := by
    intro given value read
    simp only [pair, Option.bind_eq_some_iff, Option.map_eq_some_iff] at read
    obtain ⟨left, isLeft, right, isRight, rfl⟩ := read
    exact ⟨first.valid_of_read isLeft, second.valid_of_read isRight⟩
  reads_exact given := by rw [map_pair, map_pair, first.reads_exact, second.reads_exact]
  readsBack := by
    intro value distinct valid
    rw [List.nodup_append'] at distinct
    obtain ⟨left, right, apart⟩ := distinct
    have readLeft : first.read (fun name =>
        (first.write value.1 ++ second.write value.2).lookup name) =
        first.read fun name => (first.write value.1).lookup name := by
      apply first.reads_given
      intro name member
      rw [List.lookup_append, second.lookup_eq_none value.2 (apart member), Option.or_none]
    have readRight : second.read (fun name =>
        (first.write value.1 ++ second.write value.2).lookup name) =
        second.read fun name => (second.write value.2).lookup name := by
      apply second.reads_given
      intro name member
      rw [List.lookup_append, first.lookup_eq_none value.1 fun other => apart other member,
        Option.none_or]
    rw [readLeft, readRight, map_pair, first.readsBack left valid.1, second.readsBack right valid.2]
    rfl

theorem map_build {kept : α → α} {build : α → β} {parts : β → α}
    (inverse : ∀ value, parts (build value) = value) (found : Option α) :
    (found.map build).map (fun value => build (kept (parts value))) =
      (found.map kept).map build := by
  cases found with
  | none => rfl
  | some inner =>
      rw [Option.map_some, Option.map_some, inverse, Option.map_some, Option.map_some]

/-- The fields under another type. -/
def map (fields : Fields α) (build : α → β) (parts : β → α)
    (inverse : ∀ value, parts (build value) = value) : Fields β where
  names := fields.names
  write value := fields.write (parts value)
  read given := (fields.read given).map build
  Valid value := fields.Valid (parts value)
  kept value := build (fields.kept (parts value))
  within value := fields.within (parts value)
  reads_given same := by rw [fields.reads_given same]
  valid_of_read := by
    intro given value read
    obtain ⟨inner, found, rfl⟩ := Option.map_eq_some_iff.1 read
    rw [inverse]
    exact fields.valid_of_read found
  reads_exact given := by
    rw [map_build inverse, map_build inverse, fields.reads_exact]
  readsBack := by
    intro value distinct valid
    rw [map_build inverse, fields.readsBack distinct valid, Option.map_some]

/-- A record is written as an object. -/
def codec (fields : Fields α) (least : Nat) (distinct : fields.names.Nodup) : Codec α where
  write value := .object (fields.write value)
  read document := (givenFields least fields.names document).bind fields.read
  Valid := fields.Valid
  kept := fields.kept
  valid_of_read := by
    intro document value read
    obtain ⟨given, _, found⟩ := Option.bind_eq_some_iff.1 read
    exact fields.valid_of_read found
  reads_exact document := by
    rw [givenFields_exactPart]
    cases givenFields least fields.names document with
    | none => rfl
    | some given => exact fields.reads_exact given
  readsBack := by
    intro value valid
    have once : ((fields.write value).map Prod.fst).Nodup :=
      distinct.sublist (fields.within value)
    obtain ⟨written, isWritten, same⟩ := givenFields_object once least fields.names
    rw [isWritten, Option.bind_some, fields.reads_given same, fields.readsBack distinct valid]

theorem writesNoNull (fields : Fields α) (least : Nat) (distinct : fields.names.Nodup) :
    (fields.codec least distinct).WritesNoNull := by
  intro document value _ _ null
  cases null

/-- A document that says what was written gives the fields that were written. -/
theorem given_back (fields : Fields α) (least : Nat) (distinct : fields.names.Nodup)
    {value : α} {back : Value}
    (same : back.exactPart = ((fields.codec least distinct).write value).exactPart) :
    ∃ given, givenFields least fields.names back = some given ∧
      ∀ name ∈ fields.names, (given name).isNone = ((fields.write value).lookup name).isNone := by
  have once : ((fields.write value).map Prod.fst).Nodup :=
    distinct.sublist (fields.within value)
  obtain ⟨written, isWritten, stands⟩ := givenFields_object once least fields.names
  have exact := givenFields_exactPart least fields.names back
  rw [same, givenFields_exactPart, codec, isWritten, Option.map_some] at exact
  obtain ⟨given, isGiven, agree⟩ := Option.map_eq_some_iff.1 exact.symm
  refine ⟨given, isGiven, fun name member => ?_⟩
  rw [← stands name member, ← Option.isNone_map, congrFun agree name, Option.isNone_map]

/-! ## What is valid and what is kept -/

section Laws

variable {first : Fields α} {second : Fields β} {slot : Slot α} {name : String}
  {build : α → β} {parts : β → α} {inverse : ∀ value, parts (build value) = value}

@[simp] theorem valid_one {value : α} : (one name slot).Valid value ↔ slot.Valid value := Iff.rfl

@[simp] theorem valid_both {value : α × β} :
    (both first second).Valid value ↔ first.Valid value.1 ∧ second.Valid value.2 := Iff.rfl

@[simp] theorem valid_map {value : β} :
    (first.map build parts inverse).Valid value ↔ first.Valid (parts value) := Iff.rfl

@[simp] theorem valid_codec {least : Nat} {distinct : first.names.Nodup} {value : α} :
    (first.codec least distinct).Valid value ↔ first.Valid value := Iff.rfl

@[simp] theorem kept_one {value : α} : (one name slot).kept value = slot.kept value := rfl

@[simp] theorem kept_both {value : α × β} :
    (both first second).kept value = (first.kept value.1, second.kept value.2) := rfl

@[simp] theorem kept_map {value : β} :
    (first.map build parts inverse).kept value = build (first.kept (parts value)) := rfl

@[simp] theorem kept_codec {least : Nat} {distinct : first.names.Nodup} {value : α} :
    (first.codec least distinct).kept value = first.kept value := rfl

end Laws

/-! ## Depth -/

/-- No field that is written nests deeper. -/
def Shallow (fields : Fields α) (levels : Nat) (value : α) : Prop :=
  ∀ field ∈ fields.write value, field.2.depth ≤ levels

@[simp] theorem depth_codec (fields : Fields α) (least : Nat) (distinct : fields.names.Nodup)
    {levels : Nat} {value : α} :
    ((fields.codec least distinct).write value).depth ≤ levels + 1 ↔
      fields.Shallow levels value := by
  rw [codec, Value.depth, Nat.succ_le_succ_iff, Value.fieldsDepth_le_iff, Shallow]

@[simp] theorem shallow_one {name : String} {slot : Slot α} {levels : Nat} {value : α} :
    (one name slot).Shallow levels value ↔ slot.Shallow levels value := by
  simp [Shallow, Slot.Shallow, one]

@[simp] theorem shallow_both {first : Fields α} {second : Fields β} {levels : Nat}
    {value : α × β} :
    (both first second).Shallow levels value ↔
      first.Shallow levels value.1 ∧ second.Shallow levels value.2 :=
  List.forall_mem_append

@[simp] theorem shallow_map {fields : Fields α} {build : α → β} {parts : β → α}
    {inverse : ∀ value, parts (build value) = value} {levels : Nat} {value : β} :
    (fields.map build parts inverse).Shallow levels value ↔
      fields.Shallow levels (parts value) :=
  Iff.rfl

end Fields

end Foundation.Serde
