import Mathlib.Data.List.Induction
import Varmlen.Foundation.Json

/-!
# Trees of JSON values

How deep a value nests and which keys occur in it, at any depth.  A value fits into
a number of levels when it nests no deeper and has no forbidden key; what fits into
an object or an array is said of its parts.
-/

namespace Foundation.Json

namespace Value

mutual

/-- Some key of an object in the value passes the test. -/
def anyKey (test : String → Bool) : Value → Bool
  | .object fields => fieldsAnyKey test fields
  | .array items => itemsAnyKey test items
  | _ => false

def fieldsAnyKey (test : String → Bool) : List (String × Value) → Bool
  | [] => false
  | (key, value) :: rest => test key || anyKey test value || fieldsAnyKey test rest

def itemsAnyKey (test : String → Bool) : List Value → Bool
  | [] => false
  | value :: rest => anyKey test value || itemsAnyKey test rest

end

mutual

/-- How many objects and arrays stand inside each other. -/
def depth : Value → Nat
  | .object fields => fieldsDepth fields + 1
  | .array items => itemsDepth items + 1
  | _ => 0

def fieldsDepth : List (String × Value) → Nat
  | [] => 0
  | (_, value) :: rest => max (depth value) (fieldsDepth rest)

def itemsDepth : List Value → Nat
  | [] => 0
  | value :: rest => max (depth value) (itemsDepth rest)

end

theorem fieldsAnyKey_eq (test : String → Bool) (fields : List (String × Value)) :
    fieldsAnyKey test fields = fields.any fun field => test field.1 || anyKey test field.2 := by
  induction fields with
  | nil => rfl
  | cons field rest ih => rw [fieldsAnyKey, ih, List.any_cons]

theorem itemsAnyKey_eq (test : String → Bool) (items : List Value) :
    itemsAnyKey test items = items.any (anyKey test) := by
  induction items with
  | nil => rfl
  | cons item rest ih => rw [itemsAnyKey, ih, List.any_cons]

theorem fieldsDepth_le_iff {levels : Nat} {fields : List (String × Value)} :
    fieldsDepth fields ≤ levels ↔ ∀ field ∈ fields, depth field.2 ≤ levels := by
  induction fields with
  | nil => simp [fieldsDepth]
  | cons field rest ih => rw [fieldsDepth, Nat.max_le, ih, List.forall_mem_cons]

theorem itemsDepth_le_iff {levels : Nat} {items : List Value} :
    itemsDepth items ≤ levels ↔ ∀ item ∈ items, depth item ≤ levels := by
  induction items with
  | nil => simp [itemsDepth]
  | cons item rest ih => rw [itemsDepth, Nat.max_le, ih, List.forall_mem_cons]

mutual

/-- A key that passes one of two tests passes the one or the other. -/
theorem anyKey_or (left right : String → Bool) (value : Value) :
    anyKey (fun key => left key || right key) value =
      (anyKey left value || anyKey right value) := by
  cases value with
  | object fields => exact fieldsAnyKey_or left right fields
  | array items => exact itemsAnyKey_or left right items
  | null => rfl
  | bool value => rfl
  | number value => rfl
  | string value => rfl

theorem fieldsAnyKey_or (left right : String → Bool) (fields : List (String × Value)) :
    fieldsAnyKey (fun key => left key || right key) fields =
      (fieldsAnyKey left fields || fieldsAnyKey right fields) := by
  match fields with
  | [] => rfl
  | (key, value) :: rest =>
      rw [fieldsAnyKey, fieldsAnyKey, fieldsAnyKey, anyKey_or left right value,
        fieldsAnyKey_or left right rest]
      ac_rfl

theorem itemsAnyKey_or (left right : String → Bool) (items : List Value) :
    itemsAnyKey (fun key => left key || right key) items =
      (itemsAnyKey left items || itemsAnyKey right items) := by
  match items with
  | [] => rfl
  | value :: rest =>
      rw [itemsAnyKey, itemsAnyKey, itemsAnyKey, anyKey_or left right value,
        itemsAnyKey_or left right rest]
      ac_rfl

end

/-! ## Values that fit -/

/-- The value nests at most `levels` deep and has no forbidden key. -/
structure Fits (forbidden : String → Bool) (levels : Nat) (value : Value) : Prop where
  depth : value.depth ≤ levels
  keys : value.anyKey forbidden = false

section Fits

variable {forbidden : String → Bool} {levels : Nat}

instance (value : Value) : Decidable (Fits forbidden levels value) :=
  decidable_of_iff (value.depth ≤ levels ∧ value.anyKey forbidden = false)
    ⟨fun both => ⟨both.1, both.2⟩, fun fits => ⟨fits.depth, fits.keys⟩⟩

theorem fits_object {fields : List (String × Value)} :
    Fits forbidden (levels + 1) (.object fields) ↔
      ∀ field ∈ fields, forbidden field.1 = false ∧ Fits forbidden levels field.2 := by
  constructor
  · intro fits field member
    have shallow : fieldsDepth fields ≤ levels := Nat.le_of_succ_le_succ fits.depth
    have keys : fieldsAnyKey forbidden fields = false := fits.keys
    rw [fieldsAnyKey_eq, List.any_eq_false] at keys
    have ofField := keys field member
    rw [Bool.or_eq_true, not_or, Bool.not_eq_true, Bool.not_eq_true] at ofField
    exact ⟨ofField.1, fieldsDepth_le_iff.1 shallow field member, ofField.2⟩
  · intro each
    constructor
    · exact Nat.succ_le_succ (fieldsDepth_le_iff.2 fun field member => (each field member).2.depth)
    · change fieldsAnyKey forbidden fields = false
      rw [fieldsAnyKey_eq, List.any_eq_false]
      intro field member
      simp [each field member |>.1, (each field member).2.keys]

theorem fits_array {items : List Value} :
    Fits forbidden (levels + 1) (.array items) ↔
      ∀ item ∈ items, Fits forbidden levels item := by
  constructor
  · intro fits item member
    have shallow : itemsDepth items ≤ levels := Nat.le_of_succ_le_succ fits.depth
    have keys : itemsAnyKey forbidden items = false := fits.keys
    rw [itemsAnyKey_eq, List.any_eq_false] at keys
    have ofItem := keys item member
    rw [Bool.not_eq_true] at ofItem
    exact ⟨itemsDepth_le_iff.1 shallow item member, ofItem⟩
  · intro each
    constructor
    · exact Nat.succ_le_succ (itemsDepth_le_iff.2 fun item member => (each item member).depth)
    · change itemsAnyKey forbidden items = false
      rw [itemsAnyKey_eq, List.any_eq_false]
      intro item member
      simp [(each item member).keys]

@[simp] theorem fits_bool (value : Bool) : Fits forbidden levels (.bool value) :=
  ⟨Nat.zero_le _, rfl⟩

@[simp] theorem fits_number (value : Number) : Fits forbidden levels (.number value) :=
  ⟨Nat.zero_le _, rfl⟩

@[simp] theorem fits_nat (value : Nat) : Fits forbidden levels (.nat value) :=
  fits_number _

@[simp] theorem fits_string (value : String) : Fits forbidden levels (.string value) :=
  ⟨Nat.zero_le _, rfl⟩

@[simp] theorem fits_strings (values : List String) :
    Fits forbidden (levels + 1) (.strings values) := by
  rw [strings, fits_array]
  intro item member
  rcases List.mem_map.1 member with ⟨text, _, rfl⟩
  exact fits_string text

end Fits

end Value

namespace Object

/-- A field with a new key is one more field. -/
theorem mem_insert_of_absent {object : Object} {key : String} {value : Value}
    (absent : object.get key = none) {field : String × Value} :
    field ∈ object.insert key value ↔ field = (key, value) ∨ field ∈ object := by
  induction object with
  | nil => simp [insert]
  | cons first rest ih =>
      rcases first with ⟨other, old⟩
      rw [get] at absent
      split at absent
      next => cases absent
      next different =>
        rw [insert, if_neg different]
        split
        next => rw [List.mem_cons]
        next => rw [List.mem_cons, List.mem_cons, ih absent, or_left_comm]

theorem mem_of_mem_insert {object : Object} {key : String} {value : Value}
    {field : String × Value} (member : field ∈ object.insert key value) :
    field = (key, value) ∨ field ∈ object := by
  induction object with
  | nil => simpa [insert] using member
  | cons first rest ih =>
      rcases first with ⟨other, old⟩
      rw [insert] at member
      split at member
      next =>
        rcases List.mem_cons.1 member with same | member
        · exact .inl same
        · exact .inr (.tail _ member)
      next =>
        split at member
        next => exact List.mem_cons.1 member
        next =>
          rcases List.mem_cons.1 member with same | member
          · exact .inr (same ▸ .head _)
          · exact (ih member).imp_right (.tail _)

/-- Every key of the object passes the test. -/
def keysAll (test : String → Bool) (object : Object) : Bool :=
  object.all fun field => test field.1

theorem keysAll_insert {test : String → Bool} {object : Object} {key : String}
    (all : object.keysAll test = true) (passes : test key = true) (value : Value) :
    (object.insert key value).keysAll test = true := by
  induction object with
  | nil => simp [insert, keysAll, passes]
  | cons field rest ih =>
      rcases field with ⟨other, old⟩
      have both : test other = true ∧ keysAll test rest = true := by
        simpa [keysAll] using all
      rw [insert]
      split
      next => simpa [keysAll, passes] using both.2
      next =>
        split
        next => simpa [keysAll, passes] using both
        next => simpa [keysAll, both.1] using ih both.2

/-- A key that passes the test may be added where it is missing. -/
theorem keysAll_orInsert {test : String → Bool} (object : Object) {key : String}
    (passes : test key = true) (value : Value) :
    (object.orInsert key value).keysAll test = object.keysAll test := by
  rw [orInsert]
  split
  next => rfl
  next missing =>
    have absent : object.get key = none := by simpa [containsKey] using missing
    rw [Bool.eq_iff_iff, keysAll, keysAll, List.all_eq_true, List.all_eq_true]
    simp only [mem_insert_of_absent absent]
    constructor
    · intro all field member
      exact all field (.inr member)
    · intro all field member
      rcases member with rfl | member
      · exact passes
      · exact all field member

/-- The last field of a literal is set last. -/
theorem ofFields_append (fields : List (String × Value)) (last : String × Value) :
    ofFields (fields ++ [last]) = (ofFields fields).insert last.1 last.2 := by
  rw [ofFields, List.foldl_append]
  rfl

theorem keysAll_ofFields {test : String → Bool} {fields : List (String × Value)}
    (all : ∀ field ∈ fields, test field.1 = true) : (ofFields fields).keysAll test = true := by
  induction fields using List.reverseRecOn with
  | nil => rfl
  | append_singleton fields last ih =>
      rw [ofFields_append]
      apply keysAll_insert
      · exact ih fun field member => all field (List.mem_append_left _ member)
      · exact all last (by simp)

/-- The fields of a literal with distinct keys. -/
theorem mem_ofFields {fields : List (String × Value)}
    (distinct : (fields.map Prod.fst).Nodup) {field : String × Value} :
    field ∈ ofFields fields ↔ field ∈ fields := by
  induction fields using List.reverseRecOn with
  | nil => rfl
  | append_singleton fields last ih =>
      rw [List.map_append, List.nodup_append] at distinct
      have absent : (ofFields fields).get last.1 = none := by
        rw [ofFields, get_foldl_insert_of_absent]
        · rfl
        · intro other member same
          exact distinct.2.2 other.1 (List.mem_map_of_mem member) last.1 (by simp) same
      rw [ofFields_append, mem_insert_of_absent absent, ih distinct.1, List.mem_append,
        List.mem_singleton, or_comm]

/-- The fields of a literal with distinct keys are read back. -/
theorem get_ofFields {fields : List (String × Value)}
    (distinct : (fields.map Prod.fst).Nodup) {key : String} {value : Value}
    (member : (key, value) ∈ fields) : (ofFields fields).get key = some value := by
  induction fields using List.reverseRecOn with
  | nil => cases member
  | append_singleton fields last ih =>
      rw [List.map_append, List.nodup_append] at distinct
      rw [ofFields_append, get_insert]
      rcases List.mem_append.1 member with earlier | isLast
      · have different : last.1 ≠ key := by
          intro same
          exact distinct.2.2 key (List.mem_map.2 ⟨_, earlier, rfl⟩) last.1 (by simp) same.symm
        rw [if_neg different, ih distinct.1 earlier]
      · rw [← List.mem_singleton.1 isLast, if_pos rfl]

/-- A field of a literal is read back unless a later one has the same key. -/
theorem get_ofFields_last (before after : List (String × Value)) {key : String}
    (value : Value) (absent : ∀ field ∈ after, field.1 ≠ key) :
    (ofFields (before ++ (key, value) :: after)).get key = some value := by
  rw [ofFields, List.foldl_append, List.foldl_cons, get_foldl_insert_of_absent after _ absent,
    get_insert_self]

end Object

namespace Value

variable {forbidden : String → Bool} {levels : Nat}

/-- A text in a literal with distinct keys is read back. -/
theorem getString_ofFields {fields : List (String × Value)}
    (distinct : (fields.map Prod.fst).Nodup) {key text : String}
    (member : (key, .string text) ∈ fields) : (ofFields fields).getString key = some text := by
  rw [getString, ofFields, get_object, Object.get_ofFields distinct member]
  rfl

/-- A literal has no other keys than its own. -/
theorem get_ofFields_none {fields : List (String × Value)} {key : String}
    (absent : key ∉ fields.map Prod.fst) : (ofFields fields).get key = none := by
  rw [ofFields, get_object, Object.ofFields, Object.get_foldl_insert_of_absent]
  · rfl
  · intro field member same
    exact absent (same ▸ List.mem_map_of_mem member)

theorem fits_ofFields {fields : List (String × Value)}
    (distinct : (fields.map Prod.fst).Nodup) :
    Fits forbidden (levels + 1) (.ofFields fields) ↔
      ∀ field ∈ fields, forbidden field.1 = false ∧ Fits forbidden levels field.2 := by
  rw [ofFields, fits_object]
  simp only [Object.mem_ofFields distinct]

theorem fits_set {value : Value} {key : String} {field : Value}
    (fits : Fits forbidden (levels + 1) value) (allowed : forbidden key = false)
    (inner : Fits forbidden levels field) :
    Fits forbidden (levels + 1) (value.set key field) := by
  cases value with
  | object fields =>
      rw [set, fits_object]
      intro other member
      rcases Object.mem_of_mem_insert member with rfl | member
      · exact ⟨allowed, inner⟩
      · exact fits_object.1 fits other member
  | _ => exact fits

/-- A field that was not there has to fit as well. -/
theorem fits_setSome {value : Value} {key : String} {field : Option Value}
    (isObject : value.isObject = true) (absent : value.get key = none)
    (allowed : forbidden key = false) :
    Fits forbidden (levels + 1) (value.setSome key field) ↔
      Fits forbidden (levels + 1) value ∧ ∀ inner ∈ field, Fits forbidden levels inner := by
  cases value with
  | object fields =>
      cases field with
      | none => simp [setSome]
      | some inner =>
          rw [setSome, set, fits_object, fits_object]
          simp only [Object.mem_insert_of_absent absent]
          constructor
          · intro each
            refine ⟨fun other member => each other (.inr member), ?_⟩
            intro given same
            cases same
            exact (each (key, inner) (.inl rfl)).2
          · rintro ⟨others, fits⟩ other (rfl | member)
            · exact ⟨allowed, fits inner rfl⟩
            · exact others other member
  | _ => cases isObject

end Value

end Foundation.Json
