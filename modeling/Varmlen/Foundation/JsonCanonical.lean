import Varmlen.Foundation.JsonCompact

/-!
# Documents as values

A map keeps its keys in order, each of them once.  A document that gives its fields in any
order, or gives one twice, stands for the value with the last field of every key.
-/

namespace Foundation.Json

namespace Object

/-- A function of the values of an object. -/
def mapValues (change : Value → Value) (object : Object) : Object :=
  object.map fun field => (field.1, change field.2)

theorem mapValues_insert (change : Value → Value) (object : Object) (key : String)
    (value : Value) :
    (object.insert key value).mapValues change =
      (object.mapValues change).insert key (change value) := by
  induction object with
  | nil => rfl
  | cons field rest ih =>
      rcases field with ⟨other, old⟩
      simp only [mapValues, insert, List.map_cons] at ih ⊢
      split
      next => rfl
      next =>
        split
        next => rfl
        next => rw [List.map_cons, ih]

theorem mapValues_ofFields (change : Value → Value) (fields : List (String × Value)) :
    (ofFields fields).mapValues change = ofFields (mapValues change fields) := by
  induction fields using List.reverseRecOn with
  | nil => rfl
  | append_singleton fields last ih =>
      have mapped : mapValues change (fields ++ [last]) =
          mapValues change fields ++ [(last.1, change last.2)] := by
        rw [mapValues, List.map_append]
        rfl
      rw [ofFields_append, mapValues_insert, ih, mapped, ofFields_append]

/-- An object from fields in any order has its keys in order. -/
theorem isSorted_ofFields (fields : List (String × Value)) :
    (ofFields fields).isSorted = true := by
  induction fields using List.reverseRecOn with
  | nil => rfl
  | append_singleton fields last ih =>
      rw [ofFields_append]
      exact isSorted_insert ih last.1 last.2

theorem mem_of_mem_ofFields {fields : List (String × Value)} {field : String × Value}
    (member : field ∈ ofFields fields) : field ∈ fields := by
  induction fields using List.reverseRecOn with
  | nil => cases member
  | append_singleton fields last ih =>
      rw [ofFields_append] at member
      rcases mem_of_mem_insert member with rfl | member
      · simp
      · exact List.mem_append_left _ (ih member)

/-- A field with the greatest key comes last. -/
theorem insert_of_lt {object : Object} {key : String} (value : Value)
    (last : ∀ field ∈ object, field.1 < key) :
    object.insert key value = object ++ [(key, value)] := by
  induction object with
  | nil => rfl
  | cons field rest ih =>
      rcases field with ⟨other, old⟩
      have before : other < key := last (other, old) List.mem_cons_self
      rw [insert, if_neg (String.ne_of_lt before), if_neg (String.lt_asymm before),
        ih fun field member => last field (List.mem_cons_of_mem _ member), List.cons_append]

/-- Nothing changes where the keys are in order. -/
theorem ofFields_of_sorted {fields : Object} (sorted : fields.isSorted = true) :
    ofFields fields = fields := by
  rw [isSorted, decide_eq_true_iff] at sorted
  induction fields using List.reverseRecOn with
  | nil => rfl
  | append_singleton fields last ih =>
      rw [List.pairwise_append] at sorted
      rw [ofFields_append, ih sorted.1]
      exact insert_of_lt last.2 fun field member =>
        sorted.2.2 field member last List.mem_cons_self

end Object

namespace Value

mutual

/-- The value that a document stands for. -/
def canonical : Value → Value
  | .array items => .array (itemsCanonical items)
  | .object fields => .object (Object.ofFields (fieldsCanonical fields))
  | value => value

def itemsCanonical : List Value → List Value
  | [] => []
  | value :: rest => canonical value :: itemsCanonical rest

def fieldsCanonical : List (String × Value) → List (String × Value)
  | [] => []
  | (key, value) :: rest => (key, canonical value) :: fieldsCanonical rest

end

theorem itemsCanonical_eq (items : List Value) : itemsCanonical items = items.map canonical := by
  induction items with
  | nil => rfl
  | cons item rest ih => rw [itemsCanonical, ih, List.map_cons]

theorem fieldsCanonical_eq (fields : List (String × Value)) :
    fieldsCanonical fields = Object.mapValues canonical fields := by
  induction fields with
  | nil => rfl
  | cons field rest ih =>
      rw [fieldsCanonical, ih]
      rfl

theorem fieldsExactPart_eq (fields : List (String × Value)) :
    fieldsExactPart fields = Object.mapValues exactPart fields := by
  induction fields with
  | nil => rfl
  | cons field rest ih =>
      rw [fieldsExactPart, ih]
      rfl

mutual

/-- A value stands for itself. -/
theorem canonical_canonical (value : Value) : value.canonical.canonical = value.canonical := by
  cases value with
  | array items =>
      rw [canonical, canonical, canonical_items items]
  | object fields =>
      have same : Object.mapValues canonical (Object.ofFields (fieldsCanonical fields)) =
          Object.ofFields (fieldsCanonical fields) := by
        rw [Object.mapValues_ofFields, ← fieldsCanonical_eq, canonical_fields fields]
      rw [canonical, canonical, fieldsCanonical_eq, same,
        Object.ofFields_of_sorted (Object.isSorted_ofFields _)]
  | null => rfl
  | bool value => rfl
  | number value => rfl
  | string value => rfl

theorem canonical_items (items : List Value) :
    itemsCanonical (itemsCanonical items) = itemsCanonical items := by
  match items with
  | [] => rfl
  | value :: rest =>
      rw [itemsCanonical, itemsCanonical, canonical_canonical value, canonical_items rest]

theorem canonical_fields (fields : List (String × Value)) :
    fieldsCanonical (fieldsCanonical fields) = fieldsCanonical fields := by
  match fields with
  | [] => rfl
  | (key, value) :: rest =>
      rw [fieldsCanonical, fieldsCanonical, canonical_canonical value, canonical_fields rest]

end

mutual

theorem exactPart_canonical (value : Value) :
    value.canonical.exactPart = value.exactPart.canonical := by
  cases value with
  | array items => rw [canonical, exactPart, exactPart, canonical, exactPart_itemsCanonical items]
  | object fields =>
      rw [canonical, exactPart, exactPart, canonical, fieldsExactPart_eq,
        Object.mapValues_ofFields, ← fieldsExactPart_eq, exactPart_fieldsCanonical fields]
  | number number => cases number <;> rfl
  | null => rfl
  | bool value => rfl
  | string value => rfl

theorem exactPart_itemsCanonical (items : List Value) :
    itemsExactPart (itemsCanonical items) = itemsCanonical (itemsExactPart items) := by
  match items with
  | [] => rfl
  | value :: rest =>
      rw [itemsCanonical, itemsExactPart, itemsExactPart, itemsCanonical,
        exactPart_canonical value, exactPart_itemsCanonical rest]

theorem exactPart_fieldsCanonical (fields : List (String × Value)) :
    fieldsExactPart (fieldsCanonical fields) = fieldsCanonical (fieldsExactPart fields) := by
  match fields with
  | [] => rfl
  | (key, value) :: rest =>
      rw [fieldsCanonical, fieldsExactPart, fieldsExactPart, fieldsCanonical,
        exactPart_canonical value, exactPart_fieldsCanonical rest]

end

mutual

@[simp] theorem exactPart_exactPart (value : Value) :
    value.exactPart.exactPart = value.exactPart := by
  cases value with
  | array items => rw [exactPart, exactPart, exactPart_items items]
  | object fields => rw [exactPart, exactPart, exactPart_fields fields]
  | number number => cases number <;> rfl
  | null => rfl
  | bool value => rfl
  | string value => rfl

theorem exactPart_items (items : List Value) :
    itemsExactPart (itemsExactPart items) = itemsExactPart items := by
  match items with
  | [] => rfl
  | value :: rest =>
      rw [itemsExactPart, itemsExactPart, exactPart_exactPart value, exactPart_items rest]

theorem exactPart_fields (fields : List (String × Value)) :
    fieldsExactPart (fieldsExactPart fields) = fieldsExactPart fields := by
  match fields with
  | [] => rfl
  | (key, value) :: rest =>
      rw [fieldsExactPart, fieldsExactPart, exactPart_exactPart value, exactPart_fields rest]

end

theorem canonical_eq_null {document : Value} : document.canonical = .null ↔ document = .null := by
  cases document <;> simp [canonical]

theorem exactPart_eq_null {document : Value} : document.exactPart = .null ↔ document = .null := by
  cases document with
  | number number => cases number <;> simp [exactPart]
  | _ => simp [exactPart]

end Value

end Foundation.Json
