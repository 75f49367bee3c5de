import Mathlib.Data.List.Nodup
import Varmlen.Foundation.JsonCanonical
import Varmlen.Foundation.Serde

/-!
# Documents that are read again

A codec writes the values of a type as documents and reads them leniently: a document may
give what is taken for something else.  Reading back what was written, through a reader that
leaves the last digit of inexact numbers open, keeps what matters of a value.
-/

namespace Foundation.Serde

open Foundation.Json

variable {α β : Type}

structure Codec (α : Type) where
  write : α → Value
  read : Value → Option α
  /-- The values that documents stand for. -/
  Valid : α → Prop
  /-- What is kept of a value. -/
  kept : α → α
  valid_of_read : ∀ {document value}, read document = some value → Valid value
  reads_exact : ∀ document, (read document.exactPart).map kept = (read document).map kept
  readsBack : ∀ {value}, Valid value → (read (write value)).map kept = some (kept value)

namespace Codec

/-- What a reader gives back of a written value. -/
theorem reads_back (codec : Codec α) {value : α} (valid : codec.Valid value) {back : Value}
    (same : back.exactPart = (codec.write value).exactPart) :
    ∃ again, codec.read back = some again ∧ codec.kept again = codec.kept value := by
  have read : (codec.read back).map codec.kept = some (codec.kept value) := by
    rw [← codec.reads_exact, same, codec.reads_exact, codec.readsBack valid]
  exact Option.map_eq_some_iff.1 read

/-! ## Scalars -/

/-- A codec that keeps everything. -/
def exactly (write : α → Value) (read : Value → Option α) (Valid : α → Prop)
    (valid_of_read : ∀ {document value}, read document = some value → Valid value)
    (reads_exact : ∀ document : Value, read document.exactPart = read document)
    (readsBack : ∀ {value}, Valid value → read (write value) = some value) : Codec α where
  write
  read
  Valid
  kept := id
  valid_of_read
  reads_exact document := by rw [reads_exact]
  readsBack valid := by rw [readsBack valid, Option.map_some]

theorem readString_exactPart (document : Value) :
    readString document.exactPart = readString document := by
  cases document with
  | number number => cases number <;> rfl
  | _ => rfl

theorem readBool_exactPart (document : Value) :
    readBool document.exactPart = readBool document := by
  cases document with
  | number number => cases number <;> rfl
  | _ => rfl

theorem readUnsigned_exactPart (bound : Nat) (document : Value) :
    readUnsigned bound document.exactPart = readUnsigned bound document := by
  cases document with
  | number number => cases number <;> rfl
  | _ => rfl

def string : Codec String :=
  exactly .string readString (fun _ => True) (fun _ => trivial) readString_exactPart
    (fun _ => rfl)

def bool : Codec Bool :=
  exactly .bool readBool (fun _ => True) (fun _ => trivial) readBool_exactPart (fun _ => rfl)

theorem lt_of_readUnsigned {bound : Nat} {document : Value} {number : Nat}
    (read : readUnsigned bound document = some number) : number < bound := by
  unfold readUnsigned at read
  split at read
  next given =>
    rw [Option.ite_none_right_eq_some] at read
    cases read.2
    exact read.1
  next => cases read

def unsigned (bound : Nat) : Codec Nat :=
  exactly (fun number => .number (.int (.ofNat number))) (readUnsigned bound) (· < bound)
    lt_of_readUnsigned (readUnsigned_exactPart bound) readUnsigned_ofNat

def readI64 : Value → Option Int
  | .number (.int number) => if -2 ^ 63 ≤ number ∧ number < 2 ^ 63 then some number else none
  | _ => none

def i64 : Codec Int :=
  exactly (fun number => .number (.int number)) readI64
    (fun number => -2 ^ 63 ≤ number ∧ number < 2 ^ 63)
    (by
      intro document number read
      unfold readI64 at read
      split at read
      next given =>
        rw [Option.ite_none_right_eq_some] at read
        cases read.2
        exact read.1
      next => cases read)
    (by
      intro document
      cases document with
      | number number => cases number <;> rfl
      | _ => rfl)
    (fun fits => if_pos fits)

/-! ## Documents inside documents -/

/-- A document as it stands. -/
def document : Codec Value where
  write := id
  read given := some given.canonical
  Valid value := value.canonical = value
  kept := Value.exactPart
  valid_of_read := by
    intro given value read
    cases read
    exact given.canonical_canonical
  reads_exact given := by
    rw [Option.map_some, Option.map_some, Value.exactPart_canonical, Value.exactPart_canonical,
      Value.exactPart_exactPart]
  readsBack valid := by rw [id, valid, Option.map_some]

/-! ## Options and lists -/

/-- The codec writes no `null` for what was not given as `null`. -/
def WritesNoNull (codec : Codec α) : Prop :=
  ∀ {document value}, document ≠ .null → codec.read document = some value →
    codec.write value ≠ .null

def writeOption (write : α → Value) : Option α → Value
  | none => .null
  | some value => write value

theorem readOption_of_ne {read : Value → Option α} {document : Value} (given : document ≠ .null) :
    readOption read document = (read document).map some := by
  cases document with
  | null => exact absurd rfl given
  | _ => rfl

def option (codec : Codec α) (writes : codec.WritesNoNull) : Codec (Option α) where
  write := writeOption codec.write
  read := readOption codec.read
  Valid value := ∀ inner ∈ value, codec.Valid inner ∧ codec.write inner ≠ .null
  kept := Option.map codec.kept
  valid_of_read := by
    intro document value read
    by_cases absent : document = .null
    · rw [absent, readOption] at read
      cases read
      intro inner member
      cases member
    · rw [readOption_of_ne absent, Option.map_eq_some_iff] at read
      obtain ⟨inner, found, rfl⟩ := read
      intro other same
      cases same
      exact ⟨codec.valid_of_read found, writes absent found⟩
  reads_exact document := by
    by_cases absent : document = .null
    · rw [absent]
      rfl
    · have kept : document.exactPart ≠ .null := fun null => absent (Value.exactPart_eq_null.1 null)
      have same := congrArg (Option.map some) (codec.reads_exact document)
      rw [Option.map_map, Option.map_map] at same
      rw [readOption_of_ne kept, readOption_of_ne absent, Option.map_map, Option.map_map]
      exact same
  readsBack := by
    intro value valid
    cases value with
    | none => rfl
    | some inner =>
        have kept := valid inner rfl
        have read := congrArg (Option.map some) (codec.readsBack kept.1)
        rw [Option.map_map] at read
        rw [writeOption, readOption_of_ne kept.2, Option.map_map]
        exact read

theorem map_mapM {γ : Type} (read : α → Option β) (change : β → γ) (items : List α) :
    (items.mapM read).map (List.map change) = items.mapM fun item => (read item).map change := by
  induction items with
  | nil => rfl
  | cons item rest ih =>
      rw [List.mapM_cons, List.mapM_cons, ← ih]
      cases read item with
      | none => rfl
      | some value => cases rest.mapM read <;> rfl

theorem valid_of_mapM (codec : Codec α) {documents : List Value} {values : List α}
    (read : documents.mapM codec.read = some values) : ∀ value ∈ values, codec.Valid value := by
  induction documents generalizing values with
  | nil =>
      cases read
      simp
  | cons document rest ih =>
      simp only [List.mapM_cons, Option.bind_eq_bind, Option.bind_eq_some_iff, Option.pure_def,
        Option.some.injEq] at read
      obtain ⟨value, found, values, others, rfl⟩ := read
      exact List.forall_mem_cons.2 ⟨codec.valid_of_read found, ih others⟩

theorem mapM_readsBack (codec : Codec α) {values : List α}
    (valid : ∀ value ∈ values, codec.Valid value) :
    ((values.map codec.write).mapM fun document => (codec.read document).map codec.kept) =
      some (values.map codec.kept) := by
  induction values with
  | nil => rfl
  | cons value rest ih =>
      rw [List.forall_mem_cons] at valid
      rw [List.map_cons, List.mapM_cons, codec.readsBack valid.1, ih valid.2]
      rfl

def list (codec : Codec α) : Codec (List α) where
  write values := .array (values.map codec.write)
  read := readList codec.read
  Valid values := ∀ value ∈ values, codec.Valid value
  kept := List.map codec.kept
  valid_of_read := by
    intro document values read
    unfold readList at read
    split at read
    next items => exact codec.valid_of_mapM read
    next => cases read
  reads_exact document := by
    cases document with
    | array items =>
        rw [Value.exactPart, readList, readList, Value.itemsExactPart_eq, map_mapM, map_mapM,
          List.mapM_map]
        exact congrArg (items.mapM ·) (funext codec.reads_exact)
    | number number => cases number <;> rfl
    | _ => rfl
  readsBack valid := by rw [readList, map_mapM, codec.mapM_readsBack valid]

/-! ## Maps of texts -/

end Codec

/-- The order in which a `HashMap` yields its entries is not fixed. -/
structure MapOrder where
  entries : List (String × String) → List (String × String)
  perm : ∀ texts, (entries texts).Perm texts

/-- The order of insertion. -/
def MapOrder.inserted : MapOrder := ⟨id, .refl⟩

namespace Codec

/-- Set an entry, in its place if the key is there. -/
def putText : List (String × String) → String × String → List (String × String)
  | [], entry => [entry]
  | first :: rest, entry =>
      if first.1 = entry.1 then entry :: rest else first :: putText rest entry

def readText (field : String × Value) : Option (String × String) :=
  (readString field.2).map fun text => (field.1, text)

def readTexts : Value → Option (List (String × String))
  | .object fields => (fields.mapM readText).map (List.foldl putText [])
  | _ => none

/-- Entries by their keys, whatever their order was. -/
def sortedTexts (texts : List (String × String)) : List (String × String) :=
  texts.mergeSort fun entry other => !decide (other.1 < entry.1)

theorem pairwise_sortedTexts (texts : List (String × String)) :
    (sortedTexts texts).Pairwise fun entry other => (!decide (other.1 < entry.1)) = true := by
  apply List.pairwise_mergeSort
  · intro first second third before after
    simp only [Bool.not_eq_true', decide_eq_false_iff_not, String.not_lt] at before after ⊢
    exact String.le_trans before after
  · intro entry other
    simp only [Bool.or_eq_true, Bool.not_eq_true', decide_eq_false_iff_not, String.not_lt]
    exact String.le_total entry.1 other.1

theorem sortedTexts_perm {texts others : List (String × String)}
    (once : (texts.map Prod.fst).Nodup) (same : others.Perm texts) :
    sortedTexts others = sortedTexts texts := by
  have left := List.mergeSort_perm others fun entry other => !decide (other.1 < entry.1)
  have right := List.mergeSort_perm texts fun entry other => !decide (other.1 < entry.1)
  apply (left.trans (same.trans right.symm)).eq_of_pairwise _
    (pairwise_sortedTexts others) (pairwise_sortedTexts texts)
  intro entry other inOthers inTexts before after
  simp only [Bool.not_eq_true', decide_eq_false_iff_not, String.not_lt] at before after
  apply List.inj_on_of_nodup_map once
  · exact same.subset (left.subset inOthers)
  · exact right.subset inTexts
  · exact String.le_antisymm before after

theorem mem_keys_putText {texts : List (String × String)} {entry : String × String}
    {key : String} :
    key ∈ (putText texts entry).map Prod.fst ↔ key = entry.1 ∨ key ∈ texts.map Prod.fst := by
  induction texts with
  | nil => simp [putText]
  | cons first rest ih =>
      rw [putText]
      split
      next same => simp [same]
      next => rw [List.map_cons, List.mem_cons, ih, List.map_cons, List.mem_cons, or_left_comm]

theorem nodup_putText {texts : List (String × String)} (once : (texts.map Prod.fst).Nodup)
    (entry : String × String) : ((putText texts entry).map Prod.fst).Nodup := by
  induction texts with
  | nil => simp [putText]
  | cons first rest ih =>
      rw [List.map_cons, List.nodup_cons] at once
      rw [putText]
      split
      next same => exact List.nodup_cons.2 ⟨same ▸ once.1, once.2⟩
      next different =>
        apply List.nodup_cons.2
        refine ⟨?_, ih once.2⟩
        rw [mem_keys_putText, not_or]
        exact ⟨different, once.1⟩

theorem nodup_foldl_putText (entries : List (String × String))
    {texts : List (String × String)} (once : (texts.map Prod.fst).Nodup) :
    ((entries.foldl putText texts).map Prod.fst).Nodup := by
  induction entries generalizing texts with
  | nil => exact once
  | cons entry rest ih => exact ih (nodup_putText once entry)

theorem putText_of_absent {texts : List (String × String)} {entry : String × String}
    (absent : entry.1 ∉ texts.map Prod.fst) : putText texts entry = texts ++ [entry] := by
  induction texts with
  | nil => rfl
  | cons first rest ih =>
      rw [List.map_cons, List.mem_cons, not_or] at absent
      rw [putText, if_neg (Ne.symm absent.1), ih absent.2, List.cons_append]

theorem foldl_putText (entries texts : List (String × String))
    (once : ((texts ++ entries).map Prod.fst).Nodup) :
    entries.foldl putText texts = texts ++ entries := by
  induction entries generalizing texts with
  | nil => rw [List.foldl_nil, List.append_nil]
  | cons entry rest ih =>
      have absent : entry.1 ∉ texts.map Prod.fst := by
        rw [List.map_append, List.nodup_append] at once
        intro member
        exact once.2.2 entry.1 member entry.1 (by simp) rfl
      rw [List.foldl_cons, putText_of_absent absent, ih, List.append_assoc, List.singleton_append]
      rwa [List.append_assoc, List.singleton_append]

theorem readText_exactPart (fields : List (String × Value)) :
    (Object.mapValues Value.exactPart fields).mapM readText = fields.mapM readText := by
  rw [Object.mapValues, List.mapM_map]
  apply congrArg (fields.mapM ·)
  funext field
  rw [Function.comp_apply, readText, readString_exactPart]
  rfl

/-- A `HashMap` of texts. -/
def texts (order : MapOrder) : Codec (List (String × String)) where
  write texts := .object ((order.entries texts).map fun entry => (entry.1, .string entry.2))
  read := readTexts
  Valid texts := (texts.map Prod.fst).Nodup
  kept := sortedTexts
  valid_of_read := by
    intro document texts read
    unfold readTexts at read
    split at read
    next fields =>
      obtain ⟨entries, _, rfl⟩ := Option.map_eq_some_iff.1 read
      exact nodup_foldl_putText entries (by simp)
    next => cases read
  reads_exact document := by
    cases document with
    | object fields =>
        rw [Value.exactPart, readTexts, readTexts, Value.fieldsExactPart_eq, readText_exactPart]
    | number number => cases number <;> rfl
    | _ => rfl
  readsBack := by
    intro texts once
    have read : ((order.entries texts).map fun entry => (entry.1, Value.string entry.2)).mapM
        readText = some (order.entries texts) :=
      mapM_map_some
        (fun entry => (rfl : readText (entry.1, .string entry.2) = some entry)) _
    have distinct : ((order.entries texts).map Prod.fst).Nodup :=
      ((order.perm texts).map Prod.fst).nodup_iff.2 once
    have put := foldl_putText (order.entries texts) [] (by simpa using distinct)
    rw [readTexts, read, Option.map_some, put, List.nil_append, Option.map_some,
      sortedTexts_perm once (order.perm texts)]

/-! ## What is valid and what is kept -/

@[simp] theorem valid_string {text : String} : string.Valid text := trivial

@[simp] theorem valid_bool {value : Bool} : bool.Valid value := trivial

@[simp] theorem valid_unsigned {bound number : Nat} :
    (unsigned bound).Valid number ↔ number < bound := Iff.rfl

@[simp] theorem valid_i64 {number : Int} :
    i64.Valid number ↔ -2 ^ 63 ≤ number ∧ number < 2 ^ 63 := Iff.rfl

@[simp] theorem valid_document {given : Value} :
    document.Valid given ↔ given.canonical = given := Iff.rfl

@[simp] theorem valid_list {codec : Codec α} {values : List α} :
    codec.list.Valid values ↔ ∀ value ∈ values, codec.Valid value := Iff.rfl

@[simp] theorem valid_texts {order : MapOrder} {entries : List (String × String)} :
    (texts order).Valid entries ↔ (entries.map Prod.fst).Nodup := Iff.rfl

@[simp] theorem kept_string : string.kept = id := rfl

@[simp] theorem kept_bool : bool.kept = id := rfl

@[simp] theorem kept_unsigned {bound : Nat} : (unsigned bound).kept = id := rfl

@[simp] theorem kept_i64 : i64.kept = id := rfl

@[simp] theorem kept_document : document.kept = Value.exactPart := rfl

@[simp] theorem kept_list {codec : Codec α} : codec.list.kept = List.map codec.kept := rfl

@[simp] theorem kept_texts {order : MapOrder} : (texts order).kept = sortedTexts := rfl

/-- No scalar is written as `null`. -/
@[simp] theorem write_string_ne (text : String) : string.write text ≠ .null := by
  intro null
  cases null

@[simp] theorem write_unsigned_ne (bound number : Nat) : (unsigned bound).write number ≠ .null := by
  intro null
  cases null

@[simp] theorem write_i64_ne (number : Int) : i64.write number ≠ .null := by
  intro null
  cases null

@[simp] theorem write_document (given : Value) : document.write given = given := rfl

/-! ## Depth -/

@[simp] theorem depth_string {levels : Nat} (text : String) :
    (string.write text).depth ≤ levels := Nat.zero_le _

@[simp] theorem depth_bool {levels : Nat} (value : Bool) :
    (bool.write value).depth ≤ levels := Nat.zero_le _

@[simp] theorem depth_unsigned {levels bound number : Nat} :
    ((unsigned bound).write number).depth ≤ levels := Nat.zero_le _

@[simp] theorem depth_i64 {levels : Nat} {number : Int} :
    (i64.write number).depth ≤ levels := Nat.zero_le _

@[simp] theorem depth_list (codec : Codec α) {levels : Nat} {values : List α} :
    (codec.list.write values).depth ≤ levels + 1 ↔
      ∀ value ∈ values, (codec.write value).depth ≤ levels := by
  rw [list, Value.depth, Nat.succ_le_succ_iff, Value.itemsDepth_le_iff, List.forall_mem_map]

@[simp] theorem depth_texts (order : MapOrder) {levels : Nat} (entries : List (String × String)) :
    ((texts order).write entries).depth ≤ levels + 1 := by
  rw [texts, Value.depth, Nat.succ_le_succ_iff, Value.fieldsDepth_le_iff, List.forall_mem_map]
  intro entry _
  exact Nat.zero_le _

@[simp] theorem depth_option (codec : Codec α) (writes : codec.WritesNoNull) {levels : Nat}
    {value : Option α} :
    ((codec.option writes).write value).depth ≤ levels ↔
      ∀ inner ∈ value, (codec.write inner).depth ≤ levels := by
  cases value with
  | none => simp [option, writeOption, Value.depth]
  | some inner => simp [option, writeOption]

end Codec

end Foundation.Serde
