import Varmlen.Foundation.JsonReading
import Varmlen.Foundation.Numeral

/-!
# Readers that invert the printer

What a reader gives of a document is a value that documents hold, and the text such a
value is printed as reads as the value.  A reader of compact texts is one example.
-/

namespace Foundation.Json

/-! ## Values that documents hold -/

/-- Integers of 64 bits, and other numbers under the literals they are printed as. -/
def Number.isHeld (literal : String → Bool) : Number → Bool
  | .int value => -2 ^ 63 ≤ value && value < 2 ^ 64
  | .float text => literal text

/-- The keys of the object stand in order, each of them once. -/
def Object.isSorted (object : Object) : Bool :=
  decide (object.Pairwise fun field later => field.1 < later.1)

namespace Value

mutual

/-- The value is one that a document may hold. -/
def isHeld (literal : String → Bool) : Value → Bool
  | .number given => given.isHeld literal
  | .array items => itemsHeld literal items
  | .object fields => Object.isSorted fields && fieldsHeld literal fields
  | _ => true

def itemsHeld (literal : String → Bool) : List Value → Bool
  | [] => true
  | value :: rest => isHeld literal value && itemsHeld literal rest

def fieldsHeld (literal : String → Bool) : List (String × Value) → Bool
  | [] => true
  | (_, value) :: rest => isHeld literal value && fieldsHeld literal rest

end

variable {literal : String → Bool}

theorem itemsHeld_iff {items : List Value} :
    itemsHeld literal items = true ↔ ∀ item ∈ items, item.isHeld literal = true := by
  induction items with
  | nil => simp [itemsHeld]
  | cons item rest ih => rw [itemsHeld, Bool.and_eq_true, ih, List.forall_mem_cons]

theorem fieldsHeld_iff {fields : List (String × Value)} :
    fieldsHeld literal fields = true ↔ ∀ field ∈ fields, field.2.isHeld literal = true := by
  induction fields with
  | nil => simp [fieldsHeld]
  | cons field rest ih => rw [fieldsHeld, Bool.and_eq_true, ih, List.forall_mem_cons]

theorem isHeld_array {items : List Value} :
    (Value.array items).isHeld literal = true ↔
      ∀ item ∈ items, item.isHeld literal = true :=
  itemsHeld_iff

theorem isHeld_object {fields : List (String × Value)} :
    (Value.object fields).isHeld literal = true ↔
      Object.isSorted fields = true ∧ ∀ field ∈ fields, field.2.isHeld literal = true := by
  rw [isHeld, Bool.and_eq_true, fieldsHeld_iff]

theorem isHeld_nat {number : Nat} (small : number < 2 ^ 64) :
    (Value.nat number).isHeld literal = true := by
  have lower : (-2 ^ 63 : Int) ≤ number := by omega
  have upper : (number : Int) < 2 ^ 64 := by omega
  simpa [nat, isHeld, Number.isHeld, lower] using upper

end Value

namespace Object

theorem get_mem {object : Object} {key : String} {value : Value}
    (found : object.get key = some value) : (key, value) ∈ object := by
  induction object with
  | nil => cases found
  | cons field rest ih =>
      rw [get] at found
      split at found
      next same =>
        cases found
        exact same ▸ .head _
      next => exact .tail _ (ih found)

/-- A field goes where its key belongs. -/
theorem isSorted_insert {object : Object} (sorted : object.isSorted = true) (key : String)
    (value : Value) : (object.insert key value).isSorted = true := by
  rw [isSorted, decide_eq_true_iff] at sorted ⊢
  induction object with
  | nil => simp [insert]
  | cons field rest ih =>
      rcases field with ⟨other, old⟩
      rw [List.pairwise_cons] at sorted
      rw [insert]
      split
      next same =>
        subst same
        exact List.pairwise_cons.2 sorted
      next different =>
        split
        next before =>
          refine List.pairwise_cons.2 ⟨?_, List.pairwise_cons.2 sorted⟩
          intro later member
          rcases List.mem_cons.1 member with rfl | member
          · exact before
          · exact String.lt_trans before (sorted.1 later member)
        next notBefore =>
          have after : other < key := by
            apply String.not_le.1
            intro reached
            exact different (String.le_antisymm (String.not_lt.1 notBefore) reached)
          refine List.pairwise_cons.2 ⟨?_, ih sorted.2⟩
          intro later member
          rcases mem_of_mem_insert member with rfl | member
          · exact after
          · exact sorted.1 later member

end Object

/-- A field that may be held can be assigned. -/
theorem Value.isHeld_set {literal : String → Bool} {value field : Value} {key : String}
    (held : value.isHeld literal = true) (inner : field.isHeld literal = true) :
    (value.set key field).isHeld literal = true := by
  cases value with
  | object fields =>
      rw [isHeld_object] at held
      rw [set, isHeld_object]
      refine ⟨Object.isSorted_insert held.1 key field, ?_⟩
      intro other member
      rcases Object.mem_of_mem_insert member with rfl | member
      · exact inner
      · exact held.2 other member
  | _ => exact held

/-- What a reader and the printer have to do with each other: both are about the values
that documents hold, up to a depth. -/
structure InvertsPrinting (literal : String → Bool) (read : JsonReader) : Prop where
  held : ∀ {text : String} {document : Value}, read text = .ok document →
    document.isHeld literal = true ∧ document.depth < recursionLimit
  readsBack : ∀ {document : Value}, document.isHeld literal = true →
    document.depth < recursionLimit → read document.toText = .ok document

/-! ## A reader of compact texts -/

namespace Compact

open Foundation.Numeral

/-- A value that is written as a word. -/
def word (expected : String) (value : Value) (input : List Char) :
    Option (Value × List Char) :=
  (List.dropPrefix? input expected.toList).map fun rest => (value, rest)

/-- The character that is written after a backslash. -/
def escaped (kind : Char) : Option Char :=
  [('"', '"'), ('\\', '\\'), ('/', '/'), ('n', '\n'), ('r', '\r'), ('t', '\t'),
    ('b', Char.ofNat 8), ('f', Char.ofNat 12)].lookup kind

/-- The character with a code in hexadecimal digits. -/
def codePoint (digits : List Char) : Option Char :=
  (digits.mapM (digitValue 16)).bind fun values =>
    let code := ofDigits 16 values
    if code.isValidChar then some (Char.ofNat code) else none

/-- The characters of a string up to its closing quote. -/
def text : List Char → Option (List Char × List Char)
  | [] => none
  | head :: rest =>
      if head = '"' then some ([], rest)
      else if head = '\\' then
        match rest with
        | [] => none
        | kind :: rest =>
            if kind = 'u' then
              match rest with
              | first :: second :: third :: fourth :: rest =>
                  (codePoint [first, second, third, fourth]).bind fun char =>
                    (text rest).map fun (chars, rest) => (char :: chars, rest)
              | _ => none
            else
              (escaped kind).bind fun char =>
                (text rest).map fun (chars, rest) => (char :: chars, rest)
      else if head.toNat < 32 then none
      else (text rest).map fun (chars, rest) => (head :: chars, rest)

def isNumberChar (char : Char) : Bool :=
  char.isDigit || ['-', '+', '.', 'e', 'E'].contains char

/-- A natural number of 64 bits. -/
def natural (digits : List Char) : Option Nat :=
  match readNumber 10 20 (2 ^ 64) false digits with
  | some (number, []) => some number
  | _ => none

/-- An integer of 64 bits, with or without a sign. -/
def integer : List Char → Option Int
  | [] => none
  | head :: digits =>
      if head = '-' then
        ((natural digits).filter fun number => 0 < number && number ≤ 2 ^ 63).map
          fun number => -number
      else (natural (head :: digits)).map Int.ofNat

/-- The literal of a number that is not an integer. -/
def isLiteral (literal : String) : Bool :=
  literal != "" && literal.toList.all isNumberChar && (integer literal.toList).isNone

def number (input : List Char) : Option (Value × List Char) :=
  let chars := input.takeWhile isNumberChar
  let rest := input.dropWhile isNumberChar
  match integer chars with
  | some value => some (.number (.int value), rest)
  | none => if chars.isEmpty then none else some (.number (.float (String.ofList chars)), rest)

mutual

/-- The value at the start of the input, and what follows. -/
def value : (fuel : Nat) → List Char → Option (Value × List Char)
  | 0, _ => none
  | _, [] => none
  | fuel + 1, head :: rest =>
      if head = 'n' then word "null" .null (head :: rest)
      else if head = 't' then word "true" (.bool true) (head :: rest)
      else if head = 'f' then word "false" (.bool false) (head :: rest)
      else if head = '"' then
        (text rest).map fun (chars, rest) => (.string (String.ofList chars), rest)
      else if head = '[' then
        if rest.head? = some ']' then some (.array [], rest.tail)
        else (items fuel rest).map fun (items, rest) => (.array items, rest)
      else if head = '\x7b' then
        if rest.head? = some '\x7d' then some (.object [], rest.tail)
        else (fields fuel rest).map fun (fields, rest) => (.object fields, rest)
      else number (head :: rest)

/-- The items of an array up to its closing bracket. -/
def items : (fuel : Nat) → List Char → Option (List Value × List Char)
  | 0, _ => none
  | fuel + 1, input =>
      match value fuel input with
      | some (item, ',' :: rest) =>
          (items fuel rest).map fun (more, rest) => (item :: more, rest)
      | some (item, ']' :: rest) => some ([item], rest)
      | _ => none

/-- The fields of an object up to its closing bracket. -/
def fields : (fuel : Nat) → List Char → Option (List (String × Value) × List Char)
  | 0, _ => none
  | fuel + 1, input =>
      match (List.dropPrefix? input ['"']).bind text with
      | some (key, ':' :: rest) =>
          match value fuel rest with
          | some (field, ',' :: rest) =>
              (fields fuel rest).map fun (more, rest) =>
                ((String.ofList key, field) :: more, rest)
          | some (field, '\x7d' :: rest) => some ([(String.ofList key, field)], rest)
          | _ => none
      | _ => none

end

/-- A reader of texts without white space between their parts. -/
def read : JsonReader := fun given =>
  match value (2 * given.toList.length + 1) given.toList with
  | some (document, []) =>
      if document.isHeld isLiteral ∧ document.depth < recursionLimit then .ok document
      else .error "recursion limit exceeded"
  | _ => .error "expected value"


theorem codePoint_control : ∀ code < 32,
    codePoint ['0', '0', Nat.digitChar (code / 16), Nat.digitChar (code % 16)] =
      some (Char.ofNat code) := by
  decide

theorem text_escaped {kind char : Char} (different : kind ≠ 'u')
    (known : escaped kind = some char) (rest : List Char) :
    text ('\\' :: kind :: rest) =
      (text rest).map fun (chars, rest) => (char :: chars, rest) := by
  rw [text.eq_def]
  simp [different, known]

/-- A character is read as it was escaped. -/
theorem text_escapeChar (char : Char) (rest : List Char) :
    text ((escapeChar char).toList ++ rest) =
      (text rest).map fun (chars, rest) => (char :: chars, rest) := by
  have named {code : Nat} (same : char.toNat = code) : Char.ofNat code = char := by
    rw [← same, Char.ofNat_toNat]
  rw [escapeChar]
  split
  next quote => exact quote ▸ text_escaped (by decide) (by decide) rest
  split
  next backslash => exact backslash ▸ text_escaped (by decide) (by decide) rest
  split
  next lineFeed => exact lineFeed ▸ text_escaped (by decide) (by decide) rest
  split
  next carriageReturn => exact carriageReturn ▸ text_escaped (by decide) (by decide) rest
  split
  next tab => exact tab ▸ text_escaped (by decide) (by decide) rest
  split
  next backspace => exact named backspace ▸ text_escaped (by decide) (by decide) rest
  split
  next formFeed => exact named formFeed ▸ text_escaped (by decide) (by decide) rest
  split
  next control =>
    have code := codePoint_control char.toNat control
    rw [Char.ofNat_toNat] at code
    rw [text.eq_def]
    simp [code]
  next notQuote notBackslash _ _ _ _ _ notControl =>
    rw [Char.toString_eq_singleton, String.toList_singleton, List.singleton_append, text.eq_def]
    simp [notQuote, notBackslash, notControl]

theorem text_writeString (written : String) (rest : List Char) :
    text (written.toList.flatMap (fun char => (escapeChar char).toList) ++ '"' :: rest) =
      some (written.toList, rest) := by
  induction written.toList with
  | nil =>
      rw [List.flatMap_nil, List.nil_append, text.eq_def]
      simp
  | cons char chars ih =>
      rw [List.flatMap_cons, List.append_assoc, text_escapeChar, ih]
      rfl


/-! ### Numbers -/

/-- The input does not go on with a number. -/
def Stops (input : List Char) : Prop := ∀ char ∈ input.head?, isNumberChar char = false

theorem natural_toDigits {number : Nat} (small : number < 2 ^ 64) :
    natural (Nat.toDigits 10 number) = some number := by
  have stops : NoDigitHead 10 [] := by simp [NoDigitHead]
  have read := readNumber_toDigits (by decide : 1 < 10) (by decide) (by decide : 1 ≤ 20)
    (by decide : 2 ^ 64 ≤ 10 ^ 20) false ⟨number, small⟩ stops
  rw [List.append_nil] at read
  rw [natural, read]

theorem isNumberChar_toDigits {number : Nat} {char : Char}
    (member : char ∈ Nat.toDigits 10 number) : isNumberChar char = true := by
  rw [isNumberChar, Nat.isDigit_of_mem_toDigits (by decide) (by decide) member, Bool.true_or]

theorem integer_toString {value : Int} (lower : -2 ^ 63 ≤ value) (upper : value < 2 ^ 64) :
    integer (toString value).toList = some value := by
  cases value with
  | ofNat number =>
      change (number : Int) < 2 ^ 64 at upper
      have small : number < 2 ^ 64 := by omega
      have read := natural_toDigits small
      have text : (toString (Int.ofNat number)).toList = Nat.toDigits 10 number := by
        rw [Int.toString_eq_repr, Int.repr, Nat.toList_repr]
      rw [text]
      cases digits : Nat.toDigits 10 number with
      | nil => exact absurd digits Nat.toDigits_ne_nil
      | cons head rest =>
          have digit : head ≠ '-' := by
            rintro rfl
            have isDigit := Nat.isDigit_of_mem_toDigits (by decide : 0 < 10) (by decide)
              (digits ▸ .head rest : '-' ∈ Nat.toDigits 10 number)
            exact absurd isDigit (by decide)
          rw [integer, if_neg digit, ← digits, read]
          rfl
  | negSucc number =>
      have small : number + 1 ≤ 2 ^ 63 := by omega
      have text : (toString (Int.negSucc number)).toList =
          '-' :: Nat.toDigits 10 (number + 1) := by
        rw [Int.toString_eq_repr, Int.repr, String.toList_append, Nat.toList_repr]
        rfl
      rw [text, integer, if_pos rfl, natural_toDigits (by omega), Option.filter_some,
        if_pos (by simpa using small)]
      rfl

/-- The run of number characters is cut off where the number ends. -/
theorem number_append {chars rest : List Char}
    (all : ∀ char ∈ chars, isNumberChar char = true) (stops : Stops rest) :
    number (chars ++ rest) =
      match integer chars with
      | some value => some (.number (.int value), rest)
      | none =>
          if chars.isEmpty then none
          else some (.number (.float (String.ofList chars)), rest) := by
  have taken : (chars ++ rest).takeWhile isNumberChar = chars := by
    rw [List.takeWhile_append_of_pos all]
    cases rest with
    | nil => rw [List.takeWhile_nil, List.append_nil]
    | cons head rest => rw [List.takeWhile_cons, stops head rfl]; simp
  have dropped : (chars ++ rest).dropWhile isNumberChar = rest := by
    rw [List.dropWhile_append_of_pos all]
    cases rest with
    | nil => rfl
    | cons head rest => rw [List.dropWhile_cons, stops head rfl]; simp
  rw [number, taken, dropped]

theorem isNumberChar_toString (value : Int) :
    ∀ char ∈ (toString value).toList, isNumberChar char = true := by
  rw [Int.toString_eq_repr]
  cases value with
  | ofNat number =>
      rw [Int.repr, Nat.toList_repr]
      exact fun char => isNumberChar_toDigits
  | negSucc number =>
      rw [Int.repr, String.toList_append, Nat.toList_repr]
      intro char member
      rcases List.mem_append.1 member with sign | digit
      · rw [List.mem_singleton.1 sign]
        decide
      · exact isNumberChar_toDigits digit

theorem number_int {value : Int} (lower : -2 ^ 63 ≤ value) (upper : value < 2 ^ 64)
    {rest : List Char} (stops : Stops rest) :
    number ((toString value).toList ++ rest) = some (.number (.int value), rest) := by
  rw [number_append (isNumberChar_toString value) stops, integer_toString lower upper]

theorem number_float {literal : String} (known : isLiteral literal = true)
    {rest : List Char} (stops : Stops rest) :
    number (literal.toList ++ rest) = some (.number (.float literal), rest) := by
  rw [isLiteral, Bool.and_eq_true, Bool.and_eq_true, List.all_eq_true, Option.isNone_iff_eq_none,
    bne_iff_ne] at known
  rcases known with ⟨⟨some, all⟩, noInteger⟩
  rw [number_append all stops, noInteger]
  simp [some]

/-- No number starts the way another value does. -/
theorem value_number {fuel : Nat} {head : Char} {rest : List Char}
    (isNumber : isNumberChar head = true) :
    value (fuel + 1) (head :: rest) = number (head :: rest) := by
  have different {other : Char} (noNumber : isNumberChar other = false) : head ≠ other := by
    rintro rfl
    rw [isNumber] at noNumber
    cases noNumber
  rw [value, if_neg (different (by decide)), if_neg (different (by decide)),
    if_neg (different (by decide)), if_neg (different (by decide)),
    if_neg (different (by decide)), if_neg (different (by decide))]

/-! ### Values -/

theorem value_closing (fuel : Nat) (rest : List Char) : value fuel (']' :: rest) = none := by
  cases fuel with
  | zero => rw [value]
  | succ fuel =>
      have noChars : ∀ char ∈ ([] : List Char), isNumberChar char = true := by simp
      have nothing : number (']' :: rest) = none :=
        number_append noChars (by simp [Stops, isNumberChar])
      rw [value, ← nothing]
      simp

/-- An array that is not empty starts with an item. -/
theorem value_array {fuel : Nat} {input rest : List Char} {given : List Value}
    (read : items fuel input = some (given, rest)) :
    value (fuel + 1) ('[' :: input) = some (.array given, rest) := by
  have noClosing : input.head? ≠ some ']' := by
    intro closing
    rw [List.eq_cons_of_mem_head? closing] at read
    cases fuel with
    | zero => simp [items] at read
    | succ fuel => simp [items, value_closing] at read
  rw [value]
  simp [noClosing, read]

/-- An object that is not empty starts with a key. -/
theorem value_object {fuel : Nat} {input rest : List Char} {given : List (String × Value)}
    (read : fields fuel input = some (given, rest)) :
    value (fuel + 1) ('\x7b' :: input) = some (.object given, rest) := by
  have noClosing : input.head? ≠ some '\x7d' := by
    intro closing
    rw [List.eq_cons_of_mem_head? closing] at read
    cases fuel with
    | zero => simp [fields] at read
    | succ fuel => simp [fields, List.dropPrefix?] at read
  rw [value]
  simp [noClosing, read]

theorem word_append (expected : String) (given : Value) (rest : List Char) :
    word expected given (expected.toList ++ rest) = some (given, rest) := by
  rw [word, List.dropPrefix?_eq_some_iff.2 ⟨_, rfl, beq_self_eq_true _⟩]
  rfl

/-- A run of number characters that is read as a number is read as a value. -/
theorem value_of_number {fuel : Nat} {chars rest : List Char} {given : Value}
    (all : ∀ char ∈ chars, isNumberChar char = true) (stops : Stops rest)
    (read : number (chars ++ rest) = some (given, rest)) :
    value (fuel + 1) (chars ++ rest) = some (given, rest) := by
  cases chars with
  | nil =>
      rw [number_append all stops] at read
      cases read
  | cons head chars =>
      rw [List.cons_append, value_number (all head (.head _))]
      exact read

theorem stops_cons {head : Char} (noNumber : isNumberChar head = false) (rest : List Char) :
    Stops (head :: rest) := by
  simpa [Stops] using noNumber

/-- A field starts with its key. -/
theorem fields_key (fuel : Nat) (key : String) (field : String) (rest : List Char) :
    fields (fuel + 1) ((writeString key ++ Layout.compact.colon ++ field).toList ++ rest) =
      match value fuel (field.toList ++ rest) with
      | some (field, ',' :: rest) =>
          (fields fuel rest).map fun (more, rest) => ((key, field) :: more, rest)
      | some (field, '\x7d' :: rest) => some ([(key, field)], rest)
      | _ => none := by
  have start : (writeString key ++ Layout.compact.colon ++ field).toList ++ rest =
      '"' :: (key.toList.flatMap (fun char => (escapeChar char).toList) ++
        '"' :: ':' :: (field.toList ++ rest)) := by
    simp [toList_writeString, Layout.compact]
  have quoted : ∀ chars : List Char, List.dropPrefix? ('"' :: chars) ['"'] = some chars :=
    fun chars => List.dropPrefix?_eq_some_iff.2 ⟨['"'], rfl, rfl⟩
  rw [fields, start, quoted, Option.bind_some, text_writeString]
  simp only [String.ofList_toList]

mutual

/-- Two steps for each character are enough to read a value back. -/
theorem value_write {given : Value} (held : given.isHeld isLiteral = true) (level : Nat)
    {fuel : Nat} (enough : 2 * (given.write .compact level).toList.length < fuel)
    {rest : List Char} (stops : Stops rest) :
    value fuel ((given.write .compact level).toList ++ rest) = some (given, rest) := by
  rcases Nat.exists_eq_add_of_lt enough with ⟨spare, rfl⟩
  cases given with
  | null =>
      rw [Value.write, ← word_append "null" .null rest]
      simp [value]
  | bool given =>
      cases given with
      | false =>
          change value _ ("false".toList ++ rest) = _
          rw [← word_append "false" (.bool false) rest]
          simp [value]
      | true =>
          change value _ ("true".toList ++ rest) = _
          rw [← word_append "true" (.bool true) rest]
          simp [value]
  | number given =>
      cases given with
      | int given =>
          rw [Value.isHeld, Number.isHeld, Bool.and_eq_true, decide_eq_true_iff,
            decide_eq_true_iff] at held
          rw [Value.write]
          exact value_of_number (isNumberChar_toString given) stops
            (number_int held.1 held.2 stops)
      | float given =>
          have known : isLiteral given = true := held
          have parts := known
          rw [isLiteral, Bool.and_eq_true, Bool.and_eq_true, List.all_eq_true] at parts
          rw [Value.write]
          exact value_of_number parts.1.2 stops (number_float known stops)
  | string given =>
      rw [Value.write, toList_writeString, List.cons_append, value]
      simp [text_writeString]
  | array given =>
      rw [Value.write, toList_bracketed] at enough ⊢
      cases given with
      | nil => simp [Value.writeItems, partsText, value]
      | cons first others =>
          have long : 2 * (partsText (Value.writeItems .compact (level + 1)
              (first :: others))).length + 1 < 2 * ("[".toList ++ partsText
                (Value.writeItems .compact (level + 1) (first :: others)) ++
                "]".toList).length + spare := by
            simp
            omega
          have heldItems : Value.itemsHeld isLiteral (first :: others) = true := held
          simpa using value_array (items_write heldItems (by simp) (level + 1) long rest)
  | object given =>
      rw [Value.write, toList_bracketed] at enough ⊢
      cases given with
      | nil => simp [Value.writeFields, partsText, value]
      | cons first others =>
          have long : 2 * (partsText (Value.writeFields .compact (level + 1)
              (first :: others))).length + 1 < 2 * ("\x7b".toList ++ partsText
                (Value.writeFields .compact (level + 1) (first :: others)) ++
                "\x7d".toList).length + spare := by
            simp
            omega
          have heldFields : Value.fieldsHeld isLiteral (first :: others) = true :=
            (Bool.and_eq_true_iff.1 held).2
          simpa using value_object (fields_write heldFields (by simp) (level + 1) long rest)

theorem items_write {given : List Value} (held : Value.itemsHeld isLiteral given = true)
    (nonempty : given ≠ []) (level : Nat) {fuel : Nat}
    (enough : 2 * (partsText (Value.writeItems .compact level given)).length + 1 < fuel)
    (rest : List Char) :
    items fuel (partsText (Value.writeItems .compact level given) ++ ']' :: rest) =
      some (given, rest) := by
  cases given with
  | nil => exact absurd rfl nonempty
  | cons first others =>
      rw [Value.itemsHeld, Bool.and_eq_true] at held
      cases others with
      | nil =>
          rw [Value.writeItems, partsText_cons, Value.writeItems, if_pos rfl,
            List.append_nil] at enough ⊢
          rcases Nat.exists_eq_add_of_lt enough with ⟨spare, rfl⟩
          rw [items, value_write held.1 level (by omega) (stops_cons (by decide) rest)]
          simp
      | cons second others =>
          rw [Value.writeItems, partsText_cons, if_neg (by simp [Value.writeItems])] at enough ⊢
          rw [List.length_append, List.length_cons] at enough
          rcases Nat.exists_eq_add_of_lt enough with ⟨spare, rfl⟩
          rw [items, List.append_assoc, List.cons_append,
            value_write held.1 level (by omega) (stops_cons (by decide) _)]
          simp only
          rw [items_write held.2 (by simp) level (by omega) rest]
          rfl

theorem fields_write {given : List (String × Value)}
    (held : Value.fieldsHeld isLiteral given = true) (nonempty : given ≠ []) (level : Nat)
    {fuel : Nat}
    (enough : 2 * (partsText (Value.writeFields .compact level given)).length + 1 < fuel)
    (rest : List Char) :
    fields fuel (partsText (Value.writeFields .compact level given) ++ '\x7d' :: rest) =
      some (given, rest) := by
  cases given with
  | nil => exact absurd rfl nonempty
  | cons field others =>
      rcases field with ⟨key, first⟩
      rw [Value.fieldsHeld, Bool.and_eq_true] at held
      cases others with
      | nil =>
          rw [Value.writeFields, partsText_cons, Value.writeFields, if_pos rfl,
            List.append_nil] at enough ⊢
          rw [String.toList_append, List.length_append] at enough
          rcases Nat.exists_eq_add_of_lt enough with ⟨spare, rfl⟩
          rw [fields_key, value_write held.1 level (by omega) (stops_cons (by decide) rest)]
          simp
      | cons second others =>
          rw [Value.writeFields, partsText_cons, if_neg (by simp [Value.writeFields])] at enough ⊢
          rw [List.length_append, List.length_cons, String.toList_append,
            List.length_append] at enough
          rcases Nat.exists_eq_add_of_lt enough with ⟨spare, rfl⟩
          rw [List.append_assoc, List.cons_append, fields_key,
            value_write held.1 level (by omega) (stops_cons (by decide) _)]
          simp only
          rw [fields_write held.2 (by simp) level (by omega) rest]
          rfl

end

/-- The reader of compact texts reads back what is printed. -/
theorem read_invertsPrinting : InvertsPrinting isLiteral read := by
  constructor
  · intro given document reads
    rw [read] at reads
    split at reads
    next =>
      split at reads
      next held =>
        cases reads
        exact held
      next => cases reads
    next => cases reads
  · intro document held shallow
    have stops : Stops [] := by simp [Stops]
    have whole := value_write held 0 (Nat.lt_succ_self _) stops
    rw [List.append_nil] at whole
    rw [read, Value.toText, whole]
    exact if_pos ⟨held, shallow⟩

end Compact

end Foundation.Json
