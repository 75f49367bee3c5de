import Mathlib.Data.List.Basic
import Mathlib.Tactic.IntervalCases

/-!
# Reading numerals

Numbers are read from a character list in any radix up to sixteen, greedily, as
address and port parsers do: a bound on the number of digits and a bound on the
value are both part of the format, and a redundant leading zero may be refused.
The round trip states that what `Nat.toDigits` prints is read back.
-/

namespace Foundation.Numeral

/-- The value of a digit character in `radix`; letters count from ten in either
case. -/
def digitValue (radix : Nat) (digit : Char) : Option Nat :=
  let code := digit.toNat
  let value :=
    if 0x30 ≤ code ∧ code ≤ 0x39 then some (code - 0x30)
    else if 0x61 ≤ code ∧ code ≤ 0x7a then some (code - 0x61 + 10)
    else if 0x41 ≤ code ∧ code ≤ 0x5a then some (code - 0x41 + 10)
    else none
  value.filter (· < radix)

/-- The longest run of digits at the front of the input, and what follows. -/
def spanDigits (radix : Nat) : List Char → List Nat × List Char
  | [] => ([], [])
  | head :: rest =>
      match digitValue radix head with
      | none => ([], head :: rest)
      | some digit =>
          let (digits, after) := spanDigits radix rest
          (digit :: digits, after)

/-- The number written by `digits`, most significant first. -/
def ofDigits (radix : Nat) (digits : List Nat) : Nat :=
  digits.foldl (fun value digit => value * radix + digit) 0

/-- Read a number below `bound` written with at most `maxDigits` digits. -/
def readNumber (radix maxDigits bound : Nat) (allowZeroPrefix : Bool)
    (input : List Char) : Option (Fin bound × List Char) :=
  let (digits, rest) := spanDigits radix input
  if digits.length = 0 ∨ maxDigits < digits.length then none
  else if !allowZeroPrefix ∧ digits.head? = some 0 ∧ 1 < digits.length then none
  else if small : ofDigits radix digits < bound then
    some (⟨ofDigits radix digits, small⟩, rest)
  else none

/-- The input does not continue with a digit. -/
def NoDigitHead (radix : Nat) (input : List Char) : Prop :=
  ∀ head ∈ input.head?, digitValue radix head = none

theorem digitValue_digitChar {radix digit : Nat} (radixLe : radix ≤ 16)
    (digitLt : digit < radix) :
    digitValue radix (Nat.digitChar digit) = some digit := by
  have value : ∀ digit < 16, digitValue 16 (Nat.digitChar digit) = some digit := by
    decide
  have inHex := value digit (by omega)
  simp only [digitValue, Option.filter_eq_some_iff, decide_eq_true_eq] at inHex ⊢
  exact ⟨inHex.1, digitLt⟩

theorem spanDigits_append {radix : Nat} (radixLe : radix ≤ 16)
    {digits : List Nat} (small : ∀ digit ∈ digits, digit < radix)
    {rest : List Char} (stops : NoDigitHead radix rest) :
    spanDigits radix (digits.map Nat.digitChar ++ rest) = (digits, rest) := by
  induction digits with
  | nil =>
      cases rest with
      | nil => rfl
      | cons head rest => simp [spanDigits, stops head rfl]
  | cons digit digits ih =>
      have headValue := digitValue_digitChar radixLe (small digit (by simp))
      have restValue := ih fun other member => small other (by simp [member])
      simp [spanDigits, headValue, restValue]

theorem spanDigits_suffix (radix : Nat) (input : List Char) :
    (spanDigits radix input).2 <:+ input := by
  induction input with
  | nil => simp [spanDigits]
  | cons head rest ih =>
      rw [spanDigits]
      cases digitValue radix head with
      | none => exact List.suffix_refl _
      | some digit => exact ih.trans (List.suffix_cons head rest)

/-- What `Nat.toDigits` prints: digits below the radix that denote the number,
without a redundant leading zero and no more of them than needed. -/
structure Prints (radix number : Nat) (digits : List Nat) : Prop where
  chars : Nat.toDigits radix number = digits.map Nat.digitChar
  small : ∀ digit ∈ digits, digit < radix
  value : ofDigits radix digits = number
  nonempty : digits ≠ []
  length_le : ∀ count, 1 ≤ count → number < radix ^ count → digits.length ≤ count
  noZeroPrefix : digits.head? = some 0 → digits.length = 1

theorem exists_prints {radix : Nat} (radixGt : 1 < radix) (number : Nat) :
    ∃ digits, Prints radix number digits := by
  induction number using Nat.strongRecOn with
  | ind number ih =>
      by_cases single : number < radix
      · refine ⟨[number], ?_, ?_, ?_, by simp, ?_, by simp⟩
        · rw [Nat.toDigits_eq_if radixGt, if_pos single, List.map_singleton]
        · simpa using single
        · simp [ofDigits]
        · intro count positive _
          simpa using positive
      · have quotientLt : number / radix < number :=
          Nat.div_lt_self (by omega) radixGt
        rcases ih (number / radix) quotientLt with ⟨digits, printed⟩
        refine ⟨digits ++ [number % radix], ?_, ?_, ?_, by simp, ?_, ?_⟩
        · rw [Nat.toDigits_eq_if radixGt, if_neg single, printed.chars]
          simp
        · intro digit member
          rcases List.mem_append.mp member with member | member
          · exact printed.small digit member
          · rw [List.mem_singleton.mp member]
            exact Nat.mod_lt _ (by omega)
        · have value := printed.value
          rw [ofDigits] at value ⊢
          rw [List.foldl_append, value]
          exact Nat.div_add_mod' number radix
        · intro count positive bounded
          rcases Nat.exists_eq_add_of_le' positive with ⟨count, rfl⟩
          cases count with
          | zero => exact absurd (by simpa using bounded) single
          | succ count =>
              have quotientBounded : number / radix < radix ^ (count + 1) := by
                rw [Nat.div_lt_iff_lt_mul (by omega), ← Nat.pow_succ]
                exact bounded
              have shorter := printed.length_le (count + 1) (by omega) quotientBounded
              simpa using shorter
        · intro zeroHead
          -- A leading zero would make the quotient zero, but it is at least one.
          have quotientZero : digits.head? = some 0 := by
            cases digits with
            | nil => exact absurd rfl printed.nonempty
            | cons head rest => simpa using zeroHead
          have lengthOne := printed.noZeroPrefix quotientZero
          rcases List.length_eq_one_iff.mp lengthOne with ⟨head, rfl⟩
          have headZero : head = 0 := by simpa using quotientZero
          have quotient := printed.value
          simp only [ofDigits, List.foldl_cons, List.foldl_nil, headZero] at quotient
          have : 1 ≤ number / radix := (Nat.one_le_div_iff (by omega)).mpr (by omega)
          omega

/-- A printed number is read back, whatever follows it, as long as no further
digit does. -/
theorem readNumber_toDigits {radix maxDigits bound : Nat} (radixGt : 1 < radix)
    (radixLe : radix ≤ 16) (positive : 1 ≤ maxDigits)
    (enough : bound ≤ radix ^ maxDigits) (allowZeroPrefix : Bool)
    (number : Fin bound) {rest : List Char} (stops : NoDigitHead radix rest) :
    readNumber radix maxDigits bound allowZeroPrefix
      (Nat.toDigits radix number ++ rest) = some (number, rest) := by
  rcases exists_prints radixGt number.val with ⟨digits, printed⟩
  have short := printed.length_le maxDigits positive
    (Nat.lt_of_lt_of_le number.isLt enough)
  have some_digits : digits.length ≠ 0 := by
    simpa using printed.nonempty
  have noPrefix : ¬(digits.head? = some 0 ∧ 1 < digits.length) := by
    intro ⟨zeroHead, long⟩
    have := printed.noZeroPrefix zeroHead
    omega
  rw [printed.chars, readNumber, spanDigits_append radixLe printed.small stops]
  simp only [printed.value, number.isLt, dite_true]
  rw [if_neg (by omega), if_neg (fun refused => noPrefix refused.2)]

theorem readNumber_suffix {radix maxDigits bound : Nat} {allowZeroPrefix : Bool}
    {input rest : List Char} {number : Fin bound}
    (read : readNumber radix maxDigits bound allowZeroPrefix input =
      some (number, rest)) : rest <:+ input := by
  simp only [readNumber] at read
  split at read
  · cases read
  · split at read
    · cases read
    · split at read
      · rcases Prod.mk.inj (Option.some.inj read) with ⟨-, rfl⟩
        exact spanDigits_suffix radix input
      · cases read

/-- Only digits are printed. -/
theorem not_mem_toDigits {radix : Nat} (radixGt : 1 < radix) (radixLe : radix ≤ 16)
    {char : Char} (notDigit : ∀ digit < 16, Nat.digitChar digit ≠ char) (number : Nat) :
    char ∉ Nat.toDigits radix number := by
  rcases exists_prints radixGt number with ⟨digits, printed⟩
  rw [printed.chars, List.mem_map]
  rintro ⟨digit, member, equal⟩
  exact notDigit digit (Nat.lt_of_lt_of_le (printed.small digit member) radixLe) equal

end Foundation.Numeral
