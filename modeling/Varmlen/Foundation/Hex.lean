import Mathlib.Algebra.GroupWithZero.Nat
import Varmlen.Foundation.Numeral

/-!
# Hexadecimal numbers of a fixed width

Numbers are written with upper-case digits and leading zeros, and read the way the Rust
standard library reads a number in a radix: an optional plus sign, digits in either case,
a bound on the value.
-/

namespace Foundation.Hex

open Foundation.Numeral

def withoutPlus : List Char → List Char
  | '+' :: rest => rest
  | chars => chars

/-- Read an unsigned number below `bound`, with an optional plus sign. -/
def fromStrRadix (radix bound : Nat) (chars : List Char) : Option Nat :=
  let digits := withoutPlus chars
  if digits.isEmpty then none
  else ((digits.mapM (digitValue radix)).map (ofDigits radix)).filter (· < bound)

def upperDigit (value : Nat) : Char := "0123456789ABCDEF".toList.getD value '0'

/-- The number in `width` digits. -/
def hexWord : (width : Nat) → Nat → List Char
  | 0, _ => []
  | width + 1, value => hexWord width (value / 16) ++ [upperDigit (value % 16)]

@[simp] theorem length_hexWord (width value : Nat) : (hexWord width value).length = width := by
  induction width generalizing value with
  | zero => rfl
  | succ width ih => simp [hexWord, ih]

theorem digitValue_upperDigit {value : Nat} (small : value < 16) :
    digitValue 16 (upperDigit value) = some value := by
  have all : ∀ value < 16, digitValue 16 (upperDigit value) = some value := by decide
  exact all value small

theorem ofDigits_concat (radix : Nat) (digits : List Nat) (digit : Nat) :
    ofDigits radix (digits ++ [digit]) = ofDigits radix digits * radix + digit := by
  simp [ofDigits]

theorem mapM_hexWord {width value : Nat} (fits : value < 16 ^ width) :
    ((hexWord width value).mapM (digitValue 16)).map (ofDigits 16) = some value := by
  induction width generalizing value with
  | zero =>
      have zero : value = 0 := by simpa using fits
      rw [zero]
      rfl
  | succ width ih =>
      have higher : value / 16 < 16 ^ width := by
        apply Nat.div_lt_of_lt_mul
        rw [Nat.pow_succ] at fits
        omega
      obtain ⟨digits, read, isValue⟩ := Option.map_eq_some_iff.1 (ih higher)
      have last := digitValue_upperDigit (Nat.mod_lt value (by decide : 0 < 16))
      simp only [hexWord, List.mapM_append, read, List.mapM_cons, last, List.mapM_nil,
        Option.pure_def, Option.bind_eq_bind, Option.bind_some, Option.map_some, ofDigits_concat,
        isValue]
      rw [Nat.mul_comm, Nat.div_add_mod]

theorem isDigit_of_mem_hexWord {width value : Nat} {char : Char}
    (member : char ∈ hexWord width value) : char ∈ "0123456789ABCDEF".toList := by
  induction width generalizing value with
  | zero => cases member
  | succ width ih =>
      cases List.mem_append.1 member with
      | inl before => exact ih before
      | inr last =>
          have all : ∀ value < 16, upperDigit value ∈ "0123456789ABCDEF".toList := by decide
          rw [List.mem_singleton.1 last]
          exact all _ (Nat.mod_lt _ (by decide))

theorem withoutPlus_hexWord (width value : Nat) :
    withoutPlus (hexWord width value) = hexWord width value := by
  unfold withoutPlus
  split
  next rest signed =>
    have sign : '+' ∈ hexWord width value := by rw [signed]; exact .head _
    exact absurd (isDigit_of_mem_hexWord sign) (by decide)
  next => rfl

/-- A number that was written is read again. -/
theorem fromStrRadix_hexWord {width value bound : Nat} (visible : 0 < width)
    (fits : value < 16 ^ width) (small : value < bound) :
    fromStrRadix 16 bound (hexWord width value) = some value := by
  have nonempty : (hexWord width value).isEmpty = false := by
    simpa [← List.length_pos_iff_ne_nil] using visible
  rw [fromStrRadix, withoutPlus_hexWord, nonempty, mapM_hexWord fits]
  simp [small]

end Foundation.Hex
