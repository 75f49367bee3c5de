import Mathlib.Algebra.BigOperators.Group.List.Basic
import Mathlib.Algebra.GroupWithZero.Nat
import Mathlib.Algebra.Order.Group.Nat

/-!
# Characters and bytes

Where a text written in UTF-8 can be cut.  A cut at an offset in bytes stands before a
character or goes through one; it stands where the same offset in characters does exactly
when everything before it is ASCII.
-/

namespace Foundation.Utf8

/-- The bytes that the characters take up. -/
def bytes (chars : List Char) : Nat := (chars.map Char.utf8Size).sum

@[simp] theorem bytes_nil : bytes [] = 0 := rfl

@[simp] theorem bytes_cons (char : Char) (rest : List Char) :
    bytes (char :: rest) = char.utf8Size + bytes rest := by
  rw [bytes, List.map_cons, List.sum_cons, bytes]

@[simp] theorem bytes_append (left right : List Char) :
    bytes (left ++ right) = bytes left + bytes right := by
  rw [bytes, List.map_append, List.sum_append, bytes, bytes]

theorem length_le_bytes (chars : List Char) : chars.length ≤ bytes chars := by
  induction chars with
  | nil => exact Nat.le_refl 0
  | cons char rest ih =>
      have positive := char.utf8Size_pos
      rw [List.length_cons, bytes_cons]
      omega

/-- A character of a single byte. -/
def isAscii (char : Char) : Bool := char.utf8Size == 1

theorem utf8Size_of_ascii {char : Char} (ascii : char.toNat < 128) : char.utf8Size = 1 := by
  rw [Char.utf8Size, if_pos]
  exact UInt32.le_iff_toNat_le.2 (Nat.le_of_lt_succ ascii)

theorem isAscii_of_isDigit {char : Char} (digit : char.isDigit = true) : isAscii char = true := by
  have below : char.toNat ≤ '9'.toNat := (Char.isDigit_iff_toNat.1 digit).2
  rw [isAscii, utf8Size_of_ascii (Nat.lt_of_le_of_lt below (by decide))]
  rfl

theorem bytes_eq_length_iff {chars : List Char} :
    bytes chars = chars.length ↔ ∀ char ∈ chars, isAscii char = true := by
  induction chars with
  | nil => simp
  | cons char rest ih =>
      have positive := char.utf8Size_pos
      have longer := length_le_bytes rest
      rw [bytes_cons, List.length_cons, List.forall_mem_cons, ← ih, isAscii, beq_iff_eq]
      omega

/-- What follows the given number of bytes, unless that is inside a character or after
the end. -/
def dropBytes : Nat → List Char → Option (List Char)
  | 0, chars => some chars
  | _ + 1, [] => none
  | count + 1, char :: rest =>
      if char.utf8Size ≤ count + 1 then dropBytes (count + 1 - char.utf8Size) rest else none

theorem dropBytes_eq_some_iff {count : Nat} {chars rest : List Char} :
    dropBytes count chars = some rest ↔ ∃ front, chars = front ++ rest ∧ bytes front = count := by
  induction chars generalizing count with
  | nil =>
      cases count with
      | zero => simp [dropBytes, eq_comm]
      | succ count =>
          constructor
          · intro dropped
            cases dropped
          · rintro ⟨front, whole, size⟩
            rw [(List.append_eq_nil_iff.1 whole.symm).1] at size
            cases size
  | cons char tail ih =>
      have positive := char.utf8Size_pos
      cases count with
      | zero =>
          constructor
          · intro dropped
            exact ⟨[], Option.some.inj dropped, rfl⟩
          · rintro ⟨front, whole, size⟩
            cases front with
            | nil => rw [dropBytes, whole, List.nil_append]
            | cons first front =>
                have one := first.utf8Size_pos
                rw [bytes_cons] at size
                omega
      | succ count =>
          rw [dropBytes, Option.ite_none_right_eq_some, ih]
          constructor
          · rintro ⟨fits, front, whole, size⟩
            refine ⟨char :: front, by rw [whole, List.cons_append], ?_⟩
            rw [bytes_cons, size]
            omega
          · rintro ⟨front, whole, size⟩
            cases front with
            | nil => cases size
            | cons first front =>
                rw [List.cons_append, List.cons.injEq] at whole
                rw [bytes_cons, ← whole.1] at size
                exact ⟨by omega, front, whole.2, by omega⟩

/-- The same offset in bytes and in characters. -/
theorem dropBytes_eq_drop_iff {count : Nat} {chars : List Char} (inside : count ≤ chars.length) :
    dropBytes count chars = some (chars.drop count) ↔
      ∀ char ∈ chars.take count, isAscii char = true := by
  rw [dropBytes_eq_some_iff, ← bytes_eq_length_iff, List.length_take_of_le inside]
  constructor
  · rintro ⟨front, whole, size⟩
    have same : chars.take count = front := by
      have parts : chars.take count ++ chars.drop count = front ++ chars.drop count := by
        rw [List.take_append_drop, ← whole]
      exact List.append_cancel_right parts
    rw [same, size]
  · intro size
    exact ⟨chars.take count, (List.take_append_drop count chars).symm, size⟩

end Foundation.Utf8
