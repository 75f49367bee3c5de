import Mathlib.Algebra.GroupWithZero.Nat
import Mathlib.Data.List.Basic

/-!
# Kernel programs in bytes

Records of fixed layout in little-endian byte buffers, and the part of the eBPF instruction
set that a program for a socket hook needs: 32-bit moves of constants, 32-bit stores into the
context, and the exit.  A program that does anything else has no meaning here.
-/

namespace Foundation.Bpf

abbrev Bytes := List UInt8

/-! ## Fields of buffers -/

/-- The low bytes of a number, the lowest first. -/
def le : (width : Nat) → Nat → Bytes
  | 0, _ => []
  | width + 1, value => .ofNat value :: le width (value / 256)

def ofLe : Bytes → Nat
  | [] => 0
  | byte :: rest => byte.toNat + 256 * ofLe rest

@[simp] theorem length_le (width value : Nat) : (le width value).length = width := by
  induction width generalizing value with
  | zero => rfl
  | succ width ih => simp [le, ih]

theorem ofLe_le (width value : Nat) : ofLe (le width value) = value % 256 ^ width := by
  induction width generalizing value with
  | zero => simp [le, ofLe, Nat.mod_one]
  | succ width ih =>
      have byte : (UInt8.ofNat value).toNat = value % 256 := UInt8.toNat_ofNat'
      rw [le, ofLe, ih, byte, Nat.pow_succ', Nat.mod_mul]

/-- Overwrite the bytes from an offset on. -/
def putAt (offset : Nat) (bytes buffer : Bytes) : Bytes :=
  buffer.take offset ++ bytes ++ buffer.drop (offset + bytes.length)

/-- The number in some bytes of a buffer. -/
def field (offset width : Nat) (buffer : Bytes) : Nat :=
  ofLe ((buffer.drop offset).take width)

section Fields

variable {offset : Nat} {bytes buffer : Bytes}

@[simp] theorem length_putAt (fits : offset + bytes.length ≤ buffer.length) :
    (putAt offset bytes buffer).length = buffer.length := by
  simp only [putAt, List.length_append, List.length_take, List.length_drop]
  omega

theorem drop_putAt (fits : offset ≤ buffer.length) :
    (putAt offset bytes buffer).drop offset = bytes ++ buffer.drop (offset + bytes.length) := by
  have front : (buffer.take offset).length = offset := by
    rw [List.length_take]
    omega
  rw [putAt, List.append_assoc, List.drop_left' front]

theorem field_putAt_self (fits : offset ≤ buffer.length) :
    field offset bytes.length (putAt offset bytes buffer) = ofLe bytes := by
  rw [field, drop_putAt fits, List.take_left]

/-- A byte elsewhere is what it was. -/
theorem getElem?_putAt_of_apart (fits : offset + bytes.length ≤ buffer.length) {index : Nat}
    (apart : index < offset ∨ offset + bytes.length ≤ index) :
    (putAt offset bytes buffer)[index]? = buffer[index]? := by
  have front : (buffer.take offset).length = offset := by
    rw [List.length_take]
    omega
  rw [putAt, List.append_assoc]
  cases apart with
  | inl before =>
      rw [List.getElem?_append_left (by rwa [front]), List.getElem?_take_of_lt before]
  | inr after =>
      rw [List.getElem?_append_right (by omega), List.getElem?_append_right (by omega),
        List.getElem?_drop]
      congr 1
      omega

theorem field_putAt_of_apart (fits : offset + bytes.length ≤ buffer.length) {other width : Nat}
    (apart : other + width ≤ offset ∨ offset + bytes.length ≤ other) :
    field other width (putAt offset bytes buffer) = field other width buffer := by
  have same : ((putAt offset bytes buffer).drop other).take width =
      (buffer.drop other).take width := by
    apply List.ext_getElem?
    intro index
    by_cases inside : index < width
    · rw [List.getElem?_take_of_lt inside, List.getElem?_take_of_lt inside, List.getElem?_drop,
        List.getElem?_drop]
      apply getElem?_putAt_of_apart fits
      omega
    · rw [List.getElem?_take_eq_none (by omega), List.getElem?_take_eq_none (by omega)]
  rw [field, field, same]

variable {width : Nat}

/-- Overwrite a field with a number. -/
def put (width offset value : Nat) (buffer : Bytes) : Bytes := putAt offset (le width value) buffer

variable {length : Nat}

theorem length_put (value : Nat) (size : buffer.length = length) (fits : offset + width ≤ length) :
    (put width offset value buffer).length = length := by
  rw [put, length_putAt (by rwa [length_le, size]), size]

theorem field_put_self {value : Nat} (small : value < 256 ^ width)
    (size : buffer.length = length) (fits : offset ≤ length) :
    field offset width (put width offset value buffer) = value := by
  have read := @field_putAt_self offset (le width value) buffer (by rwa [size])
  rwa [length_le, ofLe_le, Nat.mod_eq_of_lt small] at read

theorem field_put_of_apart (value : Nat) (size : buffer.length = length)
    (fits : offset + width ≤ length) {other bytes : Nat}
    (apart : other + bytes ≤ offset ∨ offset + width ≤ other) :
    field other bytes (put width offset value buffer) = field other bytes buffer :=
  field_putAt_of_apart (by rwa [length_le, size]) (by rwa [length_le])

end Fields

/-! ## Programs -/

structure Insn where
  code : UInt8
  dst : Nat
  src : Nat
  offset : BitVec 16
  imm : BitVec 32
  deriving DecidableEq, Repr

/-- Eight bytes an instruction. -/
def decode : Bytes → Option (List Insn)
  | [] => some []
  | code :: registers :: o₀ :: o₁ :: i₀ :: i₁ :: i₂ :: i₃ :: rest =>
      (decode rest).map fun insns =>
        { code
          dst := registers.toNat % 16
          src := registers.toNat / 16
          offset := .ofNat 16 (ofLe [o₀, o₁])
          imm := .ofNat 32 (ofLe [i₀, i₁, i₂, i₃]) } :: insns
  | _ => none

inductive Value where
  | scalar (bits : BitVec 64)
  /-- A place in the context. -/
  | context (offset : Int)
  | uninitialized
  deriving DecidableEq, Repr

structure Machine where
  registers : Nat → Value
  memory : Bytes

/-- The first argument points to the context. -/
def Machine.start (context : Bytes) : Machine where
  registers := fun register => if register = 1 then .context 0 else .uninitialized
  memory := context

/-- The value that the program returns, and the context that it leaves. -/
def run : List Insn → Machine → Option (BitVec 64 × Bytes)
  | [], _ => none
  | insn :: rest, machine =>
      if insn.code = 0xb4 then
        run rest { machine with
          registers := Function.update machine.registers insn.dst (.scalar (insn.imm.setWidth 64)) }
      else if insn.code = 0x63 then
        match machine.registers insn.dst, machine.registers insn.src with
        | .context base, .scalar bits =>
            let address := base + insn.offset.toInt
            if 0 ≤ address ∧ address.toNat + 4 ≤ machine.memory.length then
              run rest { machine with
                memory := put 4 address.toNat bits.toNat machine.memory }
            else none
        | _, _ => none
      else if insn.code = 0x95 then
        match machine.registers 0 with
        | .scalar bits => some (bits, machine.memory)
        | _ => none
      else none

end Foundation.Bpf
