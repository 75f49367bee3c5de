import Varmlen.Daemon.Split
import Varmlen.Foundation.Bpf
import Varmlen.Foundation.Run

/-!
# Marks on new sockets

The kernel program that marks the sockets which members of the bypass cgroup make, and how
the daemon (`daemon/src/split/bpf.rs`) and the helper (`helper/src/main.rs`) attach it.  What
they hand to the kernel is read back by it from the fields of `union bpf_attr`.
-/

namespace Varmlen.Daemon

open Foundation.Bpf Foundation.Effect Foundation.Run

/-! ## The program -/

def instruction (code dst src : UInt8) (offset : BitVec 16) (immediate : BitVec 32) : Bytes :=
  [code, (src <<< 4) ||| (dst &&& 0x0f)] ++ le 2 offset.toNat ++ le 4 immediate.toNat

/-- The mark, as the code that writes it into the program has it. -/
def bypassMarkImmediate : BitVec 32 := 0x2025

def socketMarkProgram : Bytes :=
  instruction 0xb4 2 0 0 bypassMarkImmediate ++ instruction 0x63 1 2 16 0 ++
    instruction 0xb4 0 0 0 1 ++ instruction 0x95 0 0 0 0

/-! ## The kernel -/

abbrev Descriptor := Fin 2147483648

/-- The programs that are open, and the one that new sockets of the cgroup run through. -/
structure BpfKernel where
  opened : List (Descriptor × Bytes)
  attached : Option Bytes

namespace BpfKernel

def fresh : BpfKernel := ⟨[], none⟩

/-- Load a program for sockets of a cgroup, from where the attributes say it is. -/
def progLoad (memory : BitVec 64 → Bytes) (given : Option Descriptor) (attributes : Bytes)
    (kernel : BpfKernel) : Option (Descriptor × BpfKernel) :=
  if field 0 4 attributes = 9 ∧ field 68 4 attributes = 2 then
    given.map fun descriptor =>
      let program := (memory (.ofNat 64 (field 8 8 attributes))).take (8 * field 4 4 attributes)
      (descriptor, { kernel with opened := (descriptor, program) :: kernel.opened })
  else none

def progAttach (takes : Bool) (cgroup : Descriptor) (attributes : Bytes) (kernel : BpfKernel) :
    SplitOutcome Unit BpfKernel :=
  let program := (kernel.opened.find? fun entry =>
    entry.1.val == field 4 4 attributes).map Prod.snd
  if takes ∧ field 0 4 attributes = cgroup ∧ field 8 4 attributes = 2 ∧
      field 12 4 attributes = 0 ∧ program.isSome then
    (.ok (), { kernel with attached := program })
  else (.error .bpfUnavailable, kernel)

def progDetach (takes : Bool) (cgroup : Descriptor) (attributes : Bytes) (kernel : BpfKernel) :
    SplitOutcome Unit BpfKernel :=
  if takes ∧ field 0 4 attributes = cgroup ∧ field 8 4 attributes = 2 ∧
      kernel.attached.isSome then
    (.ok (), { kernel with attached := none })
  else (.error .bpfUnavailable, kernel)

def close (descriptor : Descriptor) (kernel : BpfKernel) : BpfKernel :=
  { kernel with opened := kernel.opened.filter fun entry => entry.1 ≠ descriptor }

end BpfKernel

/-- The first fields of `struct bpf_sock`: interface, family, type, protocol and mark. -/
structure BpfSock where
  bytes : Bytes
  whole : 20 ≤ bytes.length

/-- A member of the cgroup makes a socket: what is left of its fields, if it may. -/
def BpfKernel.createSocket (kernel : BpfKernel) (sock : BpfSock) : Option Bytes :=
  match kernel.attached with
  | none => some sock.bytes
  | some program =>
      match (decode program).bind fun insns => run insns (.start sock.bytes) with
      | some (verdict, bytes) => if verdict = 1 then some bytes else none
      | none => none

/-! ## The calls -/

/-- Where the program and the licence lie, and what the kernel does with the calls. -/
structure BpfFates where
  program : BitVec 64
  license : BitVec 64
  loads : Option Descriptor
  detaches : Bool
  attaches : Bool

def licenseText : Bytes := "Dual MIT/GPL\x00".toList.map fun char => .ofNat char.toNat

def BpfFates.memory (code : Bytes) (fates : BpfFates) (address : BitVec 64) : Bytes :=
  if address = fates.program then code
  else if address = fates.license then licenseText
  else []

def putU32 (offset value : Nat) : Bytes → Bytes := put 4 offset value

def putU64 (offset value : Nat) : Bytes → Bytes := put 8 offset value

def zeroed (length : Nat) : Bytes := List.replicate length 0

def loadAttributes (fates : BpfFates) (code : Bytes) : Bytes :=
  putU32 68 2 (putU64 16 fates.license.toNat (putU64 8 fates.program.toNat
    (putU32 4 (code.length / 8) (putU32 0 9 (zeroed 128)))))

def attachAttributes (cgroup program : Descriptor) : Bytes :=
  putU32 8 2 (putU32 4 program (putU32 0 cgroup (zeroed 16)))

def detachAttributes (cgroup : Descriptor) : Bytes :=
  putU32 8 2 (putU32 0 cgroup (zeroed 16))

section Calls

variable (cgroup : Descriptor)

def detachSocketMark (takes : Bool) (kernel : BpfKernel) : SplitOutcome Unit BpfKernel :=
  kernel.progDetach takes cgroup (detachAttributes cgroup)

def attachSocketMark (fates : BpfFates) (kernel : BpfKernel) : SplitOutcome Unit BpfKernel :=
  match kernel.progLoad (fates.memory socketMarkProgram) fates.loads
      (loadAttributes fates socketMarkProgram) with
  | none => (.error .bpfUnavailable, kernel)
  | some (program, kernel) =>
      let (_, kernel) := detachSocketMark cgroup fates.detaches kernel
      let (result, kernel) := kernel.progAttach fates.attaches cgroup
        (attachAttributes cgroup program)
      (result, kernel.close program)

end Calls

end Varmlen.Daemon

namespace Varmlen.Helper

open Foundation.Bpf
open Varmlen.Daemon (BpfFates BpfKernel Descriptor attachAttributes bypassMarkImmediate
  detachAttributes instruction loadAttributes)

def bypassSockProg : Bytes :=
  instruction 0xb4 2 0 0 bypassMarkImmediate ++ instruction 0x63 1 2 16 0 ++
    instruction 0xb4 0 0 0 1 ++ instruction 0x95 0 0 0 0

/-- Attach or detach for a cgroup, if that can be opened; what is attached is replaced. -/
def bypassBpf (cgroup : Option Descriptor) (attach : Bool) (error : String) (fates : BpfFates)
    (kernel : BpfKernel) : Except String Unit × BpfKernel :=
  match cgroup with
  | none => (.error ("open cgroup: " ++ error), kernel)
  | some cgroup =>
      if ¬attach then
        let (result, kernel) :=
          kernel.progDetach fates.detaches cgroup (detachAttributes cgroup)
        (result.mapError fun _ => error, kernel)
      else
        match kernel.progLoad (fates.memory bypassSockProg) fates.loads
            (loadAttributes fates bypassSockProg) with
        | none => (.error ("prog load: " ++ error), kernel)
        | some (program, kernel) =>
            let (result, kernel) := kernel.progAttach fates.attaches cgroup
              (attachAttributes cgroup program)
            (result.mapError fun _ => "attach: " ++ error, kernel.close program)

end Varmlen.Helper

namespace Varmlen.Daemon

open Foundation.Bpf Foundation.Effect Foundation.Run
open Varmlen.Helper (bypassBpf bypassSockProg)

/-! ## What the program does -/

theorem decode_socketMarkProgram :
    decode socketMarkProgram = some [⟨0xb4, 2, 0, 0, 0x2025⟩, ⟨0x63, 1, 2, 16, 0⟩,
      ⟨0xb4, 0, 0, 0, 1⟩, ⟨0x95, 0, 0, 0, 0⟩] := by
  decide

theorem bypassSockProg_eq : bypassSockProg = socketMarkProgram := rfl

/-- The fields of a socket with the mark in place. -/
def BpfSock.marked (sock : BpfSock) : Bytes := put 4 16 0x2025 sock.bytes

theorem run_socketMarkProgram (sock : BpfSock) :
    ((decode socketMarkProgram).bind fun insns => run insns (.start sock.bytes)) =
      some (1, sock.marked) := by
  rw [decode_socketMarkProgram, Option.bind_some]
  simp [run, Machine.start, BpfSock.marked, sock.whole]

/-! ## What the kernel reads -/

theorem length_zeroed (length : Nat) : (zeroed length).length = length := List.length_replicate

theorem fields_loadAttributes (fates : BpfFates) {code : Bytes}
    (short : code.length / 8 < 256 ^ 4) :
    field 0 4 (loadAttributes fates code) = 9 ∧
    field 4 4 (loadAttributes fates code) = code.length / 8 ∧
    field 8 8 (loadAttributes fates code) = fates.program.toNat ∧
    field 68 4 (loadAttributes fates code) = 2 := by
  have empty := length_zeroed 128
  have typed := length_put 9 empty (by decide : 0 + 4 ≤ 128)
  have counted := length_put (code.length / 8) typed (by decide : 4 + 4 ≤ 128)
  have located := length_put fates.program.toNat counted (by decide : 8 + 8 ≤ 128)
  have licensed := length_put fates.license.toNat located (by decide : 16 + 8 ≤ 128)
  simp only [loadAttributes, putU32, putU64]
  refine ⟨?_, ?_, ?_, ?_⟩
  · rw [field_put_of_apart _ licensed (by decide) (by decide),
      field_put_of_apart _ located (by decide) (by decide),
      field_put_of_apart _ counted (by decide) (by decide),
      field_put_of_apart _ typed (by decide) (by decide),
      field_put_self (by decide) empty (by decide)]
  · rw [field_put_of_apart _ licensed (by decide) (by decide),
      field_put_of_apart _ located (by decide) (by decide),
      field_put_of_apart _ counted (by decide) (by decide),
      field_put_self short typed (by decide)]
  · rw [field_put_of_apart _ licensed (by decide) (by decide),
      field_put_of_apart _ located (by decide) (by decide),
      field_put_self fates.program.isLt counted (by decide)]
  · rw [field_put_self (by decide) licensed (by decide)]

theorem descriptor_lt (descriptor : Descriptor) : descriptor.val < 256 ^ 4 :=
  Nat.lt_trans descriptor.isLt (by decide)

theorem fields_attachAttributes (cgroup program : Descriptor) :
    field 0 4 (attachAttributes cgroup program) = cgroup ∧
    field 4 4 (attachAttributes cgroup program) = program ∧
    field 8 4 (attachAttributes cgroup program) = 2 ∧
    field 12 4 (attachAttributes cgroup program) = 0 := by
  have empty := length_zeroed 16
  have target := length_put cgroup empty (by decide : 0 + 4 ≤ 16)
  have attached := length_put program target (by decide : 4 + 4 ≤ 16)
  simp only [attachAttributes, putU32]
  refine ⟨?_, ?_, ?_, ?_⟩
  · rw [field_put_of_apart _ attached (by decide) (by decide),
      field_put_of_apart _ target (by decide) (by decide),
      field_put_self (descriptor_lt cgroup) empty (by decide)]
  · rw [field_put_of_apart _ attached (by decide) (by decide),
      field_put_self (descriptor_lt program) target (by decide)]
  · rw [field_put_self (by decide) attached (by decide)]
  · rw [field_put_of_apart _ attached (by decide) (by decide),
      field_put_of_apart _ target (by decide) (by decide),
      field_put_of_apart _ empty (by decide) (by decide)]
    rfl

theorem fields_detachAttributes (cgroup : Descriptor) :
    field 0 4 (detachAttributes cgroup) = cgroup ∧ field 8 4 (detachAttributes cgroup) = 2 := by
  have empty := length_zeroed 16
  have target := length_put cgroup empty (by decide : 0 + 4 ≤ 16)
  simp only [detachAttributes, putU32]
  refine ⟨?_, ?_⟩
  · rw [field_put_of_apart _ target (by decide) (by decide),
      field_put_self (descriptor_lt cgroup) empty (by decide)]
  · rw [field_put_self (by decide) target (by decide)]

/-! ## What is attached -/

section Attached

variable {cgroup : Descriptor} {fates : BpfFates} {kernel : BpfKernel}

/-- Nothing stays open, and no other program is ever attached. -/
structure BpfKernel.Marks (kernel : BpfKernel) : Prop where
  closed : kernel.opened = []
  program : ∀ program, kernel.attached = some program → program = socketMarkProgram

theorem progLoad_socketMarkProgram :
    kernel.progLoad (fates.memory socketMarkProgram) fates.loads
        (loadAttributes fates socketMarkProgram) =
      fates.loads.map fun descriptor =>
        (descriptor, { kernel with opened := (descriptor, socketMarkProgram) :: kernel.opened }) := by
  have short : socketMarkProgram.length / 8 < 256 ^ 4 := by decide
  obtain ⟨isType, count, address, isHook⟩ := fields_loadAttributes fates short
  have whole : (fates.memory socketMarkProgram (.ofNat 64 fates.program.toNat)).take
      (8 * (socketMarkProgram.length / 8)) = socketMarkProgram := by
    rw [BitVec.ofNat_toNat, BitVec.setWidth_eq, BpfFates.memory, if_pos rfl]
    rfl
  rw [BpfKernel.progLoad, if_pos ⟨isType, isHook⟩, count, address, whole]

theorem progAttach_opened (takes : Bool) (program : Descriptor) (code : Bytes)
    (others : List (Descriptor × Bytes)) (attached : Option Bytes) :
    BpfKernel.progAttach takes cgroup (attachAttributes cgroup program)
        ⟨(program, code) :: others, attached⟩ =
      if takes = true then (.ok (), ⟨(program, code) :: others, some code⟩)
      else (.error .bpfUnavailable, ⟨(program, code) :: others, attached⟩) := by
  obtain ⟨isCgroup, isProgram, isHook, noFlags⟩ := fields_attachAttributes cgroup program
  simp [BpfKernel.progAttach, isCgroup, isProgram, isHook, noFlags]

theorem detachSocketMark_eq (takes : Bool) :
    detachSocketMark cgroup takes kernel =
      if takes = true ∧ kernel.attached.isSome = true then
        (.ok (), { kernel with attached := none })
      else (.error .bpfUnavailable, kernel) := by
  obtain ⟨isCgroup, isHook⟩ := fields_detachAttributes cgroup
  rw [detachSocketMark, BpfKernel.progDetach, isCgroup, isHook]
  simp

theorem close_opened (program : Descriptor) (code : Bytes) (attached : Option Bytes) :
    BpfKernel.close program ⟨[(program, code)], attached⟩ = ⟨[], attached⟩ := by
  simp [BpfKernel.close]

/-- What a call of the daemon leaves: whether it succeeds or not, the program is closed. -/
theorem attachSocketMark_eq (attached : Option Bytes) :
    attachSocketMark cgroup fates ⟨[], attached⟩ =
      if fates.loads = none then (.error .bpfUnavailable, ⟨[], attached⟩)
      else if fates.attaches = true then (.ok (), ⟨[], some socketMarkProgram⟩)
      else (.error .bpfUnavailable, ⟨[], if fates.detaches then none else attached⟩) := by
  rw [attachSocketMark, progLoad_socketMarkProgram]
  cases fates.loads with
  | none => rfl
  | some program =>
      simp only [Option.map_some, detachSocketMark_eq, reduceCtorEq, if_false]
      cases fates.detaches with
      | false =>
          simp only [Bool.false_eq_true, false_and, if_false, progAttach_opened]
          cases fates.attaches <;> simp [close_opened]
      | true =>
          cases attached with
          | none =>
              simp only [Option.isSome_none, Bool.false_eq_true, and_false, if_false, if_true,
                progAttach_opened]
              cases fates.attaches <;> simp [close_opened]
          | some code =>
              simp only [Option.isSome_some, and_self, if_true, progAttach_opened]
              cases fates.attaches <;> simp [close_opened]

/-- What a call of the helper leaves. -/
theorem bypassBpf_eq (error : String) (attached : Option Bytes) :
    bypassBpf (some cgroup) true error fates ⟨[], attached⟩ =
      if fates.loads = none then (.error ("prog load: " ++ error), ⟨[], attached⟩)
      else if fates.attaches = true then (.ok (), ⟨[], some socketMarkProgram⟩)
      else (.error ("attach: " ++ error), ⟨[], attached⟩) := by
  simp only [bypassBpf, bypassSockProg_eq, progLoad_socketMarkProgram, not_true, if_false]
  cases fates.loads with
  | none => rfl
  | some program =>
      simp only [Option.map_some, progAttach_opened, reduceCtorEq, if_false]
      cases fates.attaches <;> simp [close_opened, Except.mapError]

end Attached

/-! ## Runs -/

/-- A call of the daemon or of the helper, with what the machine makes of it. -/
inductive BpfCall where
  | attach (fates : BpfFates)
  | detach (takes : Bool)
  | bypassBpf (opens wanted : Bool) (error : String) (fates : BpfFates)

namespace BpfCall

/-- The call asks for the program to be attached. -/
def attaches : BpfCall → Bool
  | .attach _ => true
  | .detach _ => false
  | .bypassBpf _ wanted _ _ => wanted

/-- Whether the call succeeds, and what it leaves. -/
def outcome (cgroup : Descriptor) (kernel : BpfKernel) : BpfCall → Bool × BpfKernel
  | .attach fates =>
      let (result, kernel) := attachSocketMark cgroup fates kernel
      (result.toBool, kernel)
  | .detach takes =>
      let (result, kernel) := detachSocketMark cgroup takes kernel
      (result.toBool, kernel)
  | .bypassBpf opens wanted error fates =>
      let opened := if opens then some cgroup else none
      let (result, kernel) := Helper.bypassBpf opened wanted error fates kernel
      (result.toBool, kernel)

def step (cgroup : Descriptor) (kernel : BpfKernel) (call : BpfCall) : BpfKernel :=
  (call.outcome cgroup kernel).2

end BpfCall

section Run

variable {cgroup : Descriptor} {kernel : BpfKernel} {call : BpfCall}

theorem marks_none : BpfKernel.Marks ⟨[], none⟩ := ⟨rfl, fun _ attached => by cases attached⟩

theorem marks_some : BpfKernel.Marks ⟨[], some socketMarkProgram⟩ :=
  ⟨rfl, fun _ attached => (Option.some.inj attached).symm⟩

theorem marks_ite {attached : Option Bytes} (takes : Bool)
    (marks : BpfKernel.Marks ⟨[], attached⟩) :
    BpfKernel.Marks ⟨[], if takes then none else attached⟩ := by
  cases takes with
  | true => exact marks_none
  | false => exact marks

/-- A call that succeeds has attached the program, or has left none attached. -/
structure Sound (call : BpfCall) (outcome : Bool × BpfKernel) : Prop where
  marks : outcome.2.Marks
  attached : outcome.1 = true → outcome.2.attached.isSome = call.attaches

theorem sound_attach (fates : BpfFates) {attached : Option Bytes}
    (marks : BpfKernel.Marks ⟨[], attached⟩) :
    Sound (.attach fates) (BpfCall.outcome cgroup ⟨[], attached⟩ (.attach fates)) := by
  rw [BpfCall.outcome, attachSocketMark_eq]
  by_cases refused : fates.loads = none
  · rw [if_pos refused]
    exact ⟨marks, fun ok => by cases ok⟩
  · rw [if_neg refused]
    cases fates.attaches with
    | true => exact ⟨marks_some, fun _ => rfl⟩
    | false => exact ⟨marks_ite fates.detaches marks, fun ok => by cases ok⟩

theorem sound_detach (takes : Bool) {attached : Option Bytes}
    (marks : BpfKernel.Marks ⟨[], attached⟩) :
    Sound (.detach takes) (BpfCall.outcome cgroup ⟨[], attached⟩ (.detach takes)) := by
  rw [BpfCall.outcome, detachSocketMark_eq]
  by_cases gone : takes = true ∧ attached.isSome = true
  · rw [if_pos gone]
    exact ⟨marks_none, fun _ => rfl⟩
  · rw [if_neg gone]
    exact ⟨marks, fun ok => by cases ok⟩

theorem sound_bypassBpf (opens wanted : Bool) (error : String) (fates : BpfFates)
    {attached : Option Bytes} (marks : BpfKernel.Marks ⟨[], attached⟩) :
    Sound (.bypassBpf opens wanted error fates)
      (BpfCall.outcome cgroup ⟨[], attached⟩ (.bypassBpf opens wanted error fates)) := by
  rw [BpfCall.outcome]
  cases opens with
  | false => exact ⟨marks, fun ok => by cases ok⟩
  | true =>
      cases wanted with
      | true =>
          rw [if_pos rfl, bypassBpf_eq]
          by_cases refused : fates.loads = none
          · rw [if_pos refused]
            exact ⟨marks, fun ok => by cases ok⟩
          · rw [if_neg refused]
            cases fates.attaches with
            | true => exact ⟨marks_some, fun _ => rfl⟩
            | false => exact ⟨marks, fun ok => by cases ok⟩
      | false =>
          have same := @detachSocketMark_eq cgroup ⟨[], attached⟩ fates.detaches
          rw [detachSocketMark] at same
          simp only [if_true, bypassBpf, Bool.false_eq_true, not_false_eq_true, same]
          by_cases gone : fates.detaches = true ∧ attached.isSome = true
          · rw [if_pos gone]
            exact ⟨marks_none, fun _ => rfl⟩
          · rw [if_neg gone]
            exact ⟨marks, fun ok => by cases ok⟩

theorem sound_outcome (marks : kernel.Marks) (call : BpfCall) :
    Sound call (call.outcome cgroup kernel) := by
  obtain ⟨attached, rfl⟩ : ∃ attached, kernel = ⟨[], attached⟩ :=
    ⟨kernel.attached, by rw [← marks.closed]⟩
  cases call with
  | attach fates => exact sound_attach fates marks
  | detach takes => exact sound_detach takes marks
  | bypassBpf opens wanted error fates => exact sound_bypassBpf opens wanted error fates marks

/-- A new socket is never refused, and nothing of it but the mark is ever written. -/
theorem createSocket_eq (marks : kernel.Marks) (sock : BpfSock) :
    kernel.createSocket sock =
      some (if kernel.attached.isSome then sock.marked else sock.bytes) := by
  rw [BpfKernel.createSocket]
  cases attached : kernel.attached with
  | none => rfl
  | some program =>
      rw [marks.program program attached]
      simp only [run_socketMarkProgram, if_true, Option.isSome_some]

theorem field_marked (sock : BpfSock) : field 16 4 sock.marked = 0x2025 :=
  field_put_self (by decide) rfl (Nat.le_trans (by decide) sock.whole)

theorem getElem?_marked (sock : BpfSock) {index : Nat} (apart : index < 16 ∨ 20 ≤ index) :
    sock.marked[index]? = sock.bytes[index]? :=
  getElem?_putAt_of_apart sock.whole apart

/-- What holds of the sockets that the members of the cgroup make. -/
structure MarksSockets (kernel : BpfKernel) : Prop where
  closed : kernel.opened = []
  marked : kernel.attached.isSome = true → ∀ sock : BpfSock, ∃ bytes,
    kernel.createSocket sock = some bytes ∧ field 16 4 bytes = 0x2025 ∧
      ∀ index, index < 16 ∨ 20 ≤ index → bytes[index]? = sock.bytes[index]?
  unmarked : kernel.attached.isSome = false → ∀ sock : BpfSock,
    kernel.createSocket sock = some sock.bytes

theorem BpfKernel.Marks.marksSockets (marks : kernel.Marks) : MarksSockets kernel where
  closed := marks.closed
  marked attached sock :=
    ⟨sock.marked, by rw [createSocket_eq marks, if_pos attached], field_marked sock,
      fun _ apart => getElem?_marked sock apart⟩
  unmarked detached sock := by
    rw [createSocket_eq marks, if_neg (by rw [detached]; exact Bool.false_ne_true)]

/-- However the daemon and the helper attach and detach, and whatever fails of it: new
sockets are marked for the bypass or left alone, never refused; after a call that succeeds
they are marked just if it was to attach. -/
theorem socketMark_always (cgroup : Descriptor) (calls : List BpfCall) :
    Always (BpfCall.step cgroup) MarksSockets .fresh calls ∧
    EveryStep (BpfCall.step cgroup) (fun kernel call => (call.outcome cgroup kernel).1 = true →
      (call.step cgroup kernel).attached.isSome = call.attaches) .fresh calls := by
  have kept : ∀ kernel call, BpfKernel.Marks kernel → True →
      BpfKernel.Marks (BpfCall.step cgroup kernel call) :=
    fun _ call marks _ => (sound_outcome marks call).marks
  constructor
  · exact always_of_invariant (fun _ marks => marks.marksSockets) kept calls _ marks_none
      (everyStep_true calls _)
  · exact everyStep_of_invariant kept
      (fun _ call marks _ => (sound_outcome marks call).attached) calls _ marks_none
      (everyStep_true calls _)

end Run

end Varmlen.Daemon
