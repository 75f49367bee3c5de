import Mathlib.Data.Set.Insert
import Mathlib.Logic.Function.Basic
import Varmlen.Foundation.Effect
import Varmlen.Foundation.Files

/-!
# Files on a disk that may lose power

Names refer to numbered files.  What is written to a file, and which names there are, reaches
the disk when it is synced.  An action can fail, and the process that carries it out can be
killed in the middle of it.  A power loss leaves each name as it was at some moment since the
names were synced, and anything at all in a file that was not.
-/

namespace Foundation.Storage

open Foundation.Effect
open Foundation.Files (Bytes)

/-- What a file holds and who may use it. -/
structure File where
  bytes : Bytes
  mode : Nat
  owner : Nat
  deriving DecidableEq, Repr

/-- A file as a process sees it, and whether the disk has it so. -/
structure Node where
  file : File
  synced : Bool
  deriving DecidableEq, Repr

abbrev Names := String → Option Nat

structure Disk where
  nodes : Nat → Node
  /-- The number of the next file. -/
  fresh : Nat
  names : Names
  /-- The names at the moments before, back to the last one at which they were synced. -/
  earlier : List Names

namespace Disk

def empty : Disk where
  nodes _ := ⟨⟨[], 0, 0⟩, true⟩
  fresh := 0
  names _ := none
  earlier := []

def find (disk : Disk) (number : Option Nat) : Option File :=
  number.map fun number => (disk.nodes number).file

def read (disk : Disk) (name : String) : Option File := disk.find (disk.names name)

/-- The names change, and the disk may keep those from before. -/
def rename (disk : Disk) (names : Names) : Disk :=
  { disk with names := names, earlier := disk.names :: disk.earlier }

@[simp] theorem rename_names (disk : Disk) (names : Names) : (disk.rename names).names = names :=
  rfl

def create (disk : Disk) (name : String) (mode owner : Nat) : Disk :=
  { disk.rename (Function.update disk.names name (some disk.fresh)) with
    nodes := Function.update disk.nodes disk.fresh ⟨⟨[], mode, owner⟩, false⟩
    fresh := disk.fresh + 1 }

def setNode (disk : Disk) (number : Nat) (node : Node) : Disk :=
  { disk with nodes := Function.update disk.nodes number node }

@[simp] theorem setNode_nodes (disk : Disk) (number : Nat) (node : Node) :
    (disk.setNode number node).nodes = Function.update disk.nodes number node :=
  rfl

/-- A power loss, with the choices that it makes. -/
def losePower (disk : Disk) (moment : String → Nat) (garbage : Nat → File) : Disk where
  nodes number :=
    if (disk.nodes number).synced then disk.nodes number else ⟨garbage number, true⟩
  fresh := disk.fresh
  names name := ((disk.names :: disk.earlier).getD (moment name) disk.names) name
  earlier := []

section LosePower

variable {disk : Disk} {moment : String → Nat} {garbage : Nat → File} {number : Nat}

theorem losePower_of_synced (synced : (disk.nodes number).synced = true) :
    (disk.losePower moment garbage).nodes number = disk.nodes number :=
  if_pos synced

theorem losePower_synced : ((disk.losePower moment garbage).nodes number).synced = true := by
  by_cases synced : (disk.nodes number).synced = true
  · rw [losePower_of_synced synced, synced]
  · exact congrArg Node.synced (if_neg synced)

end LosePower

end Disk

/-! ## Actions -/

inductive Edit where
  | truncate
  | append (bytes : Bytes)
  | setMode (mode : Nat)
  | setOwner (owner : Nat)
  deriving DecidableEq, Repr

def Edit.apply : Edit → File → File
  | .truncate, file => { file with bytes := [] }
  | .append bytes, file => { file with bytes := file.bytes ++ bytes }
  | .setMode mode, file => { file with mode := mode }
  | .setOwner owner, file => { file with owner := owner }

inductive Action where
  /-- Create a file that must not be there. -/
  | createNew (name : String) (mode : Nat)
  /-- Create a file, or empty the one that is there. -/
  | create (name : String) (mode : Nat)
  | edit (name : String) (edit : Edit)
  | sync (name : String)
  | rename (source target : String)
  | remove (name : String)
  | syncDirectory
  deriving DecidableEq, Repr

/-- What an action makes of the disk, or nothing when it is refused. -/
def effect (user : Nat) : Action → Disk → Option Disk
  | .createNew name mode, disk =>
      match disk.names name with
      | some _ => none
      | none => some (disk.create name mode user)
  | .create name mode, disk =>
      match disk.names name with
      | some number =>
          some (disk.setNode number ⟨Edit.truncate.apply (disk.nodes number).file, false⟩)
      | none => some (disk.create name mode user)
  | .edit name edit, disk =>
      (disk.names name).map fun number =>
        disk.setNode number ⟨edit.apply (disk.nodes number).file, false⟩
  | .sync name, disk =>
      (disk.names name).map fun number => disk.setNode number ⟨(disk.nodes number).file, true⟩
  | .rename source target, disk =>
      (disk.names source).map fun number =>
        disk.rename (Function.update (Function.update disk.names source none) target (some number))
  | .remove name, disk =>
      (disk.names name).map fun _ => disk.rename (Function.update disk.names name none)
  | .syncDirectory, disk => some { disk with earlier := [] }

/-- A removal is about one name. -/
theorem read_effect_remove {user : Nat} {path : String} {disk after : Disk}
    (removed : effect user (.remove path) disk = some after) (name : String) :
    after.read name = if name = path then none else disk.read name := by
  obtain ⟨number, _, rfl⟩ := Option.map_eq_some_iff.1 removed
  rw [Disk.read, Disk.rename_names, Function.update_apply]
  split
  next => rfl
  next => rfl

/-- How an action goes: a count says how much of it is done when it is cut short. -/
inductive Fate where
  | done
  | fails (count : Nat)
  | killed (count : Nat)
  deriving DecidableEq, Repr

/-- Why a process does not go on. -/
inductive Stop where
  | failed
  | killed
  deriving DecidableEq, Repr

/-- The part of an action that was carried out. -/
def Action.part (count : Nat) : Action → Option Action
  | .edit name (.append bytes) => some (.edit name (.append (bytes.take count)))
  | action => if count = 0 then none else some action

def interrupted (user count : Nat) (action : Action) (disk : Disk) : Disk :=
  ((action.part count).bind (effect user · disk)).getD disk

def perform (user : Nat) (fate : Fate) (action : Action) (disk : Disk) :
    Except Stop Unit × Disk :=
  match fate with
  | .done =>
      match effect user action disk with
      | some after => (.ok (), after)
      | none => (.error .failed, disk)
  | .fails count => (.error .failed, interrupted user count action disk)
  | .killed count => (.error .killed, interrupted user count action disk)

/-- Actions one after the other, up to the first that does not succeed. -/
def carryOut (user : Nat) : List Action → List Fate → Disk → Except Stop Unit × Disk
  | [], _, disk => (.ok (), disk)
  | action :: rest, fates, disk =>
      andThen (perform user (fates.headD .done) action disk) fun _ =>
        carryOut user rest fates.tail

/-- Actions whose failure is cleaned up after. -/
def carryOutOr (user : Nat) (actions cleanup : List Action) (fates cleanupFates : List Fate)
    (disk : Disk) : Except Stop Unit × Disk :=
  match carryOut user actions fates disk with
  | (.error .failed, left) => (.error .failed, (carryOut user cleanup cleanupFates left).2)
  | outcome => outcome

theorem ends_perform {user : Nat} {action : Action} {disk : Disk} {ok failed : Disk → Prop}
    (fate : Fate) (refused : failed disk)
    (full : ∀ after, effect user action disk = some after → ok after)
    (cut : ∀ count part after, action.part count = some part →
      effect user part disk = some after → failed after) :
    Ends (fun _ => ok) (fun _ => failed) (perform user fate action disk) := by
  have inPart (count : Nat) : failed (interrupted user count action disk) := by
    rw [interrupted]
    cases isPart : action.part count with
    | none => exact refused
    | some part =>
        cases done : effect user part disk with
        | none => simpa [done] using refused
        | some after => simpa [done] using cut count part after isPart done
  cases fate with
  | done =>
      rw [perform]
      cases done : effect user action disk with
      | none => exact refused
      | some after => exact full after done
  | fails count => exact inPart count
  | killed count => exact inPart count

end Foundation.Storage
