import Mathlib.Data.List.Basic

/-!
# Files by name

A directory of regular files as a map from names to contents, and the operations a
program changes it with.  An operation fails on a file that is not there; nothing else
goes wrong.
-/

namespace Foundation.Files

abbrev Bytes := List UInt8

abbrev Directory := String → Option Bytes

/-- Why a file operation failed, as `std::io::ErrorKind` tells it. -/
inductive FileError where
  | notFound
  | other
  deriving DecidableEq, Repr

def empty : Directory := fun _ => none

/-- The bytes of a file, none when it is not there. -/
def content (files : Directory) (name : String) : Bytes := (files name).getD []

/-- Put a file in place, or take it away. -/
def set (files : Directory) (name : String) (file : Option Bytes) : Directory := fun other =>
  if other = name then file else files other

theorem set_of_ne (files : Directory) {name other : String} (file : Option Bytes)
    (different : other ≠ name) : set files name file other = files other :=
  if_neg different

theorem set_eq_self {files : Directory} {name : String} {file : Option Bytes}
    (found : files name = file) : set files name file = files := by
  funext other
  rw [set]
  split
  next isName => rw [isName, found]
  next => rfl

def removeFile (files : Directory) (name : String) : Except FileError Directory :=
  match files name with
  | some _ => .ok (set files name none)
  | none => .error .notFound

/-- A file that is renamed takes the place of one that has the new name. -/
def rename (files : Directory) (source target : String) : Except FileError Directory :=
  match files source with
  | some file => .ok (set (set files source none) target (some file))
  | none => .error .notFound

/-- Write at the end of a file, which is created if it is not there. -/
def appendTo (files : Directory) (name : String) (bytes : Bytes) : Directory :=
  set files name (some (content files name ++ bytes))

theorem content_appendTo_self (files : Directory) (name : String) (bytes : Bytes) :
    content (appendTo files name bytes) name = content files name ++ bytes := by
  rw [content, appendTo, set, if_pos rfl, Option.getD_some]

theorem content_appendTo_of_ne (files : Directory) {name other : String} (bytes : Bytes)
    (different : other ≠ name) :
    content (appendTo files name bytes) other = content files other := by
  rw [content, appendTo, set_of_ne _ _ different, content]

/-- Go on when a file was not there. -/
def ifFound (files : Directory) : Except FileError Directory → Except FileError Directory
  | .ok changed => .ok changed
  | .error .notFound => .ok files
  | .error error => .error error

theorem ifFound_removeFile (files : Directory) (name : String) :
    ifFound files (removeFile files name) = .ok (set files name none) := by
  rw [removeFile]
  cases found : files name with
  | some file => rfl
  | none =>
      rw [set_eq_self found]
      rfl

/-- What stands under one name stands under another afterwards. -/
def move (files : Directory) (source target : String) : Directory :=
  set (set files source none) target (files source)

section Move

variable {files : Directory} {source target other : String}

@[simp] theorem move_target : move files source target target = files source := if_pos rfl

theorem move_source (different : source ≠ target) : move files source target source = none := by
  rw [move, set_of_ne _ _ different]
  exact if_pos rfl

theorem move_of_ne (notSource : other ≠ source) (notTarget : other ≠ target) :
    move files source target other = files other := by
  rw [move, set_of_ne _ _ notTarget, set_of_ne _ _ notSource]

/-- A file moves to a name that is free; when there is no file, nothing moves. -/
theorem ifFound_rename (free : files target = none) :
    ifFound files (rename files source target) = .ok (move files source target) := by
  rw [rename, move]
  cases found : files source with
  | some file => rfl
  | none =>
      rw [set_eq_self found, set_eq_self free]
      rfl

end Move

end Foundation.Files
