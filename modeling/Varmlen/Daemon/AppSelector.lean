import Varmlen.Daemon.Request
import Varmlen.Daemon.Split
import Varmlen.Foundation.Text

/-!
# Rules of an exception list

What an entry of the exception list is read as, and the processes it stands for
(`daemon/src/split/process.rs`).
-/

namespace Varmlen.Daemon

open Foundation.Text

/-- A path as its components, by which paths are compared. -/
structure PathBuf where
  absolute : Bool
  components : List String
  deriving DecidableEq, Repr

namespace PathBuf

/-- Repeated separators and single dots are no components, except for a dot that a relative
path starts with. -/
def ofText (text : String) : PathBuf where
  absolute := startsWith text "/"
  components :=
    let proper := fun part => part != "" && part != "."
    match split '/' text with
    | "." :: parts => "." :: parts.filter proper
    | parts => parts.filter proper

def fileName (path : PathBuf) : Option String :=
  path.components.getLast?.filter fun name => name != "." && name != ".."

end PathBuf

structure ProcessSnapshot where
  comm : String
  executable : PathBuf
  argumentZero : String
  arguments : List String
  cgroup : String
  deriving DecidableEq, Repr

def ProcessSnapshot.cgroupPathsContain (process : ProcessSnapshot) (id : String) : Bool :=
  (split '/' process.cgroup).any fun component => contains component id

inductive AppSelector where
  | exactPath (path : PathBuf)
  | processName (name : String)
  deriving DecidableEq, Repr

/-- The words a command line can name a program with. -/
def commandWords (arguments : List String) : List String :=
  arguments.flatMap fun argument => argument :: splitWhitespace argument

/-- The text after the last separator of either kind. -/
def lastComponent (argument : String) : String :=
  String.ofList (argument.toList.reverse.takeWhile fun char =>
    char != '/' && char != '\\').reverse

def argumentIsNamed (argument name : String) : Bool :=
  eqIgnoreAsciiCase (lastComponent argument) name

/-- A rule that was typed for a game under Proton or Wine. -/
def isWindowsImage (name : String) : Bool :=
  (rsplitOnce '.' name).any fun parts => eqIgnoreAsciiCase parts.2 "exe"

def isApplicationId (name : String) : Bool :=
  !name.toList.contains '-' && !isWindowsImage name &&
    3 ≤ ((split '.' name).filter fun part => part != "").length

namespace AppSelector

def parse (value : String) : Except SplitError AppSelector :=
  let value := trim value
  if value = "" ∨ 4096 < byteLength value ∨ '\x00' ∈ value.toList then
    .error (.invalidApplication value)
  else if startsWith value "/" then .ok (.exactPath (.ofText value))
  else if '/' ∈ value.toList ∨ '\\' ∈ value.toList then .error (.invalidApplication value)
  else .ok (.processName value)

def matchesProcess (process : ProcessSnapshot) : AppSelector → Bool
  | .exactPath path => process.executable = path
  | .processName name =>
      eqIgnoreAsciiCase process.comm name ||
        eqIgnoreAsciiCase (process.executable.fileName.getD "") name ||
        argumentIsNamed process.argumentZero name ||
        (isWindowsImage name &&
          (commandWords process.arguments).any (argumentIsNamed · name))

/-- The sandbox application that a rule claims a process belongs to. -/
def matchedApplicationId (process : ProcessSnapshot) : AppSelector → Option String
  | .exactPath _ => none
  | .processName name =>
      if isApplicationId name && process.cgroupPathsContain name then some name else none

end AppSelector

namespace SystemSplitBackend

/-- The rules of a plan, with the paths that the file system gives for theirs; a rule as its
text. -/
def planSelectors (canonicalize : String → Option String) (plan : SplitPlan) :
    Except SplitError (List String) :=
  plan.applications.mapM fun value => do
    match ← AppSelector.parse value with
    | .exactPath _ =>
        match canonicalize (trim value) with
        | some canonical => return canonical
        | none => .error (.invalidApplication (trim value))
    | .processName name => return name

end SystemSplitBackend

end Varmlen.Daemon
