import Mathlib.Data.List.AList
import Varmlen.Daemon.AppSelector
import Varmlen.Foundation.Script
import Varmlen.Foundation.Worklist

/-!
# A pass over the processes

How the daemon makes the members of the bypass group fit the rules of a plan
(`reconcile_with` in `daemon/src/split/system.rs`).  Processes that a rule names are moved
in; when the rule that moved a process is gone, it is moved out with everything below it.
-/

namespace Varmlen.Daemon

open Foundation Foundation.Effect Foundation.Text

/-- A process as `/proc` shows it, but for its cgroup. -/
structure Process where
  pid : Nat
  /-- Its real user, if its status can be read. -/
  uid : Option Nat
  ppid : Option Nat
  comm : String
  executable : PathBuf
  argumentZero : String
  arguments : List String
  deriving DecidableEq

def Process.snapshot (process : Process) (cgroup : String) : ProcessSnapshot where
  comm := process.comm
  executable := process.executable
  argumentZero := process.argumentZero
  arguments := process.arguments
  cgroup := cgroup

/-- The processes in the order in which they are listed, each once. -/
structure ProcessTable where
  processes : List Process
  distinct : (processes.map Process.pid).Nodup

/-- The rule that moved each process that was moved. -/
abbrev OwnedPids := AList fun _ : Nat => AppSelector

/-- The cgroup of each process, and what is remembered of it. -/
structure Membership where
  cgroups : Nat → String
  owned : OwnedPids

def maxOwnedPids : Nat := 8192

/-- The relative path of the bypass cgroup. -/
def relativePath (ownerUid : Nat) : String :=
  "varmlen/user-" ++ toString ownerUid ++ "/bypass"

def tunneledPath (ownerUid : Nat) : String :=
  "varmlen/user-" ++ toString ownerUid ++ "/tunneled"

/-- A cgroup path is the one of the bypass cgroup. -/
def isBypass (ownerUid : Nat) (cgroup : String) : Bool :=
  trimStartMatches '/' cgroup == relativePath ownerUid

namespace Membership

def moveTo (path : String) (pid : Nat) (membership : Membership) : Membership :=
  { membership with
    cgroups := fun other => if other = pid then "/" ++ path else membership.cgroups other }

/-- Remember the rule of a process, as long as there is room. -/
def remember (pid : Nat) (selector : AppSelector) (membership : Membership) : Membership :=
  if membership.owned.entries.length < maxOwnedPids then
    { membership with owned := membership.owned.insert pid selector }
  else membership

def forget (pid : Nat) (membership : Membership) : Membership :=
  { membership with owned := membership.owned.erase pid }

end Membership

section Pass

-- `moves` tells which processes the kernel lets the daemon move.
variable (moves : Nat → Bool) (ownerUid : Nat) (selectors : List AppSelector)

/-- The first rule that names a process or the sandbox it is in. -/
def namingSelector (process : ProcessSnapshot) : Option AppSelector :=
  selectors.find? fun selector =>
    selector.matchesProcess process || (selector.matchedApplicationId process).isSome

/-- Move a process that a rule names into the bypass cgroup. -/
def moveIn (process : Process) (membership : Membership) : SplitOutcome Unit Membership :=
  let cgroup := membership.cgroups process.pid
  if process.uid ≠ some ownerUid ∨ isBypass ownerUid cgroup then (.ok (), membership)
  else
    match namingSelector selectors (process.snapshot cgroup) with
    | none => (.ok (), membership)
    | some selector =>
        if moves process.pid then
          (.ok (), (membership.moveTo (relativePath ownerUid) process.pid).remember
            process.pid selector)
        else (.error .reconciliationFailed, membership)

/-- The members of the bypass cgroup. -/
def memberPids (processes : List Process) (membership : Membership) : List Nat :=
  (processes.filter fun process => isBypass ownerUid (membership.cgroups process.pid)).map
    Process.pid

/-- Forget what is no member. -/
def retainMembers (members : List Nat) (membership : Membership) : Membership :=
  membership.owned.keys.foldl (fun membership pid =>
    if pid ∈ members then membership else membership.forget pid) membership

/-- Attribute a member to a rule that names it. -/
def attributeTo (membership : Membership) (process : Process) : Membership :=
  match selectors.find? fun selector =>
      selector.matchesProcess (process.snapshot (membership.cgroups process.pid)) with
  | some selector => membership.remember process.pid selector
  | none => membership

def attributeMembers (processes : List Process) (members : List Nat)
    (membership : Membership) : Membership :=
  (processes.filter fun process =>
    decide (process.pid ∈ members) && decide (process.pid ∉ membership.owned.keys)).foldl
    (attributeTo selectors) membership

/-- The processes whose rule is gone from the plan. -/
def stalePids (owned : OwnedPids) : List Nat :=
  (owned.entries.filter fun entry => entry.2 ∉ selectors).map Sigma.fst

/-- The owner's processes that another one has started. -/
def processTree (processes : List Process) (ppid : Nat) : List Nat :=
  (processes.filter fun process => process.uid = some ownerUid ∧ process.ppid = some ppid).map
    Process.pid

/-- A process and everything below it. -/
def subtree (processes : List Process) (root : Nat) : List Nat :=
  Worklist.collect (processTree ownerUid processes) (processes.length + 1) root

/-- Put a process back on the tunneled path; one that cannot be moved stays. -/
def moveOut (processes : List Process) (pid : Nat) (membership : Membership) : Membership :=
  if processes.any (fun process => process.pid = pid ∧ process.uid = some ownerUid) ∧
      moves pid then
    membership.moveTo (tunneledPath ownerUid) pid
  else membership

/-- Take a process back, if it is a member, and forget it. -/
def evict (processes : List Process) (members : List Nat) (membership : Membership)
    (pid : Nat) : Membership :=
  (if pid ∈ members then moveOut moves ownerUid processes pid membership else membership).forget
    pid

/-- Take the processes whose rule is gone back, each with its descendants. -/
def evictStale (processes : List Process) (members : List Nat) (membership : Membership) :
    Membership :=
  ((stalePids selectors membership.owned).flatMap (subtree ownerUid processes)).foldl
    (evict moves ownerUid processes members) membership

/-- One pass. -/
def reconcileWith (table : ProcessTable) (membership : Membership) :
    SplitOutcome Unit Membership :=
  andThen (Script.run (moveIn moves ownerUid selectors) table.processes membership)
    fun _ membership =>
      let members := memberPids ownerUid table.processes membership
      let membership := retainMembers members membership
      let membership := attributeMembers selectors table.processes members membership
      (.ok (), evictStale moves ownerUid selectors table.processes members membership)

end Pass

end Varmlen.Daemon
