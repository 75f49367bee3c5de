import Varmlen.Helper.Routes
import Varmlen.Daemon.Routing
import Varmlen.Daemon.StateStore

/-!
# Recovery

A daemon that starts takes away what an earlier one of its user has left behind
(`daemon/src/recovery.rs`): it looks for the resources that it knows, removes them one by one
and looks again.
-/

namespace Varmlen.Daemon

open Foundation Foundation.Effect Foundation.Routing Foundation.Storage Foundation.Text

/-! ## Processes -/

/-- What `/proc` has of a process. -/
structure ProcessFiles where
  stat : Except String String
  executable : Except String String

abbrev Processes := UInt32 → ProcessFiles

def parseStartTimeTicks (stat : String) : Option UInt64 := do
  let (_, fields) ← rsplitOnce ')' stat
  let field ← (splitWhitespace fields)[19]?
  (parseUnsigned (2 ^ 64) field).map UInt64.ofNat

namespace ProcessIdentity

def matchesLive (saved live : ProcessIdentity) : Bool :=
  saved.pid == live.pid && saved.startTimeTicks == live.startTimeTicks &&
    saved.executable == live.executable

def fromPid (processes : Processes) (pid : UInt32) : Except String ProcessIdentity :=
  match (processes pid).stat with
  | .error error => .error ("read process stat: " ++ error)
  | .ok stat =>
      match parseStartTimeTicks stat with
      | none => .error "invalid process stat"
      | some startTimeTicks =>
          match (processes pid).executable with
          | .error error => .error ("read process executable: " ++ error)
          | .ok executable => .ok ⟨pid, startTimeTicks, executable⟩

end ProcessIdentity

/-! ## Resources -/

deriving instance Ord for ProcessIdentity

inductive Resource where
  | xrayProcess (identity : ProcessIdentity)
  | tunInterface (interface : String)
  | routeTable (table : String)
  | nftTable (table : String)
  | splitBpf (path : String)
  | runtimeFile (path : String)
  deriving DecidableEq, Repr, Ord

/-- Add to a set, which is kept as a list in order. -/
def insertResource (resource : Resource) : List Resource → List Resource
  | [] => [resource]
  | other :: rest =>
      match compare resource other with
      | .lt => resource :: other :: rest
      | .eq => other :: rest
      | .gt => other :: insertResource resource rest

structure CleanupReport where
  removed : List Resource
  remaining : List Resource

def CleanupReport.phase (report : CleanupReport) : ConnectionPhase :=
  if report.remaining.isEmpty then .disconnected else .recoveryRequired

/-! ## The manager -/

structure CleanupBackend (State : Type) where
  inspect : State → Except String (List Resource) × State
  remove : Resource → State → Except String Unit × State

/-- Remove what is found, whatever comes of it, and look again. -/
def CleanupBackend.cleanup {State : Type} (api : CleanupBackend State) (state : State) :
    Except String CleanupReport × State :=
  andThen (api.inspect state) fun before state =>
  let state := before.foldl (fun state resource => (api.remove resource state).2) state
  andThen (api.inspect state) fun remaining state =>
  (.ok ⟨before.filter fun resource => !remaining.contains resource, remaining⟩, state)

/-! ## The machine -/

inductive SignalKind where
  | terminate
  | kill
  deriving DecidableEq, Repr

structure Signal where
  pid : UInt32
  kind : SignalKind
  /-- The process that has the pid then. -/
  target : Except String ProcessIdentity

structure Machine where
  signals : List Signal
  interfaces : String → Bool
  /-- The tables of the family `inet`, but for the one that the helper's own record has. -/
  tables : String → Bool
  helper : Helper.Machine
  /-- The processes in each cgroup. -/
  groups : String → Option (List String)
  disk : Disk
  /-- The steps so far that take their time. -/
  turn : Nat

inductive CommandFate where
  | works
  | fails (complaint : String)
  | missing (error : String)
  deriving DecidableEq, Repr

/-- What the rest of the system does, turn by turn. -/
structure Outside where
  fate : Nat → CommandFate
  /-- What a command prints. -/
  printed : Nat → String
  processes : Nat → Processes
  /-- Where the network helper is installed. -/
  netHelper : String

/-- The daemon's user and the state file, and how documents are read. -/
structure SystemCleanupBackend where
  ownerUid : UInt32
  statePath : String
  parse : StateStore.DocumentReader

namespace Machine

def pass (machine : Machine) : Machine := { machine with turn := machine.turn + 1 }

def setNetwork (machine : Machine) (network : Network) : Machine :=
  { machine with helper := { machine.helper with network } }

/-- An interface goes, and the routes over it. -/
def withoutInterface (name : String) (machine : Machine) : Machine :=
  { machine.setNetwork { machine.helper.network with
      routes := fun key =>
        (machine.helper.network.routes key).filter fun route => route.dev ≠ some name } with
    interfaces := Function.update machine.interfaces name false }

def withoutTable (name : String) (machine : Machine) : Machine :=
  { machine with tables := Function.update machine.tables name false }

def setGroup (path : String) (group : Option (List String)) (machine : Machine) : Machine :=
  { machine with groups := Function.update machine.groups path group }

def signal (outside : Outside) (pid : UInt32) (kind : SignalKind) (machine : Machine) : Machine :=
  { machine with
    signals := machine.signals ++
      [⟨pid, kind, ProcessIdentity.fromPid (outside.processes machine.turn) pid⟩] }

end Machine

/-! ## External commands -/

def ipEffect (arguments : List String) (machine : Machine) : Option Machine :=
  match arguments with
  | ["link", "delete", "dev", name] =>
      if machine.interfaces name then some (machine.withoutInterface name) else none
  | _ => (run arguments machine.helper.network).map machine.setNetwork

def nftEffect (arguments : List String) (machine : Machine) : Option Machine :=
  match arguments with
  | ["delete", "table", "inet", name] =>
      if machine.tables name then some (machine.withoutTable name) else none
  | _ => none

/-- The helper's `cleanup`: its kill switch, its routing and the interface. -/
def helperCleanup (machine : Machine) : Machine :=
  let machine := machine.withoutTable "varmlen_ks"
  let machine := { machine with helper := Helper.routeDown false machine.helper }
  (ipEffect ["link", "delete", "dev", Helper.tunIface] machine).getD machine

inductive Program where
  | ip
  | nft
  | netHelper
  deriving DecidableEq, Repr

def Program.name (outside : Outside) : Program → String
  | .ip => "ip"
  | .nft => "nft"
  | .netHelper => outside.netHelper

def Program.effect : Program → List String → Machine → Option Machine
  | .ip, arguments, machine => ipEffect arguments machine
  | .nft, arguments, machine => nftEffect arguments machine
  | .netHelper, ["cleanup"], machine => some (helperCleanup machine)
  | .netHelper, _, _ => none

section Commands

variable (outside : Outside)

def commandSuccess (program : Program) (arguments : List String) (machine : Machine) :
    Except String Unit × Machine :=
  match outside.fate machine.turn with
  | .missing error => (.error (program.name outside ++ ": " ++ error), machine.pass)
  | .fails complaint => (.error (program.name outside ++ ": " ++ trim complaint), machine.pass)
  | .works =>
      match program.effect arguments machine.pass with
      | some machine => (.ok (), machine)
      | none =>
          (.error (program.name outside ++ ": " ++ trim (outside.printed machine.turn)), machine.pass)

/-- What a command prints; its status is not looked at. -/
def output (purpose : String) (machine : Machine) : Except String String × Machine :=
  match outside.fate machine.turn with
  | .missing error => (.error (purpose ++ ": " ++ error), machine.pass)
  | _ => (.ok (outside.printed machine.turn), machine.pass)

/-- An operation on files, which can fail. -/
def fileStep (purpose : String) (next : Option Machine) (machine : Machine) :
    Except String Unit × Machine :=
  match outside.fate machine.turn, next with
  | .works, some next => (.ok (), next.pass)
  | .works, none => (.error (purpose ++ ": " ++ outside.printed machine.turn), machine.pass)
  | .fails error, _ | .missing error, _ => (.error (purpose ++ ": " ++ error), machine.pass)

/-! ## Inspection -/

def routeResources (rulesText routesText : String) : List Resource :=
  let dns :=
    if contains rulesText "0x2023" || contains rulesText "0x00002023" then
      [Resource.routeTable "101"]
    else []
  let isSplit (line : String) : Bool := contains line ("lookup " ++ splitTable)
  let splitRules := (lines rulesText).filter isSplit
  let helperRules := "\n".intercalate ((lines rulesText).filter fun line => !isSplit line)
  let split := if !splitRules.isEmpty then insertResource (.routeTable splitTable) dns else dns
  if contains helperRules "0x2024" || contains helperRules "0x00002024" ||
      contains helperRules "0x2025" || contains helperRules "0x00002025" ||
      contains routesText "0.0.0.0/1" || contains routesText "128.0.0.0/1" ||
      contains routesText "blackhole ::/1" || contains routesText "blackhole 8000::/1" then
    insertResource (.routeTable "100") split
  else split

/-- The tables of the family `inet` that are looked for. -/
def knownTables : List String := ["varmlen_dns", "varmlen_split_dns", "varmlen_split", "varmlen_ks"]

def nftTableExists (name : String) (machine : Machine) : Bool × Machine :=
  (decide (outside.fate machine.turn = .works) && machine.tables name, machine.pass)

def findTables : List String → List Resource × Machine → List Resource × Machine
  | [], found => found
  | name :: rest, (resources, machine) =>
      let (exists', machine) := nftTableExists outside name machine
      findTables rest
        (if exists' then insertResource (.nftTable name) resources else resources, machine)

namespace SystemCleanupBackend

def userGroup (backend : SystemCleanupBackend) : String :=
  "/sys/fs/cgroup/varmlen/user-" ++ toString backend.ownerUid

def splitCgroup (backend : SystemCleanupBackend) : String := backend.userGroup ++ "/bypass"

/-- What the state file tells of. -/
def recorded (backend : SystemCleanupBackend) (machine : Machine) :
    Except String (List Resource) :=
  match (StateStore.mk backend.statePath).read backend.parse machine.disk with
  | .error error =>
      .error ("read recovery state: " ++ error.text.getD (outside.printed machine.turn))
  | .ok none => .ok []
  | .ok (some state) =>
      if state.ownerUid ≠ backend.ownerUid then
        .error "recovery state belongs to another user"
      else
        let process :=
          match state.xray with
          | none => []
          | some saved =>
              match ProcessIdentity.fromPid (outside.processes machine.turn) saved.pid with
              | .ok live => if saved.matchesLive live then [Resource.xrayProcess saved] else []
              | .error _ => []
        .ok (insertResource (.runtimeFile backend.statePath) process)

def inspect (backend : SystemCleanupBackend) (machine : Machine) :
    Except String (List Resource) × Machine :=
  match backend.recorded outside machine with
  | .error error => (.error error, machine)
  | .ok resources =>
      let resources :=
        if machine.interfaces "varmlen0" then insertResource (.tunInterface "varmlen0") resources
        else resources
      andThen (output outside "inspect policy rules" machine) fun rules machine =>
      andThen (output outside "inspect IPv4 routes" machine) fun routesV4 machine =>
      andThen (output outside "inspect IPv6 routes" machine) fun routesV6 machine =>
      let resources := (routeResources rules (routesV4 ++ "\n" ++ routesV6)).foldl
        (fun resources resource => insertResource resource resources) resources
      let (resources, machine) := findTables outside knownTables (resources, machine)
      (.ok (if (machine.groups backend.splitCgroup).isSome then
          insertResource (.splitBpf backend.splitCgroup) resources
        else resources), machine)

end SystemCleanupBackend

/-! ## Removal -/

/-- Wait for a process to go, looking at it once in a while. -/
def awaitExit (pid : UInt32) : (attempts : Nat) → Machine → Bool × Machine
  | 0, machine => (false, machine)
  | attempts + 1, machine =>
      match ProcessIdentity.fromPid (outside.processes machine.turn) pid with
      | .error _ => (true, machine)
      | .ok _ => awaitExit pid attempts machine.pass

def terminateProcess (saved : ProcessIdentity) (machine : Machine) :
    Except String Unit × Machine :=
  match ProcessIdentity.fromPid (outside.processes machine.turn) saved.pid with
  | .error error => (.error error, machine)
  | .ok live =>
      if !saved.matchesLive live then (.error "refusing to terminate a reused PID", machine)
      else
        match awaitExit outside saved.pid 20 (machine.signal outside saved.pid .terminate) with
        | (true, machine) => (.ok (), machine)
        | (false, machine) =>
            match ProcessIdentity.fromPid (outside.processes machine.turn) saved.pid with
            | .error error => (.error error, machine)
            | .ok live =>
                if !saved.matchesLive live then (.error "refusing to kill a reused PID", machine)
                else
                  fileStep outside "kill stale Xray"
                    (some (machine.signal outside saved.pid .kill)) machine

/-- Delete rules with a mark, at most so many, up to the first failure. -/
def deleteMarked (family mark table : String) : (attempts : Nat) → Machine → Machine
  | 0, machine => machine
  | attempts + 1, machine =>
      match commandSuccess outside .ip
          [family, "rule", "del", "fwmark", mark, "lookup", table] machine with
      | (.error _, machine) => machine
      | (.ok (), machine) => deleteMarked family mark table attempts machine

/-- The tables of the helper's and their marks. -/
def marksOf (table : String) : List String :=
  if table = "100" then ["0x2024", "0x2025"] else ["0x2023"]

def removeRouteTable (table : String) (machine : Machine) : Except String Unit × Machine :=
  let machine :=
    if table = "100" then (commandSuccess outside .netHelper ["cleanup"] machine).2 else machine
  let machine := (marksOf table).foldl (fun machine mark =>
    ["-4", "-6"].foldl (fun machine family => deleteMarked outside family mark table 4 machine)
      machine) machine
  commandSuccess outside .ip ["route", "flush", "table", table] machine

/-- Move processes to the parent cgroup, one by one. -/
def restoreProcesses (path parent : String) : List String → Machine → Except String Unit × Machine
  | [], machine => (.ok (), machine)
  | pid :: rest, machine =>
      let moved := (machine.setGroup path
          ((machine.groups path).map fun pids => pids.filter (· ≠ pid))).setGroup parent
        ((machine.groups parent).map (· ++ [pid]))
      andThen (fileStep outside "restore split process" (some moved) machine) fun _ machine =>
      restoreProcesses path parent rest machine

def cleanupSplitCgroup (path : String) (machine : Machine) : Except String Unit × Machine :=
  andThen (fileStep outside "open split cgroup" ((machine.groups path).map fun _ => machine)
    machine) fun _ machine =>
  match (rsplitOnce '/' path).map Prod.fst with
  | none => (.error "split cgroup has no parent", machine)
  | some parent =>
      andThen (fileStep outside "read split processes"
        ((machine.groups path).map fun _ => machine) machine) fun _ machine =>
      let pids := ((machine.groups path).getD []).filter (· != "")
      andThen (restoreProcesses outside path parent pids machine) fun _ machine =>
      fileStep outside "remove split cgroup"
        (if machine.groups path = some [] then some (machine.setGroup path none) else none) machine

namespace SystemCleanupBackend

def remove (backend : SystemCleanupBackend) (resource : Resource) (machine : Machine) :
    Except String Unit × Machine :=
  match resource with
  | .xrayProcess saved => terminateProcess outside saved machine
  | .tunInterface interface =>
      if interface = "varmlen0" then
        commandSuccess outside .ip ["link", "delete", "dev", interface] machine
      else (.error "refusing to remove an unrecognized recovery resource", machine)
  | .routeTable table =>
      if table = splitTable then
        (.ok (), routingTeardownCommands.foldl
          (fun machine arguments => (commandSuccess outside .ip arguments machine).2) machine)
      else if table = "100" ∨ table = "101" then removeRouteTable outside table machine
      else (.error "refusing to remove an unrecognized recovery resource", machine)
  | .nftTable table =>
      if table ∈ knownTables then
        commandSuccess outside .nft ["delete", "table", "inet", table] machine
      else (.error "refusing to remove an unrecognized recovery resource", machine)
  | .splitBpf path =>
      if path = backend.splitCgroup then cleanupSplitCgroup outside path machine
      else (.error "refusing to remove an unrecognized recovery resource", machine)
  | .runtimeFile path =>
      if path = backend.statePath then
        fileStep outside "remove state"
          ((effect 0 (.remove path) machine.disk).map fun disk => { machine with disk }) machine
      else (.error "refusing to remove an unrecognized recovery resource", machine)

def api (backend : SystemCleanupBackend) : CleanupBackend Machine where
  inspect := backend.inspect outside
  remove := backend.remove outside

end SystemCleanupBackend

end Commands

end Varmlen.Daemon
