import Varmlen.Daemon.Lifecycle
import Varmlen.Daemon.Split

/-!
# The lifecycle backend on the system

`SystemLifecycleBackend` implements the lifecycle's operations with external
commands and keeps its own record of what it has put in place
(`daemon/src/system.rs`).  The record and the world are separate here, because
they can come apart: a removal that fails leaves its resource in the world, and
what the record then says decides whether a later call tries again.

Every place in the code where an external command is run is reached at most once
in one call of the manager, so one answer for each place describes every choice
of the environment.
-/

namespace Varmlen.Daemon

open Foundation.Effect

/-- How the external commands of one `stop_data_plane` go. -/
structure StopAnswers where
  rollback : RollbackAnswers
  removeDns : Option DaemonError
  helperExists : Bool
  routeDown : Option DaemonError
  /-- The error of killing an Xray that outlived `SIGTERM`. -/
  kill : Option String

/-- How everything outside the daemon answers during one call of the manager. -/
structure SystemAnswers where
  aliveAtCheck : Bool
  aliveWhenReady : Bool
  aliveAtVerification : Bool
  validate : Option DaemonError
  holdUp : Option DaemonError
  holdInspection : Option DaemonError
  holdDown : Option DaemonError
  /-- The two stops of a reconnect, told apart by `preserve_split`. -/
  stop : Bool → StopAnswers
  /-- Everything up to and including the spawning of Xray. -/
  spawn : Option DaemonError
  readyInTime : Bool
  routeUp : Laying DaemonError
  /-- Taking a split down to replace it. -/
  dropSplit : RollbackAnswers
  laySplit : SplitAnswers
  dnsApply : Laying DaemonError
  dnsProbe : Except DaemonError Bool
  dnsUndo : Option DaemonError
  tunDeviceExists : Bool
  splitHealthy : Bool
  routeCheck : Option DaemonError

/-- The backend's own record. -/
structure SystemLifecycleBackend where
  ownerUid : Nat
  /-- The Xray it holds a handle on. -/
  xray : Option Nat
  mode : Option ConnectionMode
  dnsActive : Bool
  split : Option (SplitManager SystemSplitBackend)
  splitApps : List String
  deriving DecidableEq, Repr

/-- The backend together with the world it works on. -/
structure System where
  backend : SystemLifecycleBackend
  world : World
  answers : SystemAnswers

namespace System

/-- A call of the backend. -/
abbrev Called (α : Type) := Outcome α System

/-- Whether the recorded Xray is alive at a moment when the environment lets it
live or not. -/
def childIsRunning (lives : Bool) (system : System) : Bool × System :=
  match system.backend.xray with
  | none => (false, system)
  | some pid =>
      if lives then (decide (pid ∈ system.world.processes), system)
      else
        (false, { system with
          world := { system.world with
            processes := system.world.processes.filter (· ≠ pid) } })

def validate (system : System) : Called Unit :=
  failing system.answers.validate system

/-- Run the network helper, reporting its failure under another code. -/
def runNetHelper (failure : Option DaemonError) (code : DaemonErrorCode)
    (system : System) : Called Unit :=
  failing (failure.map fun error => ⟨code, error.message⟩) system

def installHoldBlock (system : System) : Called Unit :=
  andThen (runNetHelper system.answers.holdUp .holdBlockFailed system) fun _ system =>
  (.ok (), { system with world := { system.world with hold := true } })

def verifyHoldBlock (system : System) : Called Unit :=
  failing system.answers.holdInspection system

def removeHoldBlock (system : System) : Called Unit :=
  andThen (runNetHelper system.answers.holdDown .holdBlockRemovalFailed system)
    fun _ system => (.ok (), { system with world := { system.world with hold := false } })

/-- Report a split error as unavailable split tunnelling. -/
def splitUnavailable (error : SplitError) : DaemonError :=
  ⟨.splitUnavailable, "per-app split tunnelling is unavailable: " ++ error.text⟩

def applySplit (applications : List String) (system : System) : Called Unit :=
  match SplitManager.apply (SystemSplitBackend.api system.answers.laySplit)
      ⟨system.backend.ownerUid, applications⟩
      (.new (.new system.backend.ownerUid)) system.world with
  | (.error error, _, world) => (.error (splitUnavailable error), { system with world })
  | (.ok (), split, world) =>
      (.ok (), { system with
        world
        backend := { system.backend with
          split := some split, splitApps := applications } })

/-- Take the split down.  The handle is gone whether or not that succeeds. -/
def removeSplit (answers : RollbackAnswers) (system : System) : Called Unit :=
  match system.backend.split with
  | none =>
      (.ok (), { system with backend := { system.backend with splitApps := [] } })
  | some split =>
      let (result, _, world) :=
        SystemSplitBackend.rollback answers (split.backend, system.world)
      mapError
        (fun error => ⟨.tunnelCleanupFailed, "split-tunnel cleanup failed: " ++ error.text⟩)
        (result, { system with
          world
          backend := { system.backend with split := none, splitApps := [] } })

/-- Remove the DNS table, if the record says it may be there. -/
def removeDns (failure : Option DaemonError) (system : System) : Called Unit :=
  if system.backend.dnsActive then
    andThen
      (failing failure { system with
        world := { system.world with
          dnsTable := system.world.dnsTable && failure.isSome } })
      fun _ system =>
        (.ok (), { system with backend := { system.backend with dnsActive := false } })
  else (.ok (), system)

def routeDown (failure : Option DaemonError) (system : System) : Called Unit :=
  failing failure { system with
    world := { system.world with tunRoutes := system.world.tunRoutes && failure.isSome } }

/-- Terminate the recorded Xray.  The handle is gone whether or not it dies. -/
def terminateXray (failure : Option String) (system : System) : Called Unit :=
  match system.backend.xray with
  | none => (.ok (), system)
  | some pid =>
      let system := { system with backend := { system.backend with xray := none } }
      if pid ∉ system.world.processes then (.ok (), system)
      else
        match failure with
        | some error =>
            (.error ⟨.tunnelCleanupFailed, "could not terminate Xray: " ++ error⟩, system)
        | none =>
            (.ok (), { system with
              world := { system.world with
                processes := system.world.processes.filter (· ≠ pid) } })

/-- The first error of two results. -/
def firstError (first second : Except DaemonError Unit) : Except DaemonError Unit :=
  match first with
  | .error error => .error error
  | .ok () => second

/-- Stop the data plane: every part is attempted, and the first failure
reported. -/
def stopDataPlane (preserveSplit : Bool) (system : System) : Called Unit :=
  let answers := system.answers.stop preserveSplit
  let split :=
    if preserveSplit then (.ok (), system) else removeSplit answers.rollback system
  let dns := removeDns answers.removeDns split.2
  let routes :=
    if dns.2.backend.mode = some .tun ∧ answers.helperExists = true then
      routeDown answers.routeDown dns.2
    else (.ok (), dns.2)
  let xray := terminateXray answers.kill routes.2
  (firstError split.1 (firstError dns.1 (firstError routes.1 xray.1)),
    { xray.2 with backend := { xray.2.backend with mode := none } })

def waitUntilReady (system : System) : Called Unit :=
  let (running, system) := childIsRunning system.answers.aliveWhenReady system
  failing
    (if running then
      if system.answers.readyInTime then none
      else some ⟨.xrayStartFailed, "timed out waiting for Xray"⟩
    else some ⟨.xrayStartFailed, "Xray exited before the data plane became ready"⟩)
    system

/-- Take a new Xray into the record, dropping the handle on any other. -/
def adoptXray (mode : ConnectionMode) (system : System) : System :=
  let pid := system.world.nextPid
  { system with
    world := { system.world with
      processes := pid :: system.world.processes, nextPid := pid + 1 }
    backend := { system.backend with xray := some pid, mode := some mode } }

def startDataPlane (request : ConnectRequest) (system : System) : Called Unit :=
  andThen (failing system.answers.spawn system) fun _ system =>
  waitUntilReady (adoptXray request.mode system)

def routeUp (system : System) : Called Unit :=
  failing system.answers.routeUp.failure { system with
    world := { system.world with
      tunRoutes := system.world.tunRoutes || system.answers.routeUp.present } }

/-- Replace the split by one for the applications of the request, or refresh the
one kept across a reconnect. -/
def settleSplit (request : ConnectRequest) (system : System) : Called Unit :=
  let splitChanged := decide (system.backend.splitApps ≠ request.excludedApps)
  andThen
    (if system.backend.split.isSome ∧ (request.excludedApps.isEmpty ∨ splitChanged) then
      removeSplit system.answers.dropSplit system
    else (.ok (), system))
    fun _ system =>
      match system.backend.split with
      | none =>
          if request.excludedApps.isEmpty then (.ok (), system)
          else applySplit request.excludedApps system
      | some split =>
          match SplitManager.refreshRouting
              (SystemSplitBackend.api system.answers.laySplit) split system.world with
          | (result, split, world) =>
              mapError splitUnavailable
                (result, { system with
                  world, backend := { system.backend with split := some split } })

/-- Put the DNS table up and probe it, taking it down when the probe fails. -/
def installDns (system : System) : Called Unit :=
  andThen
    (failing system.answers.dnsApply.failure { system with
      world := { system.world with
        dnsTable := system.world.dnsTable || system.answers.dnsApply.present } })
    fun _ system =>
      match system.answers.dnsProbe with
      | .ok true => (.ok (), system)
      | probe =>
          let system := { system with
            world := { system.world with
              dnsTable := system.world.dnsTable && system.answers.dnsUndo.isSome } }
          match probe, system.answers.dnsUndo with
          | .error error, _ => (.error error, system)
          | .ok _, some error => (.error error, system)
          | .ok _, none =>
              (.error ⟨.dnsVerificationFailed, "DNS interception could not be verified"⟩,
                system)

def activateNetwork (request : ConnectRequest) (system : System) : Called Unit :=
  if request.mode = .proxy then (.ok (), system)
  else
    andThen (routeUp system) fun _ system =>
    andThen (settleSplit request system) fun _ system =>
    -- The record is made first, so that a failed installation is cleaned up.
    installDns { system with backend := { system.backend with dnsActive := true } }

def updateSplit (applications : List String) (system : System) : Called Bool :=
  let rebuild (system : System) : Called Bool :=
    andThen (applySplit applications system) fun _ system => (.ok true, system)
  if applications.isEmpty then
    andThen (removeSplit system.answers.dropSplit system) fun _ system =>
    (.ok false, system)
  else
    match system.backend.split with
    | none => rebuild system
    | some split =>
        match SplitManager.updatePlan (SystemSplitBackend.api system.answers.laySplit)
            ⟨system.backend.ownerUid, applications⟩ split system.world with
        | (result, split, world) =>
            andThen
              (mapError splitUnavailable
                (result, { system with
                  world, backend := { system.backend with split := some split } }))
              fun live system =>
                if live then
                  (.ok true, { system with
                    backend := { system.backend with splitApps := applications } })
                else
                  -- The split had already degraded to nothing live.
                  andThen (removeSplit system.answers.dropSplit system) fun _ system =>
                  rebuild system

def verifyConnection (request : ConnectRequest) (system : System) : Called Unit :=
  let (running, system) := childIsRunning system.answers.aliveAtVerification system
  if !running then (.error ⟨.xrayStartFailed, "Xray is not running"⟩, system)
  else if request.mode = .proxy then (.ok (), system)
  else if !system.answers.tunDeviceExists || !system.backend.dnsActive then
    (.error ⟨.tunnelCommitFailed, "TUN or DNS protection disappeared during activation"⟩,
      system)
  else if system.backend.split.any fun split =>
      !(split.backend.routingActive && split.backend.directDns &&
        split.backend.watcher.isSome && system.answers.splitHealthy) then
    (.error ⟨.splitUnavailable, "per-app split watcher stopped"⟩, system)
  else failing system.answers.routeCheck system

def api : LifecycleBackend System where
  dataPlaneAlive system := childIsRunning system.answers.aliveAtCheck system
  validate _ := validate
  installHoldBlock _ := installHoldBlock
  verifyHoldBlock := verifyHoldBlock
  stopDataPlane := stopDataPlane
  startDataPlane := startDataPlane
  activateNetwork := activateNetwork
  updateSplit := updateSplit
  verifyConnection := verifyConnection
  removeHoldBlock := removeHoldBlock

end System

end Varmlen.Daemon
