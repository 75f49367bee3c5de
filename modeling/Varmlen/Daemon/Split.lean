import Varmlen.Foundation.Effect
import Varmlen.Daemon.Protocol

/-!
# Per-application split tunnelling

`SplitManager` lays a split step by step and takes it down again when a step
fails (`daemon/src/split/mod.rs`); `SystemSplitBackend` does so on the system,
where it leaves policy routing and a table redirecting DNS
(`daemon/src/split/system.rs`).  What external commands do is up to the
environment: each place in the code where one is run has its own answer.
-/

namespace Varmlen.Daemon

open Foundation.Effect

structure SplitPlan where
  uid : Nat
  applications : List String
  deriving DecidableEq, Repr

inductive SplitStatus where
  | disabled
  | active
  deriving DecidableEq, Repr

inductive SplitError where
  | invalidApplication (application : String)
  | cgroupUnavailable
  | bpfUnavailable
  | routingUnavailable
  | directDnsUnavailable
  | watcherUnavailable
  | reconciliationFailed
  | rollbackFailed
  deriving DecidableEq, Repr

/-- The text a split error is reported with. -/
def SplitError.text : SplitError → String
  | .invalidApplication application => "invalid split application: " ++ application
  | .cgroupUnavailable => "could not create the bypass cgroup"
  | .bpfUnavailable => "could not attach the socket-mark BPF program"
  | .routingUnavailable => "could not install split routing"
  | .directDnsUnavailable => "could not start direct DNS for excluded applications"
  | .watcherUnavailable => "the application permission watcher is unavailable"
  | .reconciliationFailed => "could not reconcile existing application processes"
  | .rollbackFailed => "split rollback failed"

/-- A split call, with the state it leaves behind. -/
abbrev SplitOutcome (α State : Type) := Except SplitError α × State

/-- The operations a split backend provides, on itself and the system. -/
structure SplitBackend (Backend World : Type) where
  createCgroup : Nat → Backend × World → SplitOutcome Unit (Backend × World)
  attachSocketMarkBpf : Backend × World → SplitOutcome Unit (Backend × World)
  installRouteRules : Backend × World → SplitOutcome Unit (Backend × World)
  startPermissionWatcher : SplitPlan → Backend × World → SplitOutcome Unit (Backend × World)
  reconcileExisting : SplitPlan → Backend × World → SplitOutcome Unit (Backend × World)
  updatePlan : SplitPlan → Backend × World → SplitOutcome Unit (Backend × World)
  refreshRouteRules : Backend × World → SplitOutcome Unit (Backend × World)
  rollback : Backend × World → SplitOutcome Unit (Backend × World)

structure SplitManager (Backend : Type) where
  backend : Backend
  status : SplitStatus
  deriving DecidableEq, Repr

namespace SplitManager

variable {Backend World : Type} (api : SplitBackend Backend World)

def new (backend : Backend) : SplitManager Backend where
  backend
  status := .disabled

/-- Lay the split, up to the first failure. -/
def lay (plan : SplitPlan) (state : Backend × World) :
    SplitOutcome Unit (Backend × World) :=
  andThen (api.createCgroup plan.uid state) fun _ state =>
  andThen (api.attachSocketMarkBpf state) fun _ state =>
  andThen (api.installRouteRules state) fun _ state =>
  andThen (api.startPermissionWatcher plan state) fun _ state =>
  api.reconcileExisting plan state

def apply (plan : SplitPlan) (manager : SplitManager Backend) (world : World) :
    SplitOutcome Unit (SplitManager Backend × World) :=
  match lay api plan (manager.backend, world) with
  | (.error error, state) =>
      -- The result of the rollback is discarded.
      let (backend, world) := (api.rollback state).2
      (.error error, ⟨backend, .disabled⟩, world)
  | (.ok (), backend, world) => (.ok (), ⟨backend, .active⟩, world)

/-- Point a live split at a new exception list; says whether one was live. -/
def updatePlan (plan : SplitPlan) (manager : SplitManager Backend) (world : World) :
    SplitOutcome Bool (SplitManager Backend × World) :=
  if manager.status ≠ .active then (.ok false, manager, world)
  else
    match api.updatePlan plan (manager.backend, world) with
    | (.error error, backend, world) => (.error error, { manager with backend }, world)
    | (.ok (), backend, world) => (.ok true, { manager with backend }, world)

/-- Lay the routing of a live split again. -/
def refreshRouting (manager : SplitManager Backend) (world : World) :
    SplitOutcome Unit (SplitManager Backend × World) :=
  if manager.status ≠ .active then (.ok (), manager, world)
  else
    match api.refreshRouteRules (manager.backend, world) with
    | (result, backend, world) => (result, { manager with backend }, world)

end SplitManager

/-! ## The split on the system -/

/-- What the daemon has in place outside itself. -/
structure World where
  /-- The kill switch's table. -/
  hold : Bool
  /-- Policy routing and marking of a split. -/
  splitRoutes : Bool
  /-- The table redirecting the DNS of excluded applications. -/
  splitDns : Bool
  /-- The table guarding DNS. -/
  dnsTable : Bool
  /-- Routes into the TUN device. -/
  tunRoutes : Bool
  /-- Xray processes started for a data plane and still alive. -/
  processes : List Nat
  /-- Process identifier of the next Xray. -/
  nextPid : Nat
  deriving DecidableEq, Repr

/-- How an attempt to put something in place goes. -/
structure Laying (ε : Type) where
  failure : Option ε
  /-- Whether a failed attempt leaves something behind. -/
  leaves : Bool

/-- Something is in place after the attempt. -/
def Laying.present {ε : Type} (laying : Laying ε) : Bool :=
  laying.failure.isNone || laying.leaves

/-- How an attempt to take something away goes.  A silent failure leaves it in
place and reports success. -/
inductive Removal where
  | done
  | reported
  | silent
  deriving DecidableEq, Repr

/-- What is left after an attempt to take something away. -/
def Removal.leaves (removal : Removal) (present : Bool) : Bool :=
  match removal with
  | .done => false
  | _ => present

/-- How the external commands of a rollback go. -/
structure RollbackAnswers where
  stopDirectDns : Option SplitError
  removeRouting : Removal

/-- How the external commands that lay a split go. -/
structure SplitAnswers where
  cgroup : Option SplitError
  bpf : Option SplitError
  defaultRoute : Option SplitError
  routing : Laying SplitError
  directDns : Laying SplitError
  /-- The plan's applications with every path made canonical. -/
  selectors : SplitPlan → Except SplitError (List String)
  watcher : Option SplitError
  watcherHealthy : Bool
  reconcile : Option SplitError
  watcherStillHealthy : Bool
  reconcilerSpawned : Bool
  rollback : RollbackAnswers

structure SystemSplitBackend where
  ownerUid : Nat
  cgroup : Bool
  selectors : List String
  /-- The applications the permission watcher was started for. -/
  watcher : Option (List String)
  routingActive : Bool
  directDns : Bool
  /-- The applications the reconciler was started for. -/
  reconciler : Option (List String)
  deriving DecidableEq, Repr

namespace SystemSplitBackend

abbrev Site := SystemSplitBackend × World

def new (ownerUid : Nat) : SystemSplitBackend where
  ownerUid
  cgroup := false
  selectors := []
  watcher := none
  routingActive := false
  directDns := false
  reconciler := none

variable (answers : SplitAnswers)

def createCgroup (uid : Nat) (state : Site) : SplitOutcome Unit Site :=
  if uid ≠ state.1.ownerUid then (.error .cgroupUnavailable, state)
  else
    andThen (failing answers.cgroup state) fun _ (backend, world) =>
    (.ok (), { backend with cgroup := true }, world)

/-- Fail unless the cgroup has been created. -/
def needCgroup (state : Site) : SplitOutcome Unit Site :=
  if state.1.cgroup then (.ok (), state) else (.error .cgroupUnavailable, state)

def attachSocketMarkBpf (state : Site) : SplitOutcome Unit Site :=
  andThen (needCgroup state) fun _ state => failing answers.bpf state

/-- Lay the policy routing, replacing what was there. -/
def installRouting (state : Site) : SplitOutcome Unit Site :=
  failing answers.routing.failure
    (state.1, { state.2 with splitRoutes := answers.routing.present })

/-- The steps laying and refreshing the routing have in common. -/
def layRouting (state : Site) : SplitOutcome Unit Site :=
  andThen (failing answers.defaultRoute state) fun _ state =>
  andThen (needCgroup state) fun _ state =>
  andThen (installRouting answers state) fun _ (backend, world) =>
  (.ok (), { backend with routingActive := true }, world)

/-- Start the DNS proxy of excluded applications and its redirection. -/
def startDirectDns (state : Site) : SplitOutcome Unit Site :=
  failing answers.directDns.failure
    (state.1, { state.2 with splitDns := state.2.splitDns || answers.directDns.present })

def installRouteRules (state : Site) : SplitOutcome Unit Site :=
  andThen (layRouting answers state) fun _ state =>
  andThen (startDirectDns answers state) fun _ (backend, world) =>
  (.ok (), { backend with directDns := true }, world)

/-- Start a permission watcher for the applications. -/
def startWatcher (state : Site) : SplitOutcome Unit Site :=
  andThen (needCgroup state) fun _ state =>
  andThen (failing answers.watcher state) fun _ state =>
  failing (if answers.watcherHealthy then none else some .watcherUnavailable) state

def startPermissionWatcher (plan : SplitPlan) (state : Site) : SplitOutcome Unit Site :=
  match answers.selectors plan with
  | .error error => (.error error, state)
  | .ok selectors =>
      if selectors.isEmpty then
        (.error (.invalidApplication "split application list is empty"), state)
      else
        andThen (startWatcher answers state) fun _ (backend, world) =>
        (.ok (), { backend with selectors, watcher := some selectors }, world)

/-- One pass over the processes that are already running. -/
def reconcileOnce (state : Site) : SplitOutcome Unit Site :=
  andThen (needCgroup state) fun _ state => failing answers.reconcile state

def startReconciler (backend : SystemSplitBackend) : SystemSplitBackend :=
  if backend.reconciler.isSome ∨ !backend.cgroup ∨ !answers.reconcilerSpawned then backend
  else { backend with reconciler := some backend.selectors }

def stopReconciler (backend : SystemSplitBackend) : SystemSplitBackend :=
  { backend with reconciler := none }

def reconcileExisting (_plan : SplitPlan) (state : Site) : SplitOutcome Unit Site :=
  andThen (reconcileOnce answers state) fun _ (backend, world) =>
  failing
    (if backend.watcher.isSome && answers.watcherStillHealthy then none
      else some .watcherUnavailable)
    (startReconciler answers backend, world)

def updatePlan (plan : SplitPlan) (state : Site) : SplitOutcome Unit Site :=
  match answers.selectors plan with
  | .error error => (.error error, state)
  | .ok selectors =>
      let state := ({ state.1.stopReconciler with watcher := none, selectors }, state.2)
      if selectors.isEmpty then reconcileOnce answers state
      else
        andThen (startWatcher answers state) fun _ (backend, world) =>
        andThen (reconcileOnce answers ({ backend with watcher := some selectors }, world))
          fun _ (backend, world) => (.ok (), startReconciler answers backend, world)

def refreshRouteRules (state : Site) : SplitOutcome Unit Site :=
  layRouting answers state

/-- Take the redirection of DNS away. -/
def stopDirectDns (answers : RollbackAnswers) (state : Site) : SplitOutcome Unit Site :=
  if state.1.directDns then
    failing answers.stopDirectDns
      ({ state.1 with directDns := false },
        { state.2 with
          splitDns := state.2.splitDns && answers.stopDirectDns.isSome })
  else (.ok (), state)

/-- Take the policy routing away.  Deleting a table that is not there exits with
an error, so every exit status counts as success. -/
def removeRouting (answers : RollbackAnswers) (state : Site) : SplitOutcome Unit Site :=
  if state.1.routingActive then
    failing (if answers.removeRouting = .reported then some .rollbackFailed else none)
      ({ state.1 with routingActive := false },
        { state.2 with
          splitRoutes := answers.removeRouting.leaves state.2.splitRoutes })
  else (.ok (), state)

/-- Take everything down and report the first failure. -/
def rollback (answers : RollbackAnswers) (state : Site) : SplitOutcome Unit Site :=
  let state := ({ state.1.stopReconciler with watcher := none }, state.2)
  let (dns, state) := stopDirectDns answers state
  let (routing, state) := removeRouting answers state
  ((match dns with | .error error => .error error | .ok () => routing),
    { state.1 with selectors := [] }, state.2)

def api : SplitBackend SystemSplitBackend World where
  createCgroup := createCgroup answers
  attachSocketMarkBpf := attachSocketMarkBpf answers
  installRouteRules := installRouteRules answers
  startPermissionWatcher := startPermissionWatcher answers
  reconcileExisting := reconcileExisting answers
  updatePlan := updatePlan answers
  refreshRouteRules := refreshRouteRules answers
  rollback := rollback answers.rollback

end SystemSplitBackend

end Varmlen.Daemon
