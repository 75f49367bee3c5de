import Varmlen.Foundation.Effect
import Varmlen.Daemon.Protocol

/-!
# The connection lifecycle

`LifecycleManager` drives one tunnel through its phases over a backend that does
the actual work (`daemon/src/lifecycle.rs`).  The manager is generic in the
backend, and so is this model: a backend is a state type with one function per
trait method.  `connect` is cut at its early returns into named stages; each
stage either hands the manager on or ends the call.
-/

namespace Varmlen.Daemon

open Foundation.Effect

/-- The operations a lifecycle backend provides. -/
structure LifecycleBackend (Backend : Type) where
  dataPlaneAlive : Backend → Bool × Backend
  validate : ConnectRequest → Backend → Outcome Unit Backend
  installHoldBlock : ConnectRequest → Backend → Outcome Unit Backend
  verifyHoldBlock : Backend → Outcome Unit Backend
  stopDataPlane : (preserveSplit : Bool) → Backend → Outcome Unit Backend
  startDataPlane : ConnectRequest → Backend → Outcome Unit Backend
  activateNetwork : ConnectRequest → Backend → Outcome Unit Backend
  updateSplit : List String → Backend → Outcome Bool Backend
  verifyConnection : ConnectRequest → Backend → Outcome Unit Backend
  removeHoldBlock : Backend → Outcome Unit Backend

structure LifecycleManager (Backend : Type) where
  backend : Backend
  state : DaemonState
  blockOnFailure : Bool

/-- What the daemon asks its manager to do. -/
inductive Command where
  | connect (request : ConnectRequest)
  | disconnect
  | updateSplit (applications : List String)
  | reconcileHealth
  | markRecoveryRequired

namespace LifecycleManager

variable {Backend : Type}

def new (backend : Backend) (phase : ConnectionPhase) : LifecycleManager Backend where
  backend
  state := .inPhase phase
  blockOnFailure := false

/-- Assign `self.state.phase`. -/
def setPhase (manager : LifecycleManager Backend) (phase : ConnectionPhase) :
    LifecycleManager Backend :=
  { manager with state := { manager.state with phase } }

def markRecoveryRequired (manager : LifecycleManager Backend) :
    LifecycleManager Backend :=
  { manager with
    state := { manager.state with
      phase := .recoveryRequired
      splitActive := false
      dnsProtected := false } }

/-- Run a backend method on the manager's backend. -/
def call {α : Type} (manager : LifecycleManager Backend)
    (method : Backend → Outcome α Backend) : Outcome α (LifecycleManager Backend) :=
  let (result, backend) := method manager.backend
  (result, { manager with backend })

variable (api : LifecycleBackend Backend)

/-! ## connect -/

/-- The phase written when an early step of `connect` fails. -/
def restoredPhase (wasConnected : Bool) : ConnectionPhase :=
  if wasConnected then .connected else .disconnected

/-- Entry of `connect`: the transitional phase, and both flags cleared. -/
def beginConnect (manager : LifecycleManager Backend) (wasConnected : Bool) :
    LifecycleManager Backend :=
  { manager with
    state := { manager.state with
      phase := if wasConnected then .reconnecting else .preparing
      splitActive := false
      dnsProtected := false } }

/-- Install and verify the hold block of a TUN request; nothing in proxy mode. -/
def raiseHold (request : ConnectRequest) (wasConnected : Bool)
    (manager : LifecycleManager Backend) : Outcome Unit (LifecycleManager Backend) :=
  if request.mode = .tun then
    match manager.call (api.installHoldBlock request) with
    | (.error error, manager) =>
        (.error error, manager.setPhase (restoredPhase wasConnected))
    | (.ok (), manager) =>
        match manager.call api.verifyHoldBlock with
        | (.error error, manager) =>
            match manager.call api.removeHoldBlock with
            | (.ok (), manager) =>
                (.error error, manager.setPhase (restoredPhase wasConnected))
            | (.error _, manager) =>
                (.error error, manager.setPhase .recoveryRequired)
        | (.ok (), manager) => (.ok (), manager.setPhase .blocking)
  else (.ok (), manager)

/-- Stop the previous data plane on a reconnect, keeping its split. -/
def stopPrevious (request : ConnectRequest) (wasConnected : Bool)
    (manager : LifecycleManager Backend) : Outcome Unit (LifecycleManager Backend) :=
  if wasConnected then
    match manager.call (api.stopDataPlane true) with
    | (.error error, manager) =>
        (.error error,
          manager.setPhase (if request.mode = .tun then .blocking else .recoveryRequired))
    | (.ok (), manager) => (.ok (), manager)
  else (.ok (), manager)

/-- Start, activate and verify the new data plane, up to the first failure. -/
def bringUp (request : ConnectRequest) (manager : LifecycleManager Backend) :
    Outcome Unit (LifecycleManager Backend) :=
  match manager.call (api.startDataPlane request) with
  | (.error error, manager) => (.error error, manager)
  | (.ok (), manager) =>
      match manager.call (api.activateNetwork request) with
      | (.error error, manager) => (.error error, manager)
      | (.ok (), manager) => manager.call (api.verifyConnection request)

/-- Clean up after `bringUp` failed. -/
def abandon (request : ConnectRequest) (wasConnected : Bool)
    (manager : LifecycleManager Backend) : LifecycleManager Backend :=
  match manager.call (api.stopDataPlane false) with
  | (.error _, manager) => manager.setPhase .recoveryRequired
  | (.ok (), manager) =>
      if request.mode = .tun ∧ (wasConnected ∨ request.killswitch) then
        manager.setPhase .blocking
      else if request.mode = .tun then
        -- The result of the removal is discarded.
        (manager.call api.removeHoldBlock).2.setPhase .disconnected
      else manager.setPhase .disconnected

/-- Lift the hold block unless the kill switch keeps it, and report success. -/
def commit (request : ConnectRequest) (manager : LifecycleManager Backend) :
    Outcome DaemonState (LifecycleManager Backend) :=
  let finish (manager : LifecycleManager Backend) :
      Outcome DaemonState (LifecycleManager Backend) :=
    let state : DaemonState := { DaemonState.inPhase .connected with
      splitActive := !request.excludedApps.isEmpty
      dnsProtected := request.mode = .tun }
    (.ok state, { manager with
      state, blockOnFailure := decide (request.mode = .tun) && request.killswitch })
  if request.mode = .tun ∧ !request.killswitch then
    match manager.call api.removeHoldBlock with
    | (.error error, manager) => (.error error, manager.setPhase .recoveryRequired)
    | (.ok (), manager) => finish manager
  else finish manager

/-- Bring the new data plane up and settle the outcome. -/
def establish (request : ConnectRequest) (wasConnected : Bool)
    (manager : LifecycleManager Backend) :
    Outcome DaemonState (LifecycleManager Backend) :=
  match bringUp api request manager with
  | (.error error, manager) => (.error error, abandon api request wasConnected manager)
  | (.ok (), manager) => commit api request manager

/-- Exchange the previous data plane, if there is one, for a new one. -/
def replace (request : ConnectRequest) (wasConnected : Bool)
    (manager : LifecycleManager Backend) :
    Outcome DaemonState (LifecycleManager Backend) :=
  match stopPrevious api request wasConnected manager with
  | (.error error, manager) => (.error error, manager)
  | (.ok (), manager) => establish api request wasConnected manager

def connect (request : ConnectRequest) (manager : LifecycleManager Backend) :
    Outcome DaemonState (LifecycleManager Backend) :=
  let wasConnected := decide (manager.state.phase = .connected)
  match (manager.beginConnect wasConnected).call (api.validate request) with
  | (.error error, manager) =>
      (.error error, manager.setPhase (restoredPhase wasConnected))
  | (.ok (), manager) =>
      match raiseHold api request wasConnected manager with
      | (.error error, manager) => (.error error, manager)
      | (.ok (), manager) => replace api request wasConnected manager

/-! ## The other operations -/

/-- Apply an edited exception list without dropping the tunnel. -/
def updateSplit (applications : List String) (manager : LifecycleManager Backend) :
    Outcome DaemonState (LifecycleManager Backend) :=
  if manager.state.phase ≠ .connected then
    (.error ⟨.invalidRequest, "the tunnel is not connected"⟩, manager)
  else
    match manager.call (api.updateSplit applications) with
    | (.error error, manager) => (.error error, manager)
    | (.ok splitActive, manager) =>
        let state := { manager.state with splitActive }
        (.ok state, { manager with state })

def disconnect (manager : LifecycleManager Backend) :
    Outcome DaemonState (LifecycleManager Backend) :=
  let (dataPlane, manager) := manager.call (api.stopDataPlane false)
  let (holdBlock, manager) := manager.call api.removeHoldBlock
  match dataPlane, holdBlock with
  | .ok (), .ok () =>
      let state := DaemonState.inPhase .disconnected
      (.ok state, { manager with state, blockOnFailure := false })
  | _, _ =>
      (.error ⟨.tunnelCleanupFailed, "VPN cleanup did not reach a verified empty state"⟩,
        manager.setPhase .recoveryRequired)

/-- Notice that the data plane died on its own and clean up behind it. -/
def reconcileHealth (manager : LifecycleManager Backend) :
    Outcome DaemonState (LifecycleManager Backend) :=
  if manager.state.phase ≠ .connected then (.ok manager.state, manager)
  else
    let (alive, backend) := api.dataPlaneAlive manager.backend
    let manager := { manager with backend }
    if alive then (.ok manager.state, manager)
    else
      match manager.call (api.stopDataPlane false) with
      | (.error _, manager) =>
          (.error ⟨.tunnelCleanupFailed,
            "Xray exited and stale network state could not be removed"⟩,
            manager.markRecoveryRequired)
      | (.ok (), manager) =>
          let state := DaemonState.inPhase
            (if manager.blockOnFailure then .blocking else .disconnected)
          (.ok state, { manager with state })

/-- The manager after a command. -/
def execute (command : Command) (manager : LifecycleManager Backend) :
    LifecycleManager Backend :=
  match command with
  | .connect request => (connect api request manager).2
  | .disconnect => (disconnect api manager).2
  | .updateSplit applications => (updateSplit api applications manager).2
  | .reconcileHealth => (reconcileHealth api manager).2
  | .markRecoveryRequired => manager.markRecoveryRequired

/-! ## A rule for connect

What a connect does to its backend, for any backend: `before` holds while the old
data plane is in charge, `ready` when a new one may be started, `started` once it
is, `up` while it is brought up, and `after` at the end. -/

/-- The conditions under which the assertions carry through a connect. -/
structure ConnectRule (request : ConnectRequest) (wasConnected : Bool)
    (before ready started up after : Backend → Prop) : Prop where
  validate : ∀ backend, before backend → before (api.validate request backend).2
  install : ∀ backend, before backend → before (api.installHoldBlock request backend).2
  verifyHold : ∀ backend, before backend → before (api.verifyHoldBlock backend).2
  removeEarly : ∀ backend, before backend → before (api.removeHoldBlock backend).2
  stopOld : wasConnected = true → ∀ backend, before backend →
    ready (api.stopDataPlane true backend).2
  free : wasConnected = false → ∀ backend, before backend → ready backend
  start : ∀ backend, ready backend →
    Ends (fun _ => started) (fun _ => up) (api.startDataPlane request backend)
  activate : ∀ backend, started backend → up (api.activateNetwork request backend).2
  verify : ∀ backend, up backend → up (api.verifyConnection request backend).2
  remove : ∀ backend, up backend → up (api.removeHoldBlock backend).2
  stopNew : ∀ backend, up backend → after (api.stopDataPlane false backend).2
  removeLate : ∀ backend, after backend → after (api.removeHoldBlock backend).2
  afterBefore : ∀ backend, before backend → after backend
  afterReady : ∀ backend, ready backend → after backend
  afterUp : ∀ backend, up backend → after backend

section Rule

variable {api} {request : ConnectRequest} {wasConnected : Bool}
variable {before ready started up after : Backend → Prop}
variable {manager : LifecycleManager Backend}

@[simp] theorem call_backend {α : Type} (method : Backend → Outcome α Backend) :
    (manager.call method).2.backend = (method manager.backend).2 := rfl

@[simp] theorem setPhase_backend (phase : ConnectionPhase) :
    (manager.setPhase phase).backend = manager.backend := rfl

theorem ends_call {α : Type} {method : Backend → Outcome α Backend}
    {ok : α → Backend → Prop} {failed : DaemonError → Backend → Prop}
    (ends : Ends ok failed (method manager.backend)) :
    Ends (fun value next => ok value next.backend)
      (fun error next => failed error next.backend) (manager.call method) := by
  rw [call]
  generalize method manager.backend = outcome at ends
  rcases outcome with ⟨result, backend⟩
  cases result <;> exact ends

private theorem raiseHold_rule
    (rule : ConnectRule api request wasConnected before ready started up after)
    (initial : before manager.backend) :
    before (raiseHold api request wasConnected manager).2.backend := by
  rw [raiseHold]
  split
  next =>
    have installed := rule.install _ initial
    rw [← call_backend] at installed
    generalize manager.call (api.installHoldBlock request) = outcome at installed
    split
    next => exact installed
    next =>
      have verified := rule.verifyHold _ installed
      rw [← call_backend] at verified
      split
      next same =>
        rw [same] at verified
        have removed := rule.removeEarly _ verified
        rw [← call_backend] at removed
        split <;> simp_all
      next same =>
        rw [same] at verified
        exact verified
  next => exact initial

private theorem bringUp_rule
    (rule : ConnectRule api request wasConnected before ready started up after)
    (initial : ready manager.backend) :
    up (bringUp api request manager).2.backend := by
  rw [bringUp]
  have launched := ends_call (rule.start _ initial)
  generalize manager.call (api.startDataPlane request) = outcome at launched
  rcases outcome with ⟨result, next⟩
  cases result with
  | error error => exact launched
  | ok value =>
      have activated := rule.activate _ launched
      rw [← call_backend] at activated
      dsimp only
      generalize next.call (api.activateNetwork request) = outcome at activated
      rcases outcome with ⟨result, next⟩
      cases result with
      | error error => exact activated
      | ok value => exact rule.verify _ activated

private theorem abandon_rule
    (rule : ConnectRule api request wasConnected before ready started up after)
    (initial : up manager.backend) :
    after (abandon api request wasConnected manager).backend := by
  rw [abandon]
  have stopped := rule.stopNew _ initial
  rw [← call_backend] at stopped
  split
  next same => rw [same] at stopped; exact stopped
  next same =>
    rw [same] at stopped
    split
    next => exact stopped
    next =>
      split
      next => exact rule.removeLate _ stopped
      next => exact stopped

private theorem commit_rule
    (rule : ConnectRule api request wasConnected before ready started up after)
    (initial : up manager.backend) :
    after (commit api request manager).2.backend := by
  rw [commit]
  dsimp only
  split
  next =>
    have removed := rule.afterUp _ (rule.remove _ initial)
    rw [← call_backend] at removed
    split
    next same => rw [same] at removed; exact removed
    next same => rw [same] at removed; exact removed
  next => exact rule.afterUp _ initial

private theorem establish_rule
    (rule : ConnectRule api request wasConnected before ready started up after)
    (initial : ready manager.backend) :
    after (establish api request wasConnected manager).2.backend := by
  rw [establish]
  have brought := bringUp_rule rule initial
  split
  next same => rw [same] at brought; exact abandon_rule rule brought
  next same => rw [same] at brought; exact commit_rule rule brought

private theorem replace_rule
    (rule : ConnectRule api request wasConnected before ready started up after)
    (initial : before manager.backend) :
    after (replace api request wasConnected manager).2.backend := by
  rw [replace, stopPrevious]
  cases wasConnected with
  | false => exact establish_rule rule (rule.free rfl _ initial)
  | true =>
      have stopped := rule.stopOld rfl _ initial
      rw [← call_backend] at stopped
      simp only [if_true]
      cases same : manager.call (api.stopDataPlane true) with
      | mk result next =>
          rw [same] at stopped
          cases result with
          | error error => exact rule.afterReady _ stopped
          | ok value => exact establish_rule rule stopped

/-- Under the rule's conditions a connect leads from `before` to `after`. -/
theorem connect_rule
    (rule : ConnectRule api request (decide (manager.state.phase = .connected))
      before ready started up after)
    (initial : before manager.backend) :
    after (connect api request manager).2.backend := by
  unfold connect
  dsimp only
  have validated : before ((manager.beginConnect
      (decide (manager.state.phase = .connected))).call (api.validate request)).2.backend :=
    rule.validate _ initial
  split
  next same =>
    rw [same] at validated
    exact rule.afterBefore _ validated
  next same =>
    rw [same] at validated
    have raised := raiseHold_rule rule validated
    split
    next same => rw [same] at raised; exact rule.afterBefore _ raised
    next same => rw [same] at raised; exact replace_rule rule raised

/-! ## The backend under the other commands -/

theorem disconnect_backend :
    (disconnect api manager).2.backend =
      (api.removeHoldBlock (api.stopDataPlane false manager.backend).2).2 := by
  rw [disconnect, call]
  dsimp only
  split <;> rfl

/-- A disconnect that returns `Ok` has stopped the data plane. -/
theorem stopDataPlane_of_disconnect {state : DaemonState}
    (ok : (disconnect api manager).1 = .ok state) :
    (api.stopDataPlane false manager.backend).1 = .ok () := by
  rw [disconnect, call] at ok
  dsimp only at ok
  split at ok
  next stopped _ => exact stopped
  next => simp at ok

theorem updateSplit_backend {applications : List String} :
    (updateSplit api applications manager).2.backend =
      if manager.state.phase ≠ .connected then manager.backend
      else (api.updateSplit applications manager.backend).2 := by
  rw [updateSplit, call]
  split
  next => rfl
  next =>
    generalize api.updateSplit applications manager.backend = outcome
    rcases outcome with ⟨result, backend⟩
    cases result <;> rfl

theorem reconcileHealth_backend :
    (reconcileHealth api manager).2.backend =
      if manager.state.phase ≠ .connected then manager.backend
      else if (api.dataPlaneAlive manager.backend).1 then
        (api.dataPlaneAlive manager.backend).2
      else (api.stopDataPlane false (api.dataPlaneAlive manager.backend).2).2 := by
  rw [reconcileHealth]
  split
  next => rfl
  next =>
    dsimp only
    split
    next => rfl
    next =>
      rw [← @call_backend _ { manager with
        backend := (api.dataPlaneAlive manager.backend).2 } _ (api.stopDataPlane false)]
      generalize LifecycleManager.call _ (api.stopDataPlane false) = outcome
      rcases outcome with ⟨result, next⟩
      cases result <;> rfl

end Rule

end LifecycleManager

end Varmlen.Daemon
