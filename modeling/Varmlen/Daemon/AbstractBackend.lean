import Varmlen.Foundation.Run
import Varmlen.Daemon.Lifecycle

/-!
# The lifecycle over an abstract backend

What the manager promises does not depend on how the backend does its work, only
on which calls succeed.  The abstract backend keeps two facts about the system,
whether the hold block is installed and whether a data plane is running, records
the calls made to it, and answers each call as the environment dictates: a
failing call changes nothing.

A command makes each backend call at most once (`connect_calls_in_order`), so one
answer per call and command describes every choice the environment has.
-/

namespace Varmlen.Daemon

open Foundation

/-- One backend call, under the names the daemon's own tests use. -/
inductive Action where
  | validate
  | installHold
  | verifyHold
  | stopPreservingSplit
  | stopFully
  | start
  | activate
  | updateSplit
  | verifyConnection
  | removeHold
  deriving DecidableEq, Repr

/-- A call together with whether it returned `Ok`. -/
structure Call where
  action : Action
  ok : Bool
  deriving DecidableEq, Repr

/-- How the environment answers the calls of one command. -/
structure Answers where
  /-- The error a call fails with, `none` when it succeeds. -/
  failure : Action → Option DaemonError
  alive : Bool
  splitLive : Bool

structure AbstractBackend where
  hold : Bool
  running : Bool
  calls : List Call
  answers : Answers

namespace AbstractBackend

/-- The hold block after a successful call. -/
def holdAfter : Action → Bool → Bool
  | .installHold, _ => true
  | .removeHold, _ => false
  | _, hold => hold

/-- The data plane after a successful call. -/
def runningAfter : Action → Bool → Bool
  | .start, _ => true
  | .stopPreservingSplit, _ => false
  | .stopFully, _ => false
  | _, running => running

/-- Answer one call as the environment dictates. -/
def perform {α : Type} (action : Action) (value : α) (backend : AbstractBackend) :
    Outcome α AbstractBackend :=
  match backend.answers.failure action with
  | some error =>
      (.error error, { backend with calls := backend.calls ++ [⟨action, false⟩] })
  | none =>
      (.ok value, { backend with
        hold := holdAfter action backend.hold
        running := runningAfter action backend.running
        calls := backend.calls ++ [⟨action, true⟩] })

def api : LifecycleBackend AbstractBackend where
  dataPlaneAlive backend := (backend.answers.alive, backend)
  validate _ := perform .validate ()
  installHoldBlock _ := perform .installHold ()
  verifyHoldBlock := perform .verifyHold ()
  stopDataPlane preserveSplit :=
    perform (if preserveSplit then .stopPreservingSplit else .stopFully) ()
  startDataPlane _ := perform .start ()
  activateNetwork _ := perform .activate ()
  updateSplit _ backend := perform .updateSplit backend.answers.splitLive backend
  verifyConnection _ := perform .verifyConnection ()
  removeHoldBlock := perform .removeHold ()

end AbstractBackend

abbrev AbstractManager := LifecycleManager AbstractBackend

/-- One step of a run: a command and the environment's answers to its calls. -/
structure Input where
  command : Command
  answers : Answers

namespace AbstractManager

open LifecycleManager

/-- Put the environment's answers for the next command in place. -/
def face (manager : AbstractManager) (answers : Answers) : AbstractManager :=
  { manager with backend := { manager.backend with answers } }

/-- One step of a run. -/
def step (manager : AbstractManager) (input : Input) : AbstractManager :=
  execute AbstractBackend.api input.command (manager.face input.answers)

/-- A manager just created over a clean system. -/
def fresh : AbstractManager :=
  .new ⟨false, false, [], ⟨fun _ => none, true, true⟩⟩ .disconnected

/-! ## Every way a connect can end -/

section Connect

variable (manager : AbstractManager) (request : ConnectRequest)

/-- The phase recorded before the call was `Connected`. -/
def wasConnected : Bool := decide (manager.state.phase = .connected)

/-- The manager part way through a connect, or after a failed one: the phase and
the system facts it has reached, and the calls made so far. -/
def reached (phase : ConnectionPhase) (hold running : Bool) (calls : List Call) :
    AbstractManager :=
  { manager with
    backend := { manager.backend with
      hold, running, calls := manager.backend.calls ++ calls }
    state := { manager.state with
      phase, splitActive := false, dnsProtected := false } }

/-- Calls up to and including the verified hold block. -/
def guardCalls : List Call :=
  ⟨.validate, true⟩ ::
    if request.mode = .tun then [⟨.installHold, true⟩, ⟨.verifyHold, true⟩] else []

/-- Calls up to the point where the new data plane is started. -/
def preludeCalls : List Call :=
  guardCalls request ++
    if manager.wasConnected then [⟨.stopPreservingSplit, true⟩] else []

/-- Calls made to bring the new data plane up, up to the first failure. -/
def bringUpCalls (answers : Answers) : List Call :=
  match answers.failure .start with
  | some _ => [⟨.start, false⟩]
  | none =>
      ⟨.start, true⟩ ::
        match answers.failure .activate with
        | some _ => [⟨.activate, false⟩]
        | none =>
            [⟨.activate, true⟩,
              ⟨.verifyConnection, (answers.failure .verifyConnection).isNone⟩]

/-- The error that ends bringing the new data plane up, if any. -/
def bringUpFailure (answers : Answers) : Option DaemonError :=
  (answers.failure .start).or
    ((answers.failure .activate).or (answers.failure .verifyConnection))

/-- The answers let the call get as far as a verified hold block. -/
structure Guarded (answers : Answers) : Prop where
  validated : answers.failure .validate = none
  installed : request.mode = .tun → answers.failure .installHold = none
  verified : request.mode = .tun → answers.failure .verifyHold = none

/-- The answers let the call get as far as starting the new data plane. -/
structure Prepared (answers : Answers) : Prop extends Guarded request answers where
  stopped : manager.wasConnected = true → answers.failure .stopPreservingSplit = none

/-- A request is held back after a failure instead of being released. -/
def HeldBack : Prop :=
  request.mode = .tun ∧ (manager.wasConnected = true ∨ request.killswitch = true)

/-- The state and manager of a successful connect. -/
def established (hold : Bool) (calls : List Call) :
    Outcome DaemonState AbstractManager :=
  let state : DaemonState := { DaemonState.inPhase .connected with
    splitActive := !request.excludedApps.isEmpty
    dnsProtected := request.mode = .tun }
  (.ok state, {
    backend := { manager.backend with
      hold, running := true, calls := manager.backend.calls ++ calls }
    state
    blockOnFailure := decide (request.mode = .tun) && request.killswitch })

/-- Every way `connect` can end, by the call that decided it. -/
inductive ConnectExit : Outcome DaemonState AbstractManager → Prop
  | validateFailed {error : DaemonError}
      (failed : manager.backend.answers.failure .validate = some error) :
      ConnectExit (.error error,
        manager.reached (restoredPhase manager.wasConnected) manager.backend.hold
          manager.backend.running [⟨.validate, false⟩])
  | installFailed {error : DaemonError}
      (validated : manager.backend.answers.failure .validate = none)
      (tun : request.mode = .tun)
      (failed : manager.backend.answers.failure .installHold = some error) :
      ConnectExit (.error error,
        manager.reached (restoredPhase manager.wasConnected) manager.backend.hold
          manager.backend.running [⟨.validate, true⟩, ⟨.installHold, false⟩])
  | holdUnverified {error : DaemonError}
      (validated : manager.backend.answers.failure .validate = none)
      (tun : request.mode = .tun)
      (installed : manager.backend.answers.failure .installHold = none)
      (failed : manager.backend.answers.failure .verifyHold = some error)
      (removed : manager.backend.answers.failure .removeHold = none) :
      ConnectExit (.error error,
        manager.reached (restoredPhase manager.wasConnected) false
          manager.backend.running
          [⟨.validate, true⟩, ⟨.installHold, true⟩, ⟨.verifyHold, false⟩,
            ⟨.removeHold, true⟩])
  | holdStuck {error removal : DaemonError}
      (validated : manager.backend.answers.failure .validate = none)
      (tun : request.mode = .tun)
      (installed : manager.backend.answers.failure .installHold = none)
      (failed : manager.backend.answers.failure .verifyHold = some error)
      (stuck : manager.backend.answers.failure .removeHold = some removal) :
      ConnectExit (.error error,
        manager.reached .recoveryRequired true manager.backend.running
          [⟨.validate, true⟩, ⟨.installHold, true⟩, ⟨.verifyHold, false⟩,
            ⟨.removeHold, false⟩])
  | stopFailed {error : DaemonError}
      (guarded : Guarded request manager.backend.answers)
      (connected : manager.wasConnected = true)
      (failed : manager.backend.answers.failure .stopPreservingSplit = some error) :
      ConnectExit (.error error,
        manager.reached (if request.mode = .tun then .blocking else .recoveryRequired)
          (manager.backend.hold || decide (request.mode = .tun))
          manager.backend.running
          (guardCalls request ++ [⟨.stopPreservingSplit, false⟩]))
  | cleanupFailed {error cleanup : DaemonError}
      (prepared : Prepared manager request manager.backend.answers)
      (failed : bringUpFailure manager.backend.answers = some error)
      (dirty : manager.backend.answers.failure .stopFully = some cleanup) :
      ConnectExit (.error error,
        manager.reached .recoveryRequired
          (manager.backend.hold || decide (request.mode = .tun))
          ((manager.backend.running && !manager.wasConnected) ||
            (manager.backend.answers.failure .start).isNone)
          (preludeCalls manager request ++ bringUpCalls manager.backend.answers ++
            [⟨.stopFully, false⟩]))
  | heldBack {error : DaemonError}
      (prepared : Prepared manager request manager.backend.answers)
      (failed : bringUpFailure manager.backend.answers = some error)
      (stopped : manager.backend.answers.failure .stopFully = none)
      (held : HeldBack manager request) :
      ConnectExit (.error error,
        manager.reached .blocking true false
          (preludeCalls manager request ++ bringUpCalls manager.backend.answers ++
            [⟨.stopFully, true⟩]))
  | released {error : DaemonError}
      (prepared : Prepared manager request manager.backend.answers)
      (failed : bringUpFailure manager.backend.answers = some error)
      (stopped : manager.backend.answers.failure .stopFully = none)
      (tun : request.mode = .tun) (notHeld : ¬HeldBack manager request) :
      ConnectExit (.error error,
        manager.reached .disconnected
          (manager.backend.answers.failure .removeHold).isSome false
          (preludeCalls manager request ++ bringUpCalls manager.backend.answers ++
            [⟨.stopFully, true⟩,
              ⟨.removeHold, (manager.backend.answers.failure .removeHold).isNone⟩]))
  | unguarded {error : DaemonError}
      (prepared : Prepared manager request manager.backend.answers)
      (failed : bringUpFailure manager.backend.answers = some error)
      (stopped : manager.backend.answers.failure .stopFully = none)
      (proxy : request.mode ≠ .tun) :
      ConnectExit (.error error,
        manager.reached .disconnected manager.backend.hold false
          (preludeCalls manager request ++ bringUpCalls manager.backend.answers ++
            [⟨.stopFully, true⟩]))
  | releaseFailed {error : DaemonError}
      (prepared : Prepared manager request manager.backend.answers)
      (up : bringUpFailure manager.backend.answers = none)
      (tun : request.mode = .tun) (noKillswitch : request.killswitch = false)
      (stuck : manager.backend.answers.failure .removeHold = some error) :
      ConnectExit (.error error,
        manager.reached .recoveryRequired true true
          (preludeCalls manager request ++ bringUpCalls manager.backend.answers ++
            [⟨.removeHold, false⟩]))
  | connectedReleased
      (prepared : Prepared manager request manager.backend.answers)
      (up : bringUpFailure manager.backend.answers = none)
      (tun : request.mode = .tun) (noKillswitch : request.killswitch = false)
      (removed : manager.backend.answers.failure .removeHold = none) :
      ConnectExit (established manager request false
        (preludeCalls manager request ++ bringUpCalls manager.backend.answers ++
          [⟨.removeHold, true⟩]))
  | connectedHolding
      (prepared : Prepared manager request manager.backend.answers)
      (up : bringUpFailure manager.backend.answers = none)
      (keeps : request.mode ≠ .tun ∨ request.killswitch = true) :
      ConnectExit (established manager request
        (manager.backend.hold || decide (request.mode = .tun))
        (preludeCalls manager request ++ bringUpCalls manager.backend.answers))

variable {manager request} {phase : ConnectionPhase} {hold running : Bool}
variable {calls : List Call}

@[simp] theorem setPhase_reached (next : ConnectionPhase) :
    (manager.reached phase hold running calls).setPhase next =
      manager.reached next hold running calls := rfl

/-- How far a connect gets depends on its answers and the recorded phase only. -/
theorem prepared_face {faced answers : Answers} :
    Prepared (manager.face faced) request answers ↔ Prepared manager request answers :=
  ⟨fun prepared => ⟨prepared.toGuarded, prepared.stopped⟩,
    fun prepared => ⟨prepared.toGuarded, prepared.stopped⟩⟩

theorem beginConnect_eq (connected : Bool) :
    manager.beginConnect connected =
      manager.reached (if connected then .reconnecting else .preparing)
        manager.backend.hold manager.backend.running [] := by
  simp [beginConnect, reached]

theorem call_succeeds {action : Action}
    (succeeds : manager.backend.answers.failure action = none) :
    (manager.reached phase hold running calls).call
        (AbstractBackend.perform action ()) =
      (.ok (), manager.reached phase (AbstractBackend.holdAfter action hold)
        (AbstractBackend.runningAfter action running) (calls ++ [⟨action, true⟩])) := by
  simp [call, AbstractBackend.perform, reached, succeeds]

theorem call_fails {action : Action} {error : DaemonError}
    (fails : manager.backend.answers.failure action = some error) :
    (manager.reached phase hold running calls).call
        (AbstractBackend.perform action ()) =
      (.error error,
        manager.reached phase hold running (calls ++ [⟨action, false⟩])) := by
  simp [call, AbstractBackend.perform, reached, fails]

/-- With a verified hold block, or none needed, `connect` goes on. -/
theorem raiseHold_guarded (guarded : Guarded request manager.backend.answers) :
    ∃ next, raiseHold AbstractBackend.api request manager.wasConnected
        (manager.reached phase hold running [⟨.validate, true⟩]) =
      (.ok (), manager.reached next (hold || decide (request.mode = .tun)) running
        (guardCalls request)) := by
  by_cases tun : request.mode = .tun
  · refine ⟨.blocking, ?_⟩
    simp only [raiseHold, AbstractBackend.api, if_pos tun,
      call_succeeds (guarded.installed tun), call_succeeds (guarded.verified tun)]
    simp [AbstractBackend.holdAfter, AbstractBackend.runningAfter, guardCalls, tun]
  · exact ⟨phase, by simp [raiseHold, guardCalls, tun]⟩

theorem stopPrevious_prepared (prepared : Prepared manager request manager.backend.answers) :
    stopPrevious AbstractBackend.api request manager.wasConnected
        (manager.reached phase hold running calls) =
      (.ok (), manager.reached phase hold (running && !manager.wasConnected)
        (calls ++ if manager.wasConnected then [⟨.stopPreservingSplit, true⟩] else [])) := by
  cases connected : manager.wasConnected with
  | false => simp [stopPrevious]
  | true =>
      simp only [stopPrevious, AbstractBackend.api, if_true,
        call_succeeds (prepared.stopped connected)]
      simp [AbstractBackend.holdAfter, AbstractBackend.runningAfter]

/-- Bringing the data plane up makes `bringUpCalls` and fails with
`bringUpFailure`; the plane runs afterwards if its start succeeded. -/
theorem bringUp_reached :
    bringUp AbstractBackend.api request (manager.reached phase hold running calls) =
      ((bringUpFailure manager.backend.answers).elim (.ok ()) .error,
        manager.reached phase hold
          (running || (manager.backend.answers.failure .start).isNone)
          (calls ++ bringUpCalls manager.backend.answers)) := by
  cases started : manager.backend.answers.failure .start with
  | some error =>
      simp only [bringUp, AbstractBackend.api, call_fails started]
      simp [bringUpFailure, bringUpCalls, started]
  | none =>
      cases activated : manager.backend.answers.failure .activate with
      | some error =>
          simp only [bringUp, AbstractBackend.api, call_succeeds started,
            call_fails activated]
          simp [bringUpFailure, bringUpCalls, started, activated,
            AbstractBackend.holdAfter, AbstractBackend.runningAfter]
      | none =>
          cases verified : manager.backend.answers.failure .verifyConnection with
          | some error =>
              simp only [bringUp, AbstractBackend.api, call_succeeds started,
                call_succeeds activated, call_fails verified]
              simp [bringUpFailure, bringUpCalls, started, activated, verified,
                AbstractBackend.holdAfter, AbstractBackend.runningAfter]
          | none =>
              simp only [bringUp, AbstractBackend.api, call_succeeds started,
                call_succeeds activated, call_succeeds verified]
              simp [bringUpFailure, bringUpCalls, started, activated, verified,
                AbstractBackend.holdAfter, AbstractBackend.runningAfter]

theorem start_of_bringUpFailure_none {answers : Answers}
    (up : bringUpFailure answers = none) : answers.failure .start = none :=
  (Option.or_eq_none_iff.mp up).1

private theorem establish_exit
    (prepared : Prepared manager request manager.backend.answers) :
    ConnectExit manager request
      (establish AbstractBackend.api request manager.wasConnected
        (manager.reached phase (manager.backend.hold || decide (request.mode = .tun))
          (manager.backend.running && !manager.wasConnected)
          (preludeCalls manager request))) := by
  rw [establish, bringUp_reached]
  cases failed : bringUpFailure manager.backend.answers with
  | some error =>
      simp only [Option.elim_some, abandon, AbstractBackend.api, Bool.false_eq_true,
        if_false]
      cases stopped : manager.backend.answers.failure .stopFully with
      | some cleanup =>
          simp only [call_fails stopped, setPhase_reached]
          exact .cleanupFailed prepared failed stopped
      | none =>
          simp only [call_succeeds stopped]
          split
          next held =>
            simpa [held.1, AbstractBackend.holdAfter, AbstractBackend.runningAfter] using
              ConnectExit.heldBack prepared failed stopped held
          next notHeld =>
            split
            next tun =>
              cases removed : manager.backend.answers.failure .removeHold <;>
                simpa [call_fails, call_succeeds, removed, tun,
                  AbstractBackend.holdAfter, AbstractBackend.runningAfter] using
                  ConnectExit.released prepared failed stopped tun notHeld
            next proxy =>
              simpa [proxy, AbstractBackend.holdAfter, AbstractBackend.runningAfter]
                using ConnectExit.unguarded prepared failed stopped proxy
  | none =>
      have started := start_of_bringUpFailure_none failed
      simp only [Option.elim_none, commit, AbstractBackend.api]
      split
      next releases =>
        rcases releases with ⟨tun, noKillswitch⟩
        have noKillswitch : request.killswitch = false := by simpa using noKillswitch
        cases removed : manager.backend.answers.failure .removeHold with
        | some removal =>
            simpa [call_fails removed, tun, started] using
              ConnectExit.releaseFailed prepared failed tun noKillswitch removed
        | none =>
            simp only [call_succeeds removed]
            simpa [established, started, reached, AbstractBackend.holdAfter,
              AbstractBackend.runningAfter] using
              ConnectExit.connectedReleased prepared failed tun noKillswitch removed
      next keeps =>
        have keeps : request.mode ≠ .tun ∨ request.killswitch = true := by
          by_cases tun : request.mode = .tun
          · exact .inr (by simpa [tun] using keeps)
          · exact .inl tun
        simpa [established, started, reached] using
          ConnectExit.connectedHolding prepared failed keeps

private theorem replace_exit (guarded : Guarded request manager.backend.answers) :
    ConnectExit manager request
      (replace AbstractBackend.api request manager.wasConnected
        (manager.reached phase (manager.backend.hold || decide (request.mode = .tun))
          manager.backend.running (guardCalls request))) := by
  by_cases stuck : manager.wasConnected = true ∧
      (manager.backend.answers.failure .stopPreservingSplit).isSome = true
  · rcases stuck with ⟨connected, fails⟩
    rcases Option.isSome_iff_exists.mp fails with ⟨error, failed⟩
    simp only [replace, stopPrevious, AbstractBackend.api, connected, if_true,
      call_fails failed, setPhase_reached]
    exact .stopFailed guarded connected failed
  · have prepared : Prepared manager request manager.backend.answers :=
      { guarded with
        stopped := fun connected =>
          Option.not_isSome_iff_eq_none.mp fun fails => stuck ⟨connected, fails⟩ }
    rw [replace, stopPrevious_prepared prepared]
    exact establish_exit prepared

/-- Every call of `connect` ends in one of the listed ways. -/
theorem connect_exit :
    ConnectExit manager request (connect AbstractBackend.api request manager) := by
  have validates : AbstractBackend.api.validate request =
      AbstractBackend.perform .validate () := rfl
  rw [connect, ← wasConnected, beginConnect_eq, validates]
  cases validated : manager.backend.answers.failure .validate with
  | some error =>
      rw [call_fails validated]
      exact .validateFailed validated
  | none =>
      rw [call_succeeds validated]
      simp only [List.nil_append, AbstractBackend.holdAfter, AbstractBackend.runningAfter]
      by_cases guarded : Guarded request manager.backend.answers
      · rcases @raiseHold_guarded manager request
          (if manager.wasConnected then .reconnecting else .preparing)
          manager.backend.hold manager.backend.running guarded with ⟨next, raised⟩
        rw [raised]
        exact replace_exit guarded
      · -- Only the hold block can still stand in the way.
        have tun : request.mode = .tun := by
          by_contra proxy
          exact guarded ⟨validated, fun tun => absurd tun proxy, fun tun => absurd tun proxy⟩
        simp only [raiseHold, AbstractBackend.api, if_pos tun]
        cases installed : manager.backend.answers.failure .installHold with
        | some error =>
            rw [call_fails installed]
            exact .installFailed validated tun installed
        | none =>
            rw [call_succeeds installed]
            cases verified : manager.backend.answers.failure .verifyHold with
            | none => exact absurd ⟨validated, fun _ => installed, fun _ => verified⟩ guarded
            | some error =>
                simp only [call_fails verified]
                cases removed : manager.backend.answers.failure .removeHold with
                | none =>
                    simp only [call_succeeds removed]
                    exact .holdUnverified validated tun installed verified removed
                | some removal =>
                    simp only [call_fails removed]
                    exact .holdStuck validated tun installed verified removed

/-- The calls of a connect in the order it makes them. -/
def connectOrder : List Action :=
  [.validate, .installHold, .verifyHold, .stopPreservingSplit, .start, .activate,
    .verifyConnection, .stopFully, .removeHold]

private theorem preludeCalls_actions :
    List.Sublist ((preludeCalls manager request).map Call.action)
      [.validate, .installHold, .verifyHold, .stopPreservingSplit] := by
  by_cases tun : request.mode = .tun <;> cases connected : manager.wasConnected <;>
    simp [preludeCalls, guardCalls, tun, connected]

private theorem bringUpCalls_actions (answers : Answers) :
    List.Sublist ((bringUpCalls answers).map Call.action)
      [.start, .activate, .verifyConnection] := by
  rw [bringUpCalls]
  cases answers.failure .start <;> cases answers.failure .activate <;> simp

/-- A connect makes its calls in one fixed order, each at most once. -/
theorem connect_calls_in_order :
    ∃ made, (connect AbstractBackend.api request manager).2.backend.calls =
        manager.backend.calls ++ made ∧
      List.Sublist (made.map Call.action) connectOrder := by
  have exit := @connect_exit manager request
  have whole {ending : List Call}
      (last : List.Sublist (ending.map Call.action) [.stopFully, .removeHold]) :
      List.Sublist ((preludeCalls manager request ++
        bringUpCalls manager.backend.answers ++ ending).map Call.action)
        connectOrder := by
    rw [List.map_append, List.map_append]
    exact (preludeCalls_actions.append (bringUpCalls_actions _)).append last
  generalize connect AbstractBackend.api request manager = outcome at exit
  cases exit with
  | stopFailed guarded connected failed =>
      refine ⟨_, rfl, ?_⟩
      by_cases tun : request.mode = .tun <;> simp [guardCalls, tun, connectOrder]
  | cleanupFailed prepared failed dirty => exact ⟨_, rfl, whole (by simp)⟩
  | heldBack prepared failed stopped held => exact ⟨_, rfl, whole (by simp)⟩
  | released prepared failed stopped tun notHeld => exact ⟨_, rfl, whole (by simp)⟩
  | unguarded prepared failed stopped proxy => exact ⟨_, rfl, whole (by simp)⟩
  | releaseFailed prepared up tun noKillswitch stuck => exact ⟨_, rfl, whole (by simp)⟩
  | connectedReleased prepared up tun noKillswitch removed =>
      exact ⟨_, rfl, whole (by simp)⟩
  | connectedHolding prepared up keeps =>
      exact ⟨_, rfl, by simpa using @whole [] (by simp)⟩
  | _ => exact ⟨_, rfl, by simp [connectOrder]⟩

end Connect

/-! ## The other commands -/

section Other

variable {manager : AbstractManager}

/-- `disconnect` makes both of its calls whatever the first one returns. -/
theorem disconnect_backend :
    (disconnect AbstractBackend.api manager).2.backend =
      { manager.backend with
        hold := manager.backend.hold &&
          (manager.backend.answers.failure .removeHold).isSome
        running := manager.backend.running &&
          (manager.backend.answers.failure .stopFully).isSome
        calls := manager.backend.calls ++
          [⟨.stopFully, (manager.backend.answers.failure .stopFully).isNone⟩,
            ⟨.removeHold, (manager.backend.answers.failure .removeHold).isNone⟩] } := by
  cases stopped : manager.backend.answers.failure .stopFully <;>
    cases removed : manager.backend.answers.failure .removeHold <;>
      simp [disconnect, call, AbstractBackend.api, AbstractBackend.perform,
        AbstractBackend.holdAfter, AbstractBackend.runningAfter, setPhase, stopped, removed]

/-- Both calls of `disconnect` succeed. -/
def Disconnects (answers : Answers) : Prop :=
  answers.failure .stopFully = none ∧ answers.failure .removeHold = none

instance (answers : Answers) : Decidable (Disconnects answers) :=
  inferInstanceAs (Decidable (_ ∧ _))

theorem disconnect_state :
    (disconnect AbstractBackend.api manager).2.state =
      if Disconnects manager.backend.answers then .inPhase .disconnected
      else { manager.state with phase := .recoveryRequired } := by
  cases stopped : manager.backend.answers.failure .stopFully <;>
    cases removed : manager.backend.answers.failure .removeHold <;>
      simp [disconnect, call, AbstractBackend.api, AbstractBackend.perform, setPhase,
        Disconnects, stopped, removed]

/-- The data plane is recorded as up but has died. -/
def Died (manager : AbstractManager) : Prop :=
  manager.state.phase = .connected ∧ manager.backend.answers.alive = false

theorem reconcileHealth_idle (idle : ¬Died manager) :
    (reconcileHealth AbstractBackend.api manager).2 = manager := by
  by_cases connected : manager.state.phase = .connected
  · have alive : manager.backend.answers.alive = true := by
      simpa [Died, connected] using idle
    simp [reconcileHealth, AbstractBackend.api, connected, alive]
  · simp [reconcileHealth, connected]

theorem reconcileHealth_died (died : Died manager) :
    (reconcileHealth AbstractBackend.api manager).2 =
      { manager with
        backend := { manager.backend with
          running := manager.backend.running &&
            (manager.backend.answers.failure .stopFully).isSome
          calls := manager.backend.calls ++
            [⟨.stopFully, (manager.backend.answers.failure .stopFully).isNone⟩] }
        state :=
          if manager.backend.answers.failure .stopFully = none then
            .inPhase (if manager.blockOnFailure then .blocking else .disconnected)
          else { manager.state with
            phase := .recoveryRequired, splitActive := false, dnsProtected := false } } := by
  rcases died with ⟨connected, dead⟩
  cases stopped : manager.backend.answers.failure .stopFully <;>
    simp [reconcileHealth, AbstractBackend.api, AbstractBackend.perform, call,
      AbstractBackend.holdAfter, AbstractBackend.runningAfter, markRecoveryRequired,
      connected, dead, stopped]

/-- `update_split` leaves everything the manager relies on as it was. -/
theorem updateSplit_frame (applications : List String) :
    ∃ splitActive calls, (∀ call ∈ calls, call.action = .updateSplit) ∧
      (updateSplit AbstractBackend.api applications manager).2 =
        { manager with
          backend := { manager.backend with calls := manager.backend.calls ++ calls }
          state := { manager.state with splitActive } } := by
  by_cases connected : manager.state.phase = .connected
  · cases failed : manager.backend.answers.failure .updateSplit with
    | some error =>
        refine ⟨manager.state.splitActive, [⟨.updateSplit, false⟩], by simp, ?_⟩
        rw [updateSplit, if_neg (not_not.mpr connected)]
        simp [call, AbstractBackend.api, AbstractBackend.perform, failed]
    | none =>
        refine ⟨manager.backend.answers.splitLive, [⟨.updateSplit, true⟩], by simp, ?_⟩
        rw [updateSplit, if_neg (not_not.mpr connected)]
        simp [call, AbstractBackend.api, AbstractBackend.perform,
          AbstractBackend.holdAfter, AbstractBackend.runningAfter, failed]
  · exact ⟨manager.state.splitActive, [], by simp, by simp [updateSplit, connected]⟩

end Other

/-! ## Concrete inputs -/

/-- Answers under which exactly the given calls fail. -/
def failing (actions : List Action) : Answers where
  failure action :=
    if action ∈ actions then some ⟨.internal, "failed"⟩ else none
  alive := false
  splitLive := true

/-- A TUN request like the one the daemon's own tests use. -/
def tunRequest (killswitch : Bool) : ConnectRequest where
  mode := .tun
  xrayConfig := "\x7b\x7d"
  validationConfig := "\x7b\x7d"
  serverIps := [.v4 ⟨203, 0, 113, 9⟩]
  excludedApps := ["cs2"]
  killswitch
  allowLan := false

end AbstractManager

end Varmlen.Daemon
