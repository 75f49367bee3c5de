import Varmlen.Foundation.Trace
import Varmlen.Daemon.AbstractBackend

/-!
# The controller

`SystemController` takes commands from clients, runs them on the manager and
writes the resulting phase to disk; a failed write sends the manager to
`RecoveryRequired` (`daemon/src/controller.rs`).  Over the abstract backend this
gives the runs of the whole daemon, and the question whether a data plane is
ever started on top of one that was not stopped.
-/

namespace Varmlen.Daemon

open Foundation.Run Foundation.Trace LifecycleManager

/-- Commands of a client.  The ping requests are left to `Services`, which
answers them. -/
inductive DaemonCommand where
  | status
  | connect (request : ConnectRequest)
  | disconnect
  | updateSplit (applications : List String)
  | tcpPing
  | proxyPing
  | logTail
  | clearLog

/-- How the services a command uses besides the manager answer it. -/
structure Services where
  /-- The error of writing the state file, `none` when it is written. -/
  writeFailure : Option String
  tcpPing : Except DaemonError Nat
  proxyPing : Except DaemonError Nat
  logTail : Except String String
  clearLog : Except String Unit

namespace Controller

variable {Backend : Type}

/-- Write the phase to disk; a failure sends the manager to recovery. -/
def persist (writeFailure : Option String) (manager : LifecycleManager Backend) :
    Outcome Unit (LifecycleManager Backend) :=
  match writeFailure with
  | none => (.ok (), manager)
  | some error =>
      (.error ⟨.internal, "could not persist daemon recovery state: " ++ error⟩,
        manager.markRecoveryRequired)

variable (api : LifecycleBackend Backend)

/-- Run a command on the manager and write the outcome to disk. -/
def runPersisted (services : Services)
    (command : LifecycleManager Backend →
      Outcome DaemonState (LifecycleManager Backend))
    (manager : LifecycleManager Backend) :
    Outcome DaemonState (LifecycleManager Backend) :=
  let (result, manager) := command manager
  match persist services.writeFailure manager with
  | (.error error, manager) => (.error error, manager)
  | (.ok (), manager) => (result, manager)

/-- Answer a client's command. -/
def handle (services : Services) (command : DaemonCommand)
    (manager : LifecycleManager Backend) :
    Outcome DaemonState (LifecycleManager Backend) :=
  match command with
  | .logTail =>
      match services.logTail with
      | .error error =>
          (.error ⟨.internal, "could not read Xray log: " ++ error⟩, manager)
      | .ok tail => (.ok { manager.state with logTail := some tail }, manager)
  | .clearLog =>
      match services.clearLog with
      | .error error =>
          (.error ⟨.internal, "could not clear Xray log: " ++ error⟩, manager)
      | .ok () => (.ok manager.state, manager)
  | .tcpPing =>
      match services.tcpPing with
      | .error error => (.error error, manager)
      | .ok rtt => (.ok { manager.state with rttMs := some rtt }, manager)
  | .proxyPing =>
      match services.proxyPing with
      | .error error => (.error error, manager)
      | .ok rtt => (.ok { manager.state with rttMs := some rtt }, manager)
  | .status => runPersisted services (reconcileHealth api) manager
  | .connect request => runPersisted services (connect api request) manager
  | .disconnect => runPersisted services (disconnect api) manager
  | .updateSplit applications => runPersisted services (updateSplit api applications) manager

/-- The periodic health check, which writes to disk only what changed. -/
def pollHealth (services : Services) (manager : LifecycleManager Backend) :
    Outcome DaemonState (LifecycleManager Backend) :=
  let before := manager.state
  let (result, manager) := reconcileHealth api manager
  if manager.state ≠ before then
    match persist services.writeFailure manager with
    | (.error error, manager) => (.error error, manager)
    | (.ok (), manager) => (result, manager)
  else (result, manager)

/-- What makes the daemon act: a client or its own timer. -/
inductive Trigger where
  | client (command : DaemonCommand)
  | timer

/-- One step of a daemon run, with everything its environment decides. -/
structure Event where
  trigger : Trigger
  answers : Answers
  services : Services

/-- One step of a daemon run over the abstract backend. -/
def step (manager : AbstractManager) (event : Event) : AbstractManager :=
  match event.trigger with
  | .client command =>
      (handle AbstractBackend.api event.services command (manager.face event.answers)).2
  | .timer => (pollHealth AbstractBackend.api event.services (manager.face event.answers)).2

/-! ## Starting the data plane -/

/-- A `start_data_plane` that returned `Ok`. -/
def started (call : Call) : Bool := decide (call = ⟨.start, true⟩)

/-- A `stop_data_plane` that returned `Ok`. -/
def stopped (call : Call) : Bool :=
  decide (call = ⟨.stopPreservingSplit, true⟩) || decide (call = ⟨.stopFully, true⟩)

/-- Between any two successful starts there is a successful stop. -/
def NoDoubleStart (manager : AbstractManager) : Prop :=
  Alternates (started · = true) (stopped · = true) manager.backend.calls

/-- A connect made in some other phase than `Connected`, while a data plane is
running, gets as far as starting another one. -/
def Restarts (manager : AbstractManager) (request : ConnectRequest)
    (answers : Answers) : Prop :=
  manager.state.phase ≠ .connected ∧ manager.backend.running = true ∧
    AbstractManager.Guarded request answers ∧ answers.failure .start = none

/-- The step of a run that starts a second data plane. -/
def StartsTwice (manager : AbstractManager) (event : Event) : Prop :=
  match event.trigger with
  | .client (.connect request) => Restarts manager request event.answers
  | _ => False

/-- The calls so far alternate, and the data plane is running exactly if a start
is still open. -/
def Tracked (manager : AbstractManager) : Prop :=
  monitor started stopped false manager.backend.calls = some manager.backend.running

/-- The calls that lead from `manager` to `next` are rejected by the monitor if
`twice`, and otherwise tell it whether a data plane is running. -/
def Judged (twice : Prop) (manager next : AbstractManager) : Prop :=
  ∃ made, next.backend.calls = manager.backend.calls ++ made ∧
    ((twice ∧ monitor started stopped manager.backend.running made = none) ∨
      (¬twice ∧ monitor started stopped manager.backend.running made =
        some next.backend.running))

section Connect

variable {manager : AbstractManager} {request : ConnectRequest}

theorem monitor_guardCalls (pending : Bool) :
    monitor started stopped pending (AbstractManager.guardCalls request) = some pending := by
  by_cases tun : request.mode = .tun <;>
    simp [AbstractManager.guardCalls, monitor, started, stopped, tun]

/-- The previous data plane counts as stopped once the prelude is through. -/
theorem monitor_preludeCalls (pending : Bool) :
    monitor started stopped pending (AbstractManager.preludeCalls manager request) =
      some (pending && !manager.wasConnected) := by
  rw [AbstractManager.preludeCalls, monitor_append, monitor_guardCalls]
  cases manager.wasConnected <;> simp [monitor, started, stopped]

theorem monitor_bringUpCalls (answers : Answers) (pending : Bool) :
    monitor started stopped pending (AbstractManager.bringUpCalls answers) =
      if answers.failure .start = none ∧ pending = true then none
      else some (pending || (answers.failure .start).isNone) := by
  cases start : answers.failure .start <;> cases activate : answers.failure .activate <;>
    cases pending <;>
      simp [AbstractManager.bringUpCalls, monitor, started, stopped, start, activate]

/-- Once the prelude is through, the only way to fail is to start a second data
plane; otherwise what follows is judged from the plane that is up by then. -/
theorem monitor_prepared
    (prepared : manager.Prepared request manager.backend.answers) (ending : List Call) :
    (Restarts manager request manager.backend.answers ∧
        monitor started stopped manager.backend.running
          (manager.preludeCalls request ++
            AbstractManager.bringUpCalls manager.backend.answers ++ ending) = none) ∨
      (¬Restarts manager request manager.backend.answers ∧
        monitor started stopped manager.backend.running
          (manager.preludeCalls request ++
            AbstractManager.bringUpCalls manager.backend.answers ++ ending) =
        monitor started stopped
          ((manager.backend.running && !manager.wasConnected) ||
            (manager.backend.answers.failure .start).isNone) ending) := by
  rw [List.append_assoc, monitor_append, monitor_preludeCalls, Option.bind_some,
    monitor_append, monitor_bringUpCalls]
  by_cases restarts : manager.backend.answers.failure .start = none ∧
      (manager.backend.running && !manager.wasConnected) = true
  · rcases restarts with ⟨start, open_⟩
    have both : manager.backend.running = true ∧ manager.state.phase ≠ .connected := by
      simpa [AbstractManager.wasConnected] using open_
    left
    refine ⟨⟨both.2, both.1, prepared.toGuarded, start⟩, ?_⟩
    rw [if_pos ⟨start, open_⟩, Option.bind_none]
  · right
    refine ⟨?_, ?_⟩
    · rintro ⟨notConnected, running, _, start⟩
      exact restarts ⟨start, by simp [running, AbstractManager.wasConnected, notConnected]⟩
    · rw [if_neg restarts, Option.bind_some]

/-- Before the data plane is started, no call of a connect matters. -/
theorem not_restarts_of_unguarded
    (unguarded : ¬AbstractManager.Guarded request manager.backend.answers) :
    ¬Restarts manager request manager.backend.answers :=
  fun restarts => unguarded restarts.2.2.1

/-- A connect is rejected exactly when it starts a second data plane. -/
theorem judged_connect :
    Judged (Restarts manager request manager.backend.answers) manager
      (connect AbstractBackend.api request manager).2 := by
  have exit := @AbstractManager.connect_exit manager request
  generalize connect AbstractBackend.api request manager = outcome at exit
  have after {ending : List Call} {running : Bool}
      (prepared : manager.Prepared request manager.backend.answers)
      (judged : monitor started stopped
        ((manager.backend.running && !manager.wasConnected) ||
          (manager.backend.answers.failure .start).isNone) ending = some running) :=
    (monitor_prepared prepared ending).imp_right fun ⟨single, same⟩ =>
      (⟨single, same.trans judged⟩ : _ ∧ _)
  cases exit with
  | validateFailed failed =>
      refine ⟨_, rfl, .inr ⟨not_restarts_of_unguarded fun guarded => ?_, ?_⟩⟩
      · simp [guarded.validated] at failed
      · simp [AbstractManager.reached, monitor, started, stopped]
  | installFailed validated tun failed =>
      refine ⟨_, rfl, .inr ⟨not_restarts_of_unguarded fun guarded => ?_, ?_⟩⟩
      · simp [guarded.installed tun] at failed
      · simp [AbstractManager.reached, monitor, started, stopped]
  | holdUnverified validated tun installed failed removed =>
      refine ⟨_, rfl, .inr ⟨not_restarts_of_unguarded fun guarded => ?_, ?_⟩⟩
      · simp [guarded.verified tun] at failed
      · simp [AbstractManager.reached, monitor, started, stopped]
  | holdStuck validated tun installed failed stuck =>
      refine ⟨_, rfl, .inr ⟨not_restarts_of_unguarded fun guarded => ?_, ?_⟩⟩
      · simp [guarded.verified tun] at failed
      · simp [AbstractManager.reached, monitor, started, stopped]
  | stopFailed guarded connected failed =>
      refine ⟨_, rfl, .inr ⟨fun restarts => ?_, ?_⟩⟩
      · exact restarts.1 (by simpa [AbstractManager.wasConnected] using connected)
      · rw [monitor_append, monitor_guardCalls]
        simp [AbstractManager.reached, monitor, started, stopped]
  | cleanupFailed prepared failed dirty =>
      exact ⟨_, rfl, after prepared (by
        simp [AbstractManager.reached, monitor, started, stopped])⟩
  | heldBack prepared failed stop held =>
      exact ⟨_, rfl, after prepared (by
        simp [AbstractManager.reached, monitor, started, stopped])⟩
  | released prepared failed stop tun notHeld =>
      exact ⟨_, rfl, after prepared (by
        simp [AbstractManager.reached, monitor, started, stopped])⟩
  | unguarded prepared failed stop proxy =>
      exact ⟨_, rfl, after prepared (by
        simp [AbstractManager.reached, monitor, started, stopped])⟩
  | releaseFailed prepared up tun noKillswitch stuck =>
      have start := AbstractManager.start_of_bringUpFailure_none up
      exact ⟨_, rfl, after prepared (by
        simp [AbstractManager.reached, monitor, started, stopped, start])⟩
  | connectedReleased prepared up tun noKillswitch removed =>
      have start := AbstractManager.start_of_bringUpFailure_none up
      exact ⟨_, rfl, after prepared (by
        simp [AbstractManager.established, monitor, started, stopped, start])⟩
  | connectedHolding prepared up keeps =>
      have start := AbstractManager.start_of_bringUpFailure_none up
      refine ⟨_, rfl, ?_⟩
      simpa [AbstractManager.established] using
        @after [] true prepared (by simp [monitor, start])

end Connect

section Step

variable {manager next : AbstractManager} {twice : Prop}

theorem stopped_of_started {call : Call} (start : started call = true) :
    stopped call = false := by
  simp_all [started, stopped]

theorem noDoubleStart_iff_tracks :
    NoDoubleStart manager ↔
      (monitor started stopped false manager.backend.calls).isSome = true :=
  alternates_iff_monitor (fun _ start => stopped_of_started start) _

theorem noDoubleStart_of_tracked (tracked : Tracked manager) : NoDoubleStart manager := by
  rw [noDoubleStart_iff_tracks, tracked]
  rfl

/-- A judged step from a tracked manager starts no second data plane exactly when
it was not rejected, and then stays tracked. -/
theorem noDoubleStart_of_judged (tracked : Tracked manager)
    (judged : Judged twice manager next) :
    (NoDoubleStart next ↔ ¬twice) ∧ (¬twice → Tracked next) := by
  rcases judged with ⟨made, calls, verdict⟩
  rw [noDoubleStart_iff_tracks, Tracked, calls, monitor_append, tracked, Option.bind_some]
  rcases verdict with ⟨rejected, fails⟩ | ⟨accepted, known⟩
  · simp [rejected, fails]
  · simp [accepted, known]

theorem judged_of_backend {other : AbstractManager}
    (same : next.backend = other.backend) (judged : Judged twice manager other) :
    Judged twice manager next := by
  rw [Judged, same]
  exact judged

theorem judged_refl : Judged False manager manager :=
  ⟨[], by simp, .inr ⟨id, rfl⟩⟩

theorem judged_reconcileHealth :
    Judged False manager (reconcileHealth AbstractBackend.api manager).2 := by
  by_cases died : AbstractManager.Died manager
  · rw [AbstractManager.reconcileHealth_died died]
    refine ⟨_, rfl, .inr ⟨id, ?_⟩⟩
    cases manager.backend.answers.failure .stopFully <;> simp [monitor, started, stopped]
  · rw [AbstractManager.reconcileHealth_idle died]
    exact judged_refl

theorem judged_disconnect :
    Judged False manager (disconnect AbstractBackend.api manager).2 := by
  rw [Judged, AbstractManager.disconnect_backend]
  refine ⟨_, rfl, .inr ⟨id, ?_⟩⟩
  cases manager.backend.answers.failure .stopFully <;> simp [monitor, started, stopped]

/-- The monitor takes no notice of split updates. -/
theorem monitor_splitUpdates {calls : List Call}
    (others : ∀ call ∈ calls, call.action = .updateSplit) (pending : Bool) :
    monitor started stopped pending calls = some pending := by
  induction calls with
  | nil => rfl
  | cons call rest ih =>
      have ignored : started call = false ∧ stopped call = false := by
        rcases call with ⟨action, ok⟩
        have same : action = .updateSplit := others ⟨action, ok⟩ (by simp)
        simp [started, stopped, same]
      rw [monitor, ignored.1, ignored.2]
      simpa using ih fun call member => others call (by simp [member])

theorem judged_updateSplit (applications : List String) :
    Judged False manager (updateSplit AbstractBackend.api applications manager).2 := by
  rcases @AbstractManager.updateSplit_frame manager applications with
    ⟨splitActive, calls, others, same⟩
  rw [same]
  exact ⟨calls, rfl, .inr ⟨id, monitor_splitUpdates others _⟩⟩

/-- Writing to disk does not touch the backend. -/
theorem runPersisted_backend (services : Services)
    (command : AbstractManager → Outcome DaemonState AbstractManager) :
    (runPersisted services command manager).2.backend = (command manager).2.backend := by
  cases failed : services.writeFailure <;>
    simp [runPersisted, persist, markRecoveryRequired, failed]

theorem pollHealth_backend (services : Services) :
    (pollHealth AbstractBackend.api services manager).2.backend =
      (reconcileHealth AbstractBackend.api manager).2.backend := by
  rw [pollHealth]
  generalize reconcileHealth AbstractBackend.api manager = outcome
  cases services.writeFailure <;> by_cases same : outcome.2.state = manager.state <;>
    simp [persist, markRecoveryRequired, same]

/-- Every step is rejected exactly when it starts a second data plane. -/
theorem judged_step (event : Event) :
    Judged (StartsTwice manager event) manager (step manager event) := by
  rcases event with ⟨trigger, answers, services⟩
  have persisted {twice : Prop}
      {command : AbstractManager → Outcome DaemonState AbstractManager}
      (judged : Judged twice (manager.face answers) (command (manager.face answers)).2) :
      Judged twice manager
        (runPersisted services command (manager.face answers)).2 :=
    judged_of_backend (runPersisted_backend services command) judged
  have inspected {next : AbstractManager} (same : next = manager.face answers) :
      Judged False manager next := by
    rw [same]
    exact @judged_refl (manager.face answers)
  cases trigger with
  | timer => exact judged_of_backend (pollHealth_backend services) judged_reconcileHealth
  | client command =>
      cases command with
      | connect request => exact persisted judged_connect
      | status => exact persisted judged_reconcileHealth
      | disconnect => exact persisted judged_disconnect
      | updateSplit applications => exact persisted (judged_updateSplit applications)
      | tcpPing =>
          apply inspected
          cases pinged : services.tcpPing <;> simp [step, handle, pinged]
      | proxyPing =>
          apply inspected
          cases pinged : services.proxyPing <;> simp [step, handle, pinged]
      | logTail =>
          apply inspected
          cases read : services.logTail <;> simp [step, handle, read]
      | clearLog =>
          apply inspected
          cases cleared : services.clearLog <;> simp [step, handle, cleared]

end Step

/-- The runs of the daemon in which no data plane is started on top of another
are exactly those without a connect, outside `Connected`, that starts one while
one is running. -/
theorem noDoubleStart_iff (events : List Event) :
    Always step NoDoubleStart AbstractManager.fresh events ↔
      EveryStep step (fun manager event => ¬StartsTwice manager event)
        AbstractManager.fresh events := by
  refine @always_iff_everyStep _ _ step Tracked NoDoubleStart _
    (fun _ tracked => noDoubleStart_of_tracked tracked) ?_ ?_ events
    AbstractManager.fresh rfl
  · intro manager event tracked
    exact (noDoubleStart_of_judged tracked (judged_step event)).1
  · intro manager event tracked
    exact (noDoubleStart_of_judged tracked (judged_step event)).2

/-- Services that all answer, apart from the state file. -/
def services (writeFailure : Option String) : Services where
  writeFailure
  tcpPing := .ok 10
  proxyPing := .ok 10
  logTail := .ok ""
  clearLog := .ok ()

/-- A connect whose state cannot be written leaves its data plane running in
phase `RecoveryRequired`; the next connect starts another one. -/
theorem double_start_after_persist_failure :
    ¬∀ events : List Event, Always step NoDoubleStart AbstractManager.fresh events := by
  intro always
  let connect := Trigger.client (.connect (AbstractManager.tunRequest true))
  have alternates := always
    [⟨connect, AbstractManager.failing [], services (some "disk full")⟩,
      ⟨connect, AbstractManager.failing [], services none⟩] _ (by simp [states]; right; right; rfl)
  rw [noDoubleStart_iff_tracks] at alternates
  exact absurd alternates (by decide)

end Controller

end Varmlen.Daemon
