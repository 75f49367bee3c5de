import Varmlen.Daemon.AbstractBackend

/-!
# Disconnected means clean

A manager in phase `Disconnected` should have nothing left in the system: no
hold block and no data plane.  The phase and the system are changed by different
statements, and four kinds of step write `Disconnected` over something that is
still there.  A run stays clean exactly when it takes none of them.
-/

namespace Varmlen.Daemon

open Foundation.Run LifecycleManager

namespace AbstractManager

def Clean (manager : AbstractManager) : Prop :=
  manager.state.phase = .disconnected →
    manager.backend.hold = false ∧ manager.backend.running = false

instance (manager : AbstractManager) : Decidable (Clean manager) :=
  inferInstanceAs (Decidable (_ → _))

section Residue

variable (manager : AbstractManager) (request : ConnectRequest) (answers : Answers)

/-- A connect made in some other phase than `Connected` is turned down by the
validation or by the hold block, and the phase goes back to `Disconnected`
although a hold block or a data plane of an earlier command is still there. -/
def RejectedOverRemains : Prop :=
  manager.state.phase ≠ .connected ∧
    (manager.backend.hold = true ∨ manager.backend.running = true) ∧
    (answers.failure .validate ≠ none ∨
      (request.mode = .tun ∧ answers.failure .installHold ≠ none))

/-- As before, when the hold block is installed, found wanting and removed: only
a data plane can be left over then. -/
def UnverifiedOverDataPlane : Prop :=
  manager.state.phase ≠ .connected ∧ manager.backend.running = true ∧
    request.mode = .tun ∧ answers.failure .validate = none ∧
    answers.failure .installHold = none ∧ answers.failure .verifyHold ≠ none ∧
    answers.failure .removeHold = none

/-- The new data plane fails, is stopped again, and the hold block put up for it
cannot be removed; the failure is discarded. -/
def RemovalDiscarded : Prop :=
  Prepared manager request answers ∧ bringUpFailure answers ≠ none ∧
    answers.failure .stopFully = none ∧ request.mode = .tun ∧
    ¬HeldBack manager request ∧ answers.failure .removeHold ≠ none

/-- A data plane without a hold block of its own fails and is stopped again while
the hold block of an earlier tunnel is still installed. -/
def ProxyFailsOverHold : Prop :=
  Prepared manager request answers ∧ bringUpFailure answers ≠ none ∧
    answers.failure .stopFully = none ∧ request.mode ≠ .tun ∧
    manager.backend.hold = true

/-- The connects that leave something behind in phase `Disconnected`. -/
def ConnectLeavesResidue : Prop :=
  RejectedOverRemains manager request answers ∨
    UnverifiedOverDataPlane manager request answers ∨
    RemovalDiscarded manager request answers ∨
    ProxyFailsOverHold manager request answers

/-- A connection without the kill switch dies while the hold block of an earlier
tunnel is still installed. -/
def DiesOverHold : Prop :=
  manager.state.phase = .connected ∧ answers.alive = false ∧
    answers.failure .stopFully = none ∧ manager.blockOnFailure = false ∧
    manager.backend.hold = true

end Residue

/-- The steps that leave something behind in phase `Disconnected`. -/
def LeavesResidue (manager : AbstractManager) (input : Input) : Prop :=
  match input.command with
  | .connect request => ConnectLeavesResidue manager request input.answers
  | .reconcileHealth => DiesOverHold manager input.answers
  | _ => False

section Step

variable {manager : AbstractManager} {request : ConnectRequest}
variable {phase : ConnectionPhase} {hold running : Bool} {calls : List Call}

theorem clean_reached :
    Clean (manager.reached phase hold running calls) ↔
      (phase = .disconnected → hold = false ∧ running = false) :=
  Iff.rfl

theorem clean_of_phase (other : manager.state.phase ≠ .disconnected) : Clean manager :=
  fun same => absurd same other

theorem clean_restored :
    Clean (manager.reached (restoredPhase manager.wasConnected) hold running calls) ↔
      ¬(manager.state.phase ≠ .connected ∧ (hold = true ∨ running = true)) := by
  rw [clean_reached]
  by_cases connected : manager.state.phase = .connected <;>
    cases hold <;> cases running <;> simp [restoredPhase, wasConnected, connected]

/-- Up to a verified hold block, none of the early kinds of residue arises. -/
theorem not_early_residue (guarded : Guarded request manager.backend.answers) :
    ¬RejectedOverRemains manager request manager.backend.answers ∧
      ¬UnverifiedOverDataPlane manager request manager.backend.answers := by
  constructor
  · rintro ⟨_, _, invalid | ⟨tun, uninstalled⟩⟩
    · exact invalid guarded.validated
    · exact uninstalled (guarded.installed tun)
  · rintro ⟨_, _, tun, _, _, unverified, _⟩
    exact unverified (guarded.verified tun)

theorem connectLeavesResidue_prepared
    (prepared : Prepared manager request manager.backend.answers) :
    ConnectLeavesResidue manager request manager.backend.answers ↔
      bringUpFailure manager.backend.answers ≠ none ∧
        manager.backend.answers.failure .stopFully = none ∧
        if request.mode = .tun then
          ¬HeldBack manager request ∧ manager.backend.answers.failure .removeHold ≠ none
        else manager.backend.hold = true := by
  rcases not_early_residue prepared.toGuarded with ⟨notRejected, notUnverified⟩
  by_cases tun : request.mode = .tun <;>
    simp [ConnectLeavesResidue, RemovalDiscarded, ProxyFailsOverHold, notRejected,
      notUnverified, prepared, tun]

theorem connectLeavesResidue_unprepared
    (unprepared : ¬Prepared manager request manager.backend.answers) :
    ConnectLeavesResidue manager request manager.backend.answers ↔
      RejectedOverRemains manager request manager.backend.answers ∨
        UnverifiedOverDataPlane manager request manager.backend.answers := by
  simp [ConnectLeavesResidue, RemovalDiscarded, ProxyFailsOverHold, unprepared]

/-- A connect keeps `Disconnected` clean unless it leaves something behind. -/
theorem clean_connect :
    Clean (connect AbstractBackend.api request manager).2 ↔
      ¬ConnectLeavesResidue manager request manager.backend.answers := by
  have exit := @connect_exit manager request
  generalize connect AbstractBackend.api request manager = outcome at exit
  cases exit with
  | validateFailed failed =>
      rw [clean_restored, connectLeavesResidue_unprepared fun prepared => by
        simp [prepared.validated] at failed]
      simp [RejectedOverRemains, UnverifiedOverDataPlane, failed]
  | installFailed validated tun failed =>
      rw [clean_restored, connectLeavesResidue_unprepared fun prepared => by
        simp [prepared.installed tun] at failed]
      simp [RejectedOverRemains, UnverifiedOverDataPlane, failed, tun]
  | holdUnverified validated tun installed failed removed =>
      rw [clean_restored, connectLeavesResidue_unprepared fun prepared => by
        simp [prepared.verified tun] at failed]
      simp [RejectedOverRemains, UnverifiedOverDataPlane, validated, tun, installed,
        failed, removed]
  | holdStuck validated tun installed failed stuck =>
      rw [clean_reached, connectLeavesResidue_unprepared fun prepared => by
        simp [prepared.verified tun] at failed]
      simp [RejectedOverRemains, UnverifiedOverDataPlane, validated, installed, stuck]
  | stopFailed guarded connected failed =>
      rcases not_early_residue guarded with ⟨notRejected, notUnverified⟩
      rw [clean_reached, connectLeavesResidue_unprepared fun prepared => by
        simp [prepared.stopped connected] at failed]
      by_cases tun : request.mode = .tun <;> simp [tun, notRejected, notUnverified]
  | cleanupFailed prepared failed dirty =>
      rw [connectLeavesResidue_prepared prepared]
      simp [clean_reached, dirty]
  | heldBack prepared failed stopped held =>
      rw [connectLeavesResidue_prepared prepared]
      simp [clean_reached, held, held.1]
  | released prepared failed stopped tun notHeld =>
      rw [connectLeavesResidue_prepared prepared]
      simp [clean_reached, failed, stopped, tun, notHeld]
  | unguarded prepared failed stopped proxy =>
      rw [connectLeavesResidue_prepared prepared]
      simp [clean_reached, failed, stopped, proxy]
  | releaseFailed prepared up tun noKillswitch stuck =>
      rw [connectLeavesResidue_prepared prepared]
      simp [clean_reached, up]
  | connectedReleased prepared up tun noKillswitch removed =>
      rw [connectLeavesResidue_prepared prepared]
      simp [Clean, established, DaemonState.inPhase, up]
  | connectedHolding prepared up keeps =>
      rw [connectLeavesResidue_prepared prepared]
      simp [Clean, established, DaemonState.inPhase, up]

/-- One step keeps `Disconnected` clean unless it leaves something behind. -/
theorem clean_step {input : Input} (good : Clean manager) :
    Clean (step manager input) ↔ ¬LeavesResidue manager input := by
  have faced : Clean (manager.face input.answers) := good
  rcases input with ⟨command, answers⟩
  cases command with
  | connect request =>
      apply clean_connect.trans
      show ¬ConnectLeavesResidue (manager.face answers) request answers ↔
        ¬ConnectLeavesResidue manager request answers
      simp only [ConnectLeavesResidue, RemovalDiscarded, ProxyFailsOverHold, prepared_face]
      exact Iff.rfl
  | disconnect =>
      refine iff_of_true ?_ (by simp [LeavesResidue])
      intro disconnected
      rw [step, execute, disconnect_backend]
      rw [step, execute, disconnect_state] at disconnected
      split at disconnected
      next both => simp [both.1, both.2]
      next => simp at disconnected
  | updateSplit applications =>
      rcases @updateSplit_frame (manager.face answers) applications with
        ⟨splitActive, calls, _, same⟩
      refine iff_of_true ?_ (by simp [LeavesResidue])
      rw [step, execute, same]
      exact faced
  | reconcileHealth =>
      by_cases died : Died (manager.face answers)
      · have connected : manager.state.phase = .connected := died.1
        have dead : answers.alive = false := died.2
        rw [step, execute, reconcileHealth_died died]
        cases stopped : answers.failure .stopFully <;>
          cases blocks : manager.blockOnFailure <;>
            simp [Clean, LeavesResidue, DiesOverHold, face, DaemonState.inPhase,
              connected, dead, stopped, blocks]
      · rw [step, execute, reconcileHealth_idle died]
        refine iff_of_true faced ?_
        rintro ⟨connected, dead, _⟩
        exact died ⟨connected, dead⟩
  | markRecoveryRequired =>
      refine iff_of_true ?_ (by simp [LeavesResidue])
      exact clean_of_phase (by simp [step, execute, markRecoveryRequired])

end Step

/-- The runs in which `Disconnected` always means clean are exactly those that
take none of the steps that leave something behind. -/
theorem disconnected_clean_iff (inputs : List Input) :
    Always step Clean fresh inputs ↔
      EveryStep step (fun manager input => ¬LeavesResidue manager input) fresh inputs :=
  always_iff_everyStep_self (fun _ _ good => clean_step good) inputs fresh (by decide)

/-- A first connect that fails to start Xray and then to remove its hold block
ends in `Disconnected` with the block in place. -/
theorem disconnected_with_hold :
    ¬∀ inputs : List Input, Always step Clean fresh inputs := by
  intro always
  exact absurd (always [⟨.connect (tunRequest false), failing [.start, .removeHold]⟩])
    (by decide)

end AbstractManager

end Varmlen.Daemon
