import Varmlen.Daemon.AbstractBackend

/-!
# Rejected connects

A connect that is turned down by `validate` or by `install_hold_block` has not
touched the running system.  The state is edited before those calls and repaired
by hand after them; this module says which states the repair brings back.  The
results hold for every backend.
-/

namespace Varmlen.Daemon

namespace LifecycleManager

variable {Backend : Type} (api : LifecycleBackend Backend) (request : ConnectRequest)
variable (manager : LifecycleManager Backend)

/-- The call is turned down with `error` before it changed anything, leaving the
backend as `after`. -/
inductive RejectedWith (error : DaemonError) (after : Backend) : Prop
  | byValidation (failed : api.validate request manager.backend = (.error error, after))
  | byHoldBlock {between : Backend}
      (validated : api.validate request manager.backend = (.ok (), between))
      (tun : request.mode = .tun)
      (failed : api.installHoldBlock request between = (.error error, after))

/-- The call is turned down before it changed anything. -/
def Rejected : Prop := ∃ error after, RejectedWith api request manager error after

/-- The state the hand-written repair puts back. -/
def repairedState (state : DaemonState) : DaemonState :=
  { state with
    phase := restoredPhase (decide (state.phase = .connected))
    splitActive := false
    dnsProtected := false }

variable {api request manager}

/-- A rejected connect returns the error and repairs the state. -/
theorem connect_rejected {error : DaemonError} {after : Backend}
    (rejected : RejectedWith api request manager error after) :
    connect api request manager =
      (.error error,
        { manager with backend := after, state := repairedState manager.state }) := by
  cases rejected with
  | byValidation failed =>
      simp [connect, call, beginConnect, setPhase, repairedState, failed]
  | byHoldBlock validated tun failed =>
      simp [connect, call, beginConnect, setPhase, repairedState, raiseHold, validated,
        tun, failed]

/-- States that the repair brings back as they were. -/
def Repairable (state : DaemonState) : Prop :=
  (state.phase = .connected ∨ state.phase = .disconnected) ∧
    state.splitActive = false ∧ state.dnsProtected = false

theorem repairedState_eq_iff (state : DaemonState) :
    repairedState state = state ↔ Repairable state := by
  rcases state with ⟨phase, splitActive, dnsProtected, rttMs, logTail⟩
  cases phase <;> simp [repairedState, restoredPhase, Repairable, eq_comm]

/-- A rejected connect leaves the state as it was exactly when the state was
`Connected` or `Disconnected` with both flags off. -/
theorem rejected_connect_unchanged_iff (manager : LifecycleManager Backend)
    (rejected : Rejected api request manager) :
    (connect api request manager).2.state = manager.state ↔ Repairable manager.state := by
  rcases rejected with ⟨error, after, rejected⟩
  rw [connect_rejected rejected]
  exact repairedState_eq_iff manager.state

/-- A first connect turned down by the validation. -/
theorem rejected_first_connect :
    (connect AbstractBackend.api (AbstractManager.tunRequest true)
      (AbstractManager.fresh.face (AbstractManager.failing [.validate]))).2.state =
        AbstractManager.fresh.state :=
  (rejected_connect_unchanged_iff
    (AbstractManager.fresh.face (AbstractManager.failing [.validate]))
    ⟨_, _, .byValidation rfl⟩).mpr ⟨.inr rfl, rfl, rfl⟩

/-- A reconnect turned down by the validation, while a tunnel with a split and
protected DNS is up, reports that both are gone. -/
theorem rejected_reconnect_clears_flags :
    ¬∀ (Backend : Type) (api : LifecycleBackend Backend)
        (manager : LifecycleManager Backend) (request : ConnectRequest),
      Rejected api request manager →
        (connect api request manager).2.state = manager.state := by
  intro unchanged
  let connected := AbstractManager.step AbstractManager.fresh
    ⟨.connect (AbstractManager.tunRequest true), AbstractManager.failing []⟩
  have same := unchanged AbstractBackend AbstractBackend.api
    (connected.face (AbstractManager.failing [.validate]))
    (AbstractManager.tunRequest true) ⟨_, _, .byValidation rfl⟩
  exact absurd same (by decide)

end LifecycleManager

end Varmlen.Daemon
