import Varmlen.Foundation.Trace
import Varmlen.Daemon.AbstractBackend

/-!
# The kill switch

Two promises about the hold block.  Over whole runs, a manager that reports
`Blocking`, or is connected with the kill switch on, has the block installed.
Within one reconnect, the block covers the time between the old data plane going
down and the new one being verified.
-/

namespace Varmlen.Daemon

open Foundation.Run Foundation.Trace LifecycleManager

namespace AbstractManager

/-! ## The hold block over runs -/

/-- The phase and the kill switch promise an installed hold block. -/
def PromisesHold (manager : AbstractManager) : Prop :=
  manager.state.phase = .blocking ∨
    (manager.state.phase = .connected ∧ manager.blockOnFailure = true)

instance (manager : AbstractManager) : Decidable (PromisesHold manager) :=
  inferInstanceAs (Decidable (_ ∨ _ ∧ _))

def KeepsPromise (manager : AbstractManager) : Prop :=
  PromisesHold manager → manager.backend.hold = true

instance (manager : AbstractManager) : Decidable (KeepsPromise manager) :=
  inferInstanceAs (Decidable (_ → _))

/-- A reconnect whose hold block could be installed but not verified takes the
block down again, although the tunnel it was protecting is still the recorded
one and still has the kill switch on. -/
def DropsHold (manager : AbstractManager) (request : ConnectRequest)
    (answers : Answers) : Prop :=
  (manager.state.phase = .connected ∧ manager.blockOnFailure = true) ∧
    request.mode = .tun ∧
    answers.failure .validate = none ∧ answers.failure .installHold = none ∧
    answers.failure .verifyHold ≠ none ∧ answers.failure .removeHold = none

/-- The step of a run that drops the hold block. -/
def DropsHoldAt (manager : AbstractManager) (input : Input) : Prop :=
  match input.command with
  | .connect request => DropsHold manager request input.answers
  | _ => False

section Step

variable {manager : AbstractManager} {request : ConnectRequest}
variable {phase : ConnectionPhase} {hold running : Bool} {calls : List Call}

theorem promisesHold_reached :
    PromisesHold (manager.reached phase hold running calls) ↔
      phase = .blocking ∨ (phase = .connected ∧ manager.blockOnFailure = true) :=
  Iff.rfl

/-- Putting the old phase back promises what the manager promised before, if it
was connected. -/
theorem promisesHold_restored :
    PromisesHold (manager.reached (restoredPhase manager.wasConnected)
        hold running calls) ↔
      manager.state.phase = .connected ∧ manager.blockOnFailure = true := by
  rw [promisesHold_reached]
  by_cases connected : manager.state.phase = .connected <;>
    simp [restoredPhase, wasConnected, connected]

theorem keepsPromise_of_hold (installed : manager.backend.hold = true) :
    KeepsPromise manager :=
  fun _ => installed

theorem keepsPromise_of_phase (notBlocking : manager.state.phase ≠ .blocking)
    (notConnected : manager.state.phase ≠ .connected) : KeepsPromise manager := by
  rintro (blocking | ⟨connected, _⟩)
  · exact absurd blocking notBlocking
  · exact absurd connected notConnected

/-- A connect keeps the promise unless it drops the hold block. -/
theorem keepsPromise_connect (good : KeepsPromise manager) :
    KeepsPromise (connect AbstractBackend.api request manager).2 ↔
      ¬DropsHold manager request manager.backend.answers := by
  have exit := @connect_exit manager request
  generalize connect AbstractBackend.api request manager = outcome at exit
  have early {hold running calls}
      (same : hold = manager.backend.hold) :
      KeepsPromise (manager.reached (restoredPhase manager.wasConnected)
        hold running calls) := by
    intro promises
    exact same.trans (good (.inr (promisesHold_restored.mp promises)))
  cases exit with
  | validateFailed failed =>
      exact iff_of_true (early rfl) (by simp [DropsHold, failed])
  | installFailed validated tun failed =>
      exact iff_of_true (early rfl) (by simp [DropsHold, failed])
  | holdUnverified validated tun installed failed removed =>
      rw [KeepsPromise, promisesHold_restored]
      simp [DropsHold, reached, validated, tun, installed, failed, removed]
  | holdStuck validated tun installed failed stuck =>
      refine iff_of_true (keepsPromise_of_hold rfl) ?_
      simp [DropsHold, stuck]
  | stopFailed guarded connected failed =>
      refine iff_of_true ?_ fun drops => drops.2.2.2.2.1 (guarded.verified drops.2.1)
      by_cases tun : request.mode = .tun
      · exact keepsPromise_of_hold (by simp [reached, tun])
      · exact keepsPromise_of_phase (by simp [reached, tun]) (by simp [reached, tun])
  | cleanupFailed prepared failed dirty =>
      refine iff_of_true ?_ fun drops => drops.2.2.2.2.1 (prepared.verified drops.2.1)
      exact keepsPromise_of_phase (by simp [reached]) (by simp [reached])
  | heldBack prepared failed stopped held =>
      refine iff_of_true ?_ fun drops => drops.2.2.2.2.1 (prepared.verified drops.2.1)
      exact keepsPromise_of_hold rfl
  | released prepared failed stopped tun notHeld =>
      refine iff_of_true ?_ fun drops => drops.2.2.2.2.1 (prepared.verified drops.2.1)
      exact keepsPromise_of_phase (by simp [reached]) (by simp [reached])
  | unguarded prepared failed stopped proxy =>
      refine iff_of_true ?_ fun drops => drops.2.2.2.2.1 (prepared.verified drops.2.1)
      exact keepsPromise_of_phase (by simp [reached]) (by simp [reached])
  | releaseFailed prepared up tun noKillswitch stuck =>
      refine iff_of_true ?_ fun drops => drops.2.2.2.2.1 (prepared.verified drops.2.1)
      exact keepsPromise_of_phase (by simp [reached]) (by simp [reached])
  | connectedReleased prepared up tun noKillswitch removed =>
      refine iff_of_true ?_ fun drops => drops.2.2.2.2.1 (prepared.verified drops.2.1)
      simp [KeepsPromise, PromisesHold, established, DaemonState.inPhase, noKillswitch]
  | connectedHolding prepared up keeps =>
      refine iff_of_true ?_ fun drops => drops.2.2.2.2.1 (prepared.verified drops.2.1)
      simp +contextual [KeepsPromise, PromisesHold, established, DaemonState.inPhase]

/-- One step from a manager that keeps its promise keeps it, unless it is the
reconnect that drops the hold block. -/
theorem keepsPromise_step {input : Input} (good : KeepsPromise manager) :
    KeepsPromise (step manager input) ↔ ¬DropsHoldAt manager input := by
  have faced : KeepsPromise (manager.face input.answers) := good
  rcases input with ⟨command, answers⟩
  cases command with
  | connect request => exact keepsPromise_connect faced
  | disconnect =>
      refine iff_of_true ?_ (by simp [DropsHoldAt])
      apply keepsPromise_of_phase <;> rw [step, execute, disconnect_state] <;>
        split <;> simp [DaemonState.inPhase]
  | updateSplit applications =>
      rcases @updateSplit_frame (manager.face answers) applications with
        ⟨splitActive, calls, _, same⟩
      refine iff_of_true ?_ (by simp [DropsHoldAt])
      rw [step, execute, same]
      exact faced
  | reconcileHealth =>
      refine iff_of_true ?_ (by simp [DropsHoldAt])
      by_cases died : Died (manager.face answers)
      · rw [step, execute, reconcileHealth_died died]
        intro promises
        refine faced (.inr ⟨died.1, ?_⟩)
        cases blocks : (manager.face answers).blockOnFailure with
        | true => rfl
        | false =>
            revert promises
            simp only [PromisesHold, blocks]
            split <;> simp [DaemonState.inPhase]
      · rw [step, execute, reconcileHealth_idle died]
        exact faced
  | markRecoveryRequired =>
      refine iff_of_true ?_ (by simp [DropsHoldAt])
      exact keepsPromise_of_phase (by simp [step, execute, markRecoveryRequired])
        (by simp [step, execute, markRecoveryRequired])

end Step

/-- The runs in which every state keeps the kill switch's promise are exactly
those in which no reconnect drops the hold block. -/
theorem killSwitch_holds_iff (inputs : List Input) :
    Always step KeepsPromise fresh inputs ↔
      EveryStep step (fun manager input => ¬DropsHoldAt manager input) fresh inputs :=
  always_iff_everyStep_self (fun _ _ good => keepsPromise_step good) inputs fresh
    (by decide)

/-- Connect with the kill switch on, fail to verify the hold block of a
reconnect, then notice that Xray has died: the manager reports `Blocking` with
nothing blocked. -/
theorem killSwitch_dropped :
    ¬∀ inputs : List Input, Always step KeepsPromise fresh inputs := by
  intro always
  exact absurd (always
    [⟨.connect (tunRequest true), failing []⟩,
      ⟨.connect (tunRequest true), failing [.verifyHold]⟩,
      ⟨.reconcileHealth, failing []⟩]) (by decide)

/-! ## One reconnect -/

/-- The backend calls a connect makes, in order. -/
def connectTrace (manager : AbstractManager) (request : ConnectRequest) : List Call :=
  (connect AbstractBackend.api request manager).2.backend.calls.drop
    manager.backend.calls.length

/-- A call of `stop_data_plane`. -/
def isStop (call : Call) : Bool :=
  call.action = .stopPreservingSplit || call.action = .stopFully

/-- A call of `remove_hold_block`. -/
def isRemoval (call : Call) : Bool := call.action = .removeHold

/-- A call that returned `Ok`. -/
def Succeeded (action : Action) (call : Call) : Prop := call = ⟨action, true⟩

section Reconnect

variable {manager : AbstractManager} {request : ConnectRequest}

/-- The hold block is verified before anything is stopped, and nothing lifts it
until the new connection is verified. -/
structure NoGap (trace : List Call) : Prop where
  installed : PrecededBy (Succeeded .installHold) (isStop · = true) trace
  verified : PrecededBy (Succeeded .verifyHold) (isStop · = true) trace
  covered : PrecededBy (Succeeded .verifyConnection) (isRemoval · = true)
    (afterFirst isStop trace)

/-- A trace that stops nothing leaves no gap. -/
theorem noGap_of_no_stop {trace : List Call} (none : ∀ call ∈ trace, isStop call = false) :
    NoGap trace := by
  have never : ∀ call ∈ trace, ¬(isStop call = true) := by
    intro call member
    simp [none call member]
  refine ⟨precededBy_of_untargeted never, precededBy_of_untargeted never, ?_⟩
  rw [afterFirst_of_unmarked none]
  exact precededBy_nil

/-- A guarded trace leaves no gap if what follows the first stop keeps the hold
block until the connection is verified. -/
theorem noGap_guarded {ok : Bool} {rest : List Call}
    (covered : PrecededBy (Succeeded .verifyConnection) (isRemoval · = true) rest) :
    NoGap ([⟨.validate, true⟩, ⟨.installHold, true⟩, ⟨.verifyHold, true⟩,
      ⟨.stopPreservingSplit, ok⟩] ++ rest) := by
  refine ⟨?_, ?_, ?_⟩ <;> simp [isStop, Succeeded]
  exact covered

theorem preludeCalls_reconnect (connected : manager.state.phase = .connected)
    (tun : request.mode = .tun) :
    preludeCalls manager request =
      [⟨.validate, true⟩, ⟨.installHold, true⟩, ⟨.verifyHold, true⟩,
        ⟨.stopPreservingSplit, true⟩] := by
  simp [preludeCalls, guardCalls, wasConnected, connected, tun]

/-- Bringing the data plane up lifts nothing and stops nothing. -/
theorem mem_bringUpCalls {answers : Answers} {call : Call}
    (member : call ∈ bringUpCalls answers) :
    call.action = .start ∨ call.action = .activate ∨ call.action = .verifyConnection := by
  revert member
  rw [bringUpCalls]
  cases answers.failure .start <;> cases answers.failure .activate <;>
    simp +contextual [or_imp]

theorem bringUpCalls_verified {answers : Answers} :
    ⟨.verifyConnection, true⟩ ∈ bringUpCalls answers ↔ bringUpFailure answers = none := by
  rw [bringUpCalls, bringUpFailure]
  cases answers.failure .start <;> cases answers.failure .activate <;>
    cases answers.failure .verifyConnection <;> simp

theorem bringUpCalls_not_removal {answers : Answers} :
    ∀ call ∈ bringUpCalls answers, ¬(isRemoval call = true) := by
  intro call member
  rcases mem_bringUpCalls member with start | activate | verify <;> simp_all [isRemoval]

theorem connectTrace_of_calls {outcome : Outcome DaemonState AbstractManager}
    {made : List Call}
    (equal : connect AbstractBackend.api request manager = outcome)
    (calls : outcome.2.backend.calls = manager.backend.calls ++ made) :
    connectTrace manager request = made := by
  simp [connectTrace, equal, calls]

/-- How a reconnect over a TUN ends, by what it has called: before anything is stopped,
when the old data plane does not stop, when the new one does not come up, or with a
verified connection. -/
inductive ReconnectEnd (manager : AbstractManager) (request : ConnectRequest) : Prop
  | untouched (none : ∀ call ∈ connectTrace manager request, isStop call = false)
  | notStopped
      (trace : connectTrace manager request = guardCalls request ++
        [⟨.stopPreservingSplit, false⟩])
      (phase : (connect AbstractBackend.api request manager).2.state.phase = .blocking)
  | notUp (ok : Bool)
      (trace : connectTrace manager request = preludeCalls manager request ++
        bringUpCalls manager.backend.answers ++ [⟨.stopFully, ok⟩])
      (phase : (connect AbstractBackend.api request manager).2.state.phase = .blocking ∨
        (connect AbstractBackend.api request manager).2.state.phase = .recoveryRequired)
  | verified (ending : List Call) (up : bringUpFailure manager.backend.answers = none)
      (trace : connectTrace manager request = preludeCalls manager request ++
        bringUpCalls manager.backend.answers ++ ending)

theorem reconnect_end (connected : manager.state.phase = .connected)
    (tun : request.mode = .tun) : ReconnectEnd manager request := by
  have exit := @connect_exit manager request
  generalize reached : connect AbstractBackend.api request manager = outcome at exit
  have early {made : List Call} (trace : connectTrace manager request = made)
      (none : ∀ call ∈ made, isStop call = false) : ReconnectEnd manager request :=
    .untouched (trace ▸ none)
  cases exit with
  | validateFailed failed =>
      exact early (connectTrace_of_calls reached rfl) (by simp [isStop])
  | installFailed validated tun failed =>
      exact early (connectTrace_of_calls reached rfl) (by simp [isStop])
  | holdUnverified validated tun installed failed removed =>
      exact early (connectTrace_of_calls reached rfl) (by simp [isStop])
  | holdStuck validated tun installed failed stuck =>
      exact early (connectTrace_of_calls reached rfl) (by simp [isStop])
  | stopFailed guarded connected failed =>
      apply ReconnectEnd.notStopped (connectTrace_of_calls reached rfl)
      simp [reached, AbstractManager.reached, tun]
  | cleanupFailed prepared failed dirty =>
      apply ReconnectEnd.notUp false (connectTrace_of_calls reached rfl)
      exact .inr (by rw [reached]; rfl)
  | heldBack prepared failed stopped held =>
      apply ReconnectEnd.notUp true (connectTrace_of_calls reached rfl)
      exact .inl (by rw [reached]; rfl)
  | released prepared failed stopped tun notHeld =>
      exact absurd ⟨tun, .inl (by simp [wasConnected, connected])⟩ notHeld
  | unguarded prepared failed stopped proxy => exact absurd tun proxy
  | releaseFailed prepared up tun noKillswitch stuck =>
      exact .verified _ up (connectTrace_of_calls reached rfl)
  | connectedReleased prepared up tun noKillswitch removed =>
      exact .verified _ up (connectTrace_of_calls reached rfl)
  | connectedHolding prepared up keeps =>
      apply ReconnectEnd.verified [] up
      rw [connectTrace_of_calls reached rfl, List.append_nil]

/-- A reconnect over a TUN leaves no gap. -/
theorem noGap_connect (connected : manager.state.phase = .connected)
    (tun : request.mode = .tun) : NoGap (connectTrace manager request) := by
  have prelude := preludeCalls_reconnect connected tun
  cases reconnect_end connected tun with
  | untouched none => exact noGap_of_no_stop none
  | notStopped trace phase =>
      rw [trace]
      simpa [guardCalls, tun] using @noGap_guarded false [] precededBy_nil
  | notUp ok trace phase =>
      rw [trace, prelude, List.append_assoc]
      apply noGap_guarded
      apply precededBy_of_untargeted
      intro call member
      rcases List.mem_append.mp member with up | last
      · exact bringUpCalls_not_removal call up
      · rw [List.mem_singleton.mp last]
        simp [isRemoval]
  | verified ending up trace =>
      rw [trace, prelude, List.append_assoc]
      apply noGap_guarded
      apply precededBy_append bringUpCalls_not_removal
      exact ⟨_, bringUpCalls_verified.mpr up, rfl⟩

/-- The manager after a connect still blocks, or asks for recovery, and the hold
block was not lifted once it had been verified. -/
def StaysHeld (manager : AbstractManager) (trace : List Call) : Prop :=
  (manager.state.phase = .blocking ∨ manager.state.phase = .recoveryRequired) ∧
    ∀ call ∈ afterFirst (fun call => decide (call = ⟨.verifyHold, true⟩)) trace,
      isRemoval call = false

/-- A reconnect that stops the old data plane and does not verify the new one stays
held. -/
theorem staysHeld_connect (connected : manager.state.phase = .connected)
    (tun : request.mode = .tun)
    (stopped : ∃ call ∈ connectTrace manager request, isStop call = true)
    (unverified : ⟨.verifyConnection, true⟩ ∉ connectTrace manager request) :
    StaysHeld (connect AbstractBackend.api request manager).2
      (connectTrace manager request) := by
  cases reconnect_end connected tun with
  | untouched none =>
      rcases stopped with ⟨call, member, stops⟩
      rw [none call member] at stops
      cases stops
  | notStopped trace phase =>
      rw [trace]
      exact ⟨.inl phase, by simp [guardCalls, tun, isRemoval]⟩
  | notUp ok trace phase =>
      refine ⟨phase, ?_⟩
      rw [trace, preludeCalls_reconnect connected tun]
      intro call member
      simp only [List.cons_append, List.nil_append, afterFirst_cons, Call.mk.injEq,
        reduceCtorEq, and_true, decide_false, decide_true, if_true, Bool.false_eq_true,
        if_false, List.mem_cons, List.mem_append, List.not_mem_nil, or_false] at member
      rcases member with rfl | up | rfl
      · rfl
      · simpa using bringUpCalls_not_removal call up
      · rfl
  | verified ending up trace =>
      rw [trace] at unverified
      exact absurd (by simp [bringUpCalls_verified.mpr up]) unverified

/-- A TUN reconnect leaves no traffic gap: the old data plane is stopped only
behind a verified hold block, the block is not lifted before the new connection
is verified, and a reconnect that fails in between stays held. -/
theorem reconnect_without_gap (manager : AbstractManager) (request : ConnectRequest)
    (connected : manager.state.phase = .connected) (tun : request.mode = .tun) :
    NoGap (connectTrace manager request) ∧
      ((∃ error, (connect AbstractBackend.api request manager).1 = .error error) →
        (∃ call ∈ connectTrace manager request, isStop call = true) →
        ⟨.verifyConnection, true⟩ ∉ connectTrace manager request →
        StaysHeld (connect AbstractBackend.api request manager).2
          (connectTrace manager request)) :=
  ⟨noGap_connect connected tun, fun _ => staysHeld_connect connected tun⟩

/-- A reconnect whose network activation fails, as in the daemon's tests. -/
theorem reconnect_without_gap_activation_fails :
    StaysHeld
      (connect AbstractBackend.api (tunRequest false)
        (.new ⟨false, true, [], failing [.activate]⟩ .connected)).2
      (connectTrace (.new ⟨false, true, [], failing [.activate]⟩ .connected)
        (tunRequest false)) :=
  (reconnect_without_gap _ (tunRequest false) rfl rfl).2
    ⟨⟨.internal, "failed"⟩, rfl⟩ (by decide) (by decide)

end Reconnect

end AbstractManager

end Varmlen.Daemon
