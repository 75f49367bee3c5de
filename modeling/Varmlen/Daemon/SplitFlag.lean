import Varmlen.Daemon.Request
import Varmlen.Daemon.Teardown

/-!
# The reported split flag

A client reads from the daemon's state whether applications bypass the tunnel.  The
manager computes that flag from requests; the split itself is kept, rebuilt, refreshed
and dropped by the backend.  A run stays truthful precisely when it has none of three
kinds of steps, each of which leaves a flag and a split that disagree.
-/

namespace Varmlen.Daemon

open Foundation.Effect Foundation.Run

namespace System

open LifecycleManager

/-- The backend holds a split that is active. -/
def splitLive (backend : SystemLifecycleBackend) : Bool :=
  backend.split.any fun split => split.status == .active

/-- While connected, the flag says whether a split is live. -/
def FlagReal (manager : Manager) : Prop :=
  manager.state.phase = .connected →
    manager.state.splitActive = splitLive manager.backend.backend

instance (manager : Manager) : Decidable (FlagReal manager) :=
  inferInstanceAs (Decidable (_ → _))

/-- Every split that is held is active. -/
def HeldActive (system : System) : Prop :=
  ∀ split, system.backend.split = some split → split.status = .active

/-! ## When the flag and the split disagree -/

/-- A connect is turned away before the old data plane is touched. -/
def TurnedAway (request : ConnectRequest) (answers : SystemAnswers) : Prop :=
  answers.validate ≠ none ∨
    (request.mode = .tun ∧
      (answers.holdUp ≠ none ∨ (answers.holdInspection ≠ none ∧ answers.holdDown = none)))

/-- Nothing that is recorded withstands a stop that leaves the split alone. -/
structure Stops (answers : StopAnswers) (system : System) : Prop where
  dns : system.backend.dnsActive = true → answers.removeDns = none
  routes : system.backend.mode = some .tun → answers.helperExists = true →
    answers.routeDown = none
  xray : ∀ pid, system.backend.xray = some pid → pid ∈ system.world.processes →
    answers.kill = none

/-- A connect in proxy mode finds nothing in its way. -/
structure ProxyComesUp (manager : Manager) (answers : SystemAnswers) : Prop where
  valid : answers.validate = none
  stops : manager.state.phase = .connected → Stops (answers.stop true) manager.backend
  spawned : answers.spawn = none
  alive : answers.aliveWhenReady = true
  ready : answers.readyInTime = true
  stillAlive : answers.aliveAtVerification = true

/-- Some of the split cannot be taken down. -/
def RollbackFails (answers : RollbackAnswers) (split : SystemSplitBackend) : Prop :=
  (split.directDns = true ∧ answers.stopDirectDns ≠ none) ∨
    (split.routingActive = true ∧ answers.removeRouting = .reported)

/-- A connect over a split: no reconnect is turned away, and no proxy comes up. -/
def ConnectKept (request : ConnectRequest) (answers : SystemAnswers) (manager : Manager) :
    Prop :=
  ¬(manager.state.phase = .connected ∧ TurnedAway request answers) ∧
    ¬(request.mode = .proxy ∧ ProxyComesUp manager answers)

/-- The steps that keep the flag truthful over a split.  An edit to no exceptions at all
must not fail. -/
def FlagKept (manager : Manager) (input : Input) : Prop :=
  ∀ split, manager.backend.backend.split = some split →
    match input.command with
    | .connect request => ConnectKept request input.answers manager
    | .updateSplit applications =>
        ¬(manager.state.phase = .connected ∧ applications = [] ∧
          RollbackFails input.answers.dropSplit split.backend)
    | _ => True

/-! ## What the backend does to the split -/

section Backend

variable {system : System} {request : ConnectRequest}

theorem removeDns_frame (failure : Option DaemonError) :
    ∃ dnsActive dnsTable, (removeDns failure system).2 = { system with
      backend := { system.backend with dnsActive }
      world := { system.world with dnsTable } } := by
  rw [removeDns]
  split
  next =>
    cases failure with
    | none => exact ⟨_, _, rfl⟩
    | some error => exact ⟨_, _, rfl⟩
  next => exact ⟨_, _, rfl⟩

theorem removeDns_ok_iff (failure : Option DaemonError) :
    (removeDns failure system).1 = .ok () ↔
      (system.backend.dnsActive = true → failure = none) := by
  rw [removeDns]
  cases system.backend.dnsActive with
  | false => simp
  | true => cases failure <;> simp [andThen, failing]

theorem routeDown_frame (failure : Option DaemonError) :
    ∃ tunRoutes, (routeDown failure system).2 = { system with
      world := { system.world with tunRoutes } } := by
  cases failure with
  | none => exact ⟨_, rfl⟩
  | some error => exact ⟨_, rfl⟩

theorem routeDown_ok_iff (failure : Option DaemonError) :
    (routeDown failure system).1 = .ok () ↔ failure = none := by
  cases failure <;> simp [routeDown, failing]

theorem terminateXray_frame (failure : Option String) :
    ∃ processes, (terminateXray failure system).2 = { system with
      backend := { system.backend with xray := none }
      world := { system.world with processes } } := by
  rcases system with ⟨⟨ownerUid, xray, mode, dnsActive, held, splitApps⟩, world, answers⟩
  rw [terminateXray]
  cases xray with
  | none => exact ⟨world.processes, rfl⟩
  | some pid =>
      dsimp only
      split
      next => exact ⟨_, rfl⟩
      next =>
        cases failure with
        | none => exact ⟨_, rfl⟩
        | some error => exact ⟨_, rfl⟩

theorem terminateXray_ok_iff (failure : Option String) :
    (terminateXray failure system).1 = .ok () ↔
      ∀ pid, system.backend.xray = some pid → pid ∈ system.world.processes →
        failure = none := by
  rw [terminateXray]
  cases given : system.backend.xray with
  | none => simp
  | some pid =>
      dsimp only
      by_cases alive : pid ∈ system.world.processes
      · cases failure <;> simp [alive]
      · simp [alive]

/-- The part of a stop that takes the routes down. -/
theorem routes_frame (answers : StopAnswers) :
    ∃ tunRoutes, (if system.backend.mode = some .tun ∧ answers.helperExists = true then
        routeDown answers.routeDown system
      else (.ok (), system)).2 =
      { system with world := { system.world with tunRoutes } } := by
  split
  next => exact routeDown_frame answers.routeDown
  next => exact ⟨system.world.tunRoutes, rfl⟩

theorem routes_ok_iff (answers : StopAnswers) :
    (if system.backend.mode = some .tun ∧ answers.helperExists = true then
        routeDown answers.routeDown system
      else (.ok (), system)).1 = .ok () ↔
      (system.backend.mode = some .tun → answers.helperExists = true →
        answers.routeDown = none) := by
  split
  next down => simp [routeDown_ok_iff, down.1, down.2]
  next kept =>
    simp only [true_iff]
    intro tun present
    exact absurd ⟨tun, present⟩ kept

/-- A stop that leaves the split alone succeeds when nothing withstands it. -/
theorem stopDataPlane_ok_iff :
    (stopDataPlane true system).1 = .ok () ↔ Stops (system.answers.stop true) system := by
  rw [stopDataPlane]
  dsimp only [if_true]
  rw [firstError_eq_ok, firstError_eq_ok, firstError_eq_ok, removeDns_ok_iff, routes_ok_iff,
    terminateXray_ok_iff]
  rcases @removeDns_frame system (system.answers.stop true).removeDns with
    ⟨dnsActive, dnsTable, dnsSame⟩
  rw [if_pos rfl, dnsSame]
  rcases @routes_frame { system with
    backend := { system.backend with dnsActive }
    world := { system.world with dnsTable } } (system.answers.stop true) with
    ⟨tunRoutes, routesSame⟩
  rw [routesSame]
  constructor
  · rintro ⟨_, dns, routes, xray⟩
    exact ⟨dns, routes, xray⟩
  · intro stops
    exact ⟨rfl, stops.dns, stops.routes, stops.xray⟩

theorem splitLive_eq (held : HeldActive system) :
    splitLive system.backend = system.backend.split.isSome := by
  rw [splitLive]
  cases given : system.backend.split with
  | none => rfl
  | some split => simp [held split given]

theorem rollback_ok_iff (answers : RollbackAnswers) (site : SystemSplitBackend.Site) :
    (SystemSplitBackend.rollback answers site).1 = .ok () ↔ ¬RollbackFails answers site.1 := by
  rcases site with ⟨split, world⟩
  rcases split with ⟨ownerUid, cgroup, selectors, watcher, routingActive, directDns, reconciler⟩
  rcases answers with ⟨stopDirectDns, removeRouting⟩
  simp only [SystemSplitBackend.rollback, RollbackFails, SystemSplitBackend.stopDirectDns,
    SystemSplitBackend.removeRouting, SystemSplitBackend.stopReconciler]
  cases directDns <;> cases routingActive <;> cases stopDirectDns <;> cases removeRouting <;>
    simp [failing]

theorem removeSplit_frame (answers : RollbackAnswers) :
    (removeSplit answers system).2.backend.split = none ∧
      (removeSplit answers system).2.answers = system.answers := by
  rw [removeSplit]
  cases given : system.backend.split with
  | none => exact ⟨given, rfl⟩
  | some split =>
      dsimp only
      generalize SystemSplitBackend.rollback answers (split.backend, system.world) = outcome
      rcases outcome with ⟨result, site⟩
      cases result <;> exact ⟨rfl, rfl⟩

/-- A stop drops the split unless it is to be preserved. -/
theorem stopDataPlane_split (preserveSplit : Bool) :
    (stopDataPlane preserveSplit system).2.backend.split =
        (if preserveSplit then system.backend.split else none) ∧
      (stopDataPlane preserveSplit system).2.answers = system.answers := by
  rw [stopDataPlane]
  dsimp only
  have first : (if preserveSplit then ((.ok (), system) : Called Unit)
        else removeSplit (system.answers.stop preserveSplit).rollback system).2.backend.split =
        (if preserveSplit then system.backend.split else none) ∧
      (if preserveSplit then ((.ok (), system) : Called Unit)
        else removeSplit (system.answers.stop preserveSplit).rollback system).2.answers =
        system.answers := by
    cases preserveSplit with
    | true => exact ⟨rfl, rfl⟩
    | false => exact removeSplit_frame (system.answers.stop false).rollback
  generalize (if preserveSplit then ((.ok (), system) : Called Unit)
    else removeSplit (system.answers.stop preserveSplit).rollback system) = start at first
  rcases start with ⟨result, start⟩
  rcases @removeDns_frame start (system.answers.stop preserveSplit).removeDns with
    ⟨dnsActive, dnsTable, dnsSame⟩
  rw [dnsSame]
  rcases @routes_frame { start with
    backend := { start.backend with dnsActive }
    world := { start.world with dnsTable } } (system.answers.stop preserveSplit) with
    ⟨tunRoutes, routesSame⟩
  rw [routesSame]
  rcases @terminateXray_frame { start with
    backend := { start.backend with dnsActive }
    world := { start.world with dnsTable, tunRoutes } }
    (system.answers.stop preserveSplit).kill with ⟨processes, xraySame⟩
  rw [xraySame]
  exact first

theorem removeSplit_ok_iff (answers : RollbackAnswers) :
    (removeSplit answers system).1 = .ok () ↔
      ∀ split, system.backend.split = some split → ¬RollbackFails answers split.backend := by
  rw [removeSplit]
  cases given : system.backend.split with
  | none => simp
  | some split =>
      simp only [Option.some.injEq, forall_eq']
      rw [← rollback_ok_iff answers (split.backend, system.world)]
      generalize SystemSplitBackend.rollback answers (split.backend, system.world) = outcome
      rcases outcome with ⟨result, site⟩
      cases result <;> simp [mapError]

theorem active_of_some {split : SplitManager SystemSplitBackend}
    (active : split.status = .active) :
    ∀ held, some split = some held → held.status = .active := by
  intro held same
  cases same
  exact active

/-- A split that has been laid is active. -/
theorem applySplit_ends (applications : List String) :
    Ends (fun _ next => HeldActive next ∧ next.backend.split.isSome = true)
      (fun _ next => next.backend = system.backend) (applySplit applications system) := by
  rw [applySplit, SplitManager.apply]
  generalize SplitManager.lay _ _ _ = outcome
  rcases outcome with ⟨result, backend, world⟩
  cases result with
  | error error => exact rfl
  | ok value => exact ⟨active_of_some rfl, rfl⟩

theorem refreshRouting_status {answers : SplitAnswers} (world : World)
    (split : SplitManager SystemSplitBackend) :
    (SplitManager.refreshRouting (SystemSplitBackend.api answers) split world).2.1.status =
      split.status := by
  rw [SplitManager.refreshRouting]
  split <;> rfl

theorem heldActive_of_none (none : system.backend.split = none) : HeldActive system := by
  intro split held
  rw [none] at held
  cases held

theorem heldActive_of_split {next : System} (held : HeldActive system)
    (same : next.backend.split = system.backend.split) : HeldActive next := by
  intro split given
  exact held split (same ▸ given)

/-- Dropping what the request does not want leaves a split for its exceptions alone. -/
theorem dropSplit_ends (held : HeldActive system) :
    Ends (fun _ next => HeldActive next ∧
        (next.backend.split.isSome = true → request.excludedApps.isEmpty = false))
      (fun _ next => HeldActive next)
      (if system.backend.split.isSome ∧ (request.excludedApps.isEmpty ∨
          decide (system.backend.splitApps ≠ request.excludedApps)) then
        removeSplit system.answers.dropSplit system
      else (.ok (), system)) := by
  split
  next =>
    have dropped := (@removeSplit_frame system system.answers.dropSplit).1
    generalize removeSplit system.answers.dropSplit system = outcome at dropped
    rcases outcome with ⟨result, next⟩
    have free : HeldActive next := heldActive_of_none dropped
    have gone : next.backend.split = none := dropped
    cases result with
    | error error => exact free
    | ok value => exact ⟨free, by simp [gone]⟩
  next kept =>
    constructor
    · exact held
    · intro present
      cases given : request.excludedApps.isEmpty with
      | false => rfl
      | true => exact absurd ⟨present, .inl given⟩ kept

/-- Afterwards a split is held precisely when the request has exceptions. -/
theorem settleSplit_ends (held : HeldActive system) :
    Ends (fun _ next => HeldActive next ∧
        next.backend.split.isSome = !request.excludedApps.isEmpty)
      (fun _ next => HeldActive next) (settleSplit request system) := by
  rw [settleSplit]
  apply ends_andThen (dropSplit_ends held)
  intro _ next dropped
  cases given : next.backend.split with
  | none =>
      dsimp only
      cases empty : request.excludedApps.isEmpty with
      | true =>
          rw [if_pos rfl]
          exact ⟨dropped.1, by rw [given]; rfl⟩
      | false =>
          rw [if_neg Bool.false_ne_true]
          apply ends_mono (applySplit_ends request.excludedApps)
          · intro _ _ laid
            exact laid
          · intro _ later same
            exact heldActive_of_split dropped.1 (by rw [same])
  | some split =>
      have wanted := dropped.2 (by rw [given]; rfl)
      have status := @refreshRouting_status next.answers.laySplit next.world split
      dsimp only
      generalize SplitManager.refreshRouting _ split next.world = outcome at status
      rcases outcome with ⟨result, refreshed, world⟩
      have active := active_of_some (status.trans (dropped.1 split given))
      cases result with
      | error error => exact active
      | ok value => exact ⟨active, by rw [wanted]; rfl⟩

/-- A split that is active stays so whatever becomes of its new plan. -/
theorem updatePlan_ends {answers : SplitAnswers} {split : SplitManager SystemSplitBackend}
    (active : split.status = .active) (plan : SplitPlan) (world : World) :
    Ends (fun live next => live = true ∧ next.1.status = .active)
      (fun _ next => next.1.status = .active)
      (SplitManager.updatePlan (SystemSplitBackend.api answers) plan split world) := by
  rw [SplitManager.updatePlan, if_neg (not_not_intro active)]
  generalize (SystemSplitBackend.api answers).updatePlan plan (split.backend, world) = outcome
  rcases outcome with ⟨result, backend, world⟩
  cases result with
  | error error => exact active
  | ok value => exact ⟨rfl, active⟩

/-- An edited list leaves a split for its applications; a failure leaves the split as it
was, unless it was to be dropped. -/
theorem updateSplit_ends (held : HeldActive system) (applications : List String) :
    Ends (fun live next => HeldActive next ∧ next.backend.split.isSome = live)
      (fun _ next => HeldActive next ∧ next.backend.split.isSome =
        (system.backend.split.isSome && !applications.isEmpty))
      (updateSplit applications system) := by
  rw [updateSplit]
  dsimp only
  cases applications with
  | nil =>
      have dropped := (@removeSplit_frame system system.answers.dropSplit).1
      rw [if_pos List.isEmpty_nil]
      generalize removeSplit system.answers.dropSplit system = outcome at dropped
      rcases outcome with ⟨result, next⟩
      have free : HeldActive next := heldActive_of_none dropped
      have gone : next.backend.split = none := dropped
      cases result with
      | error error => exact ⟨free, by simp [gone]⟩
      | ok value => exact ⟨free, by rw [gone]; rfl⟩
  | cons first others =>
      rw [if_neg (by simp)]
      cases given : system.backend.split with
      | none =>
          have laid := ends_mono (applySplit_ends (first :: others)) (fun _ _ laid => laid)
            fun (_ : DaemonError) next (same : next.backend = system.backend) =>
              show HeldActive next ∧ next.backend.split.isSome = false from
                ⟨heldActive_of_split held (by rw [same]), by rw [same, given]; rfl⟩
          exact ends_andThen laid fun _ _ laid => laid
      | some split =>
          have planned := @updatePlan_ends system.answers.laySplit split (held split given)
            ⟨system.backend.ownerUid, first :: others⟩ system.world
          dsimp only
          generalize SplitManager.updatePlan _ _ split system.world = outcome at planned
          rcases outcome with ⟨result, edited, world⟩
          cases result with
          | error error => exact ⟨active_of_some planned, rfl⟩
          | ok live =>
              rcases planned with ⟨rfl, active⟩
              exact ⟨active_of_some active, rfl⟩

theorem routeUp_backend : (routeUp system).2.backend = system.backend := by
  rw [routeUp, failing_state]

theorem installDns_backend : (installDns system).2.backend = system.backend := by
  rw [installDns]
  cases system.answers.dnsApply.failure with
  | some error => rfl
  | none =>
      dsimp only [failing, andThen]
      split
      next => rfl
      next => split <;> rfl

theorem activateNetwork_ends (held : HeldActive system) (tun : request.mode = .tun) :
    Ends (fun _ next => HeldActive next ∧
        next.backend.split.isSome = !request.excludedApps.isEmpty)
      (fun _ next => HeldActive next) (activateNetwork request system) := by
  rw [activateNetwork, if_neg (by simp [tun])]
  have routed : HeldActive (routeUp system).2 :=
    heldActive_of_split held (by rw [routeUp_backend])
  apply ends_andThen (ends_iff_state.2 routed)
  intro _ _ routed
  apply ends_andThen (settleSplit_ends routed)
  rintro _ settled ⟨active, wanted⟩
  have same := @installDns_backend
    { settled with backend := { settled.backend with dnsActive := true } }
  generalize installDns _ = outcome at same
  rcases outcome with ⟨result, next⟩
  have split : next.backend.split = settled.backend.split := by rw [same]
  have later := heldActive_of_split active split
  cases result with
  | error error => exact later
  | ok value => exact ⟨later, by rw [split]; exact wanted⟩

theorem waitUntilReady_backend : (waitUntilReady system).2.backend = system.backend := by
  rcases @childIsRunning_frame system system.answers.aliveWhenReady with ⟨processes, same⟩
  rw [waitUntilReady]
  dsimp only
  rw [failing_state, same]

theorem startDataPlane_split :
    (startDataPlane request system).2.backend.split = system.backend.split := by
  rw [startDataPlane]
  cases system.answers.spawn with
  | some error => rfl
  | none =>
      dsimp only [failing, andThen]
      rw [waitUntilReady_backend]
      rfl

theorem verifyConnection_backend :
    (verifyConnection request system).2.backend = system.backend := by
  rcases @childIsRunning_frame system system.answers.aliveAtVerification with
    ⟨processes, same⟩
  rw [verifyConnection]
  dsimp only
  rw [same]
  split
  next => rfl
  next =>
    split
    next => rfl
    next =>
      split
      next => rfl
      next =>
        split
        next => rfl
        next => rw [failing_state]

/-- What lets a new Xray come up in proxy mode. -/
def XrayComesUp (answers : SystemAnswers) : Prop :=
  answers.spawn = none ∧ answers.aliveWhenReady = true ∧ answers.readyInTime = true ∧
    answers.aliveAtVerification = true

end Backend

/-! ## What the manager makes of it -/

section Connect

variable {manager : Manager} {request : ConnectRequest}

theorem bringUp_tun (held : HeldActive manager.backend) (tun : request.mode = .tun) :
    Ends (fun _ next => HeldActive next.backend ∧
        next.backend.backend.split.isSome = !request.excludedApps.isEmpty)
      (fun _ next => HeldActive next.backend) (bringUp api request manager) := by
  rw [bringUp]
  have started : HeldActive (manager.call (api.startDataPlane request)).2.backend :=
    heldActive_of_split held startDataPlane_split
  generalize manager.call (api.startDataPlane request) = outcome at started
  rcases outcome with ⟨result, next⟩
  cases result with
  | error error => exact started
  | ok value =>
      have activated := ends_call (activateNetwork_ends started tun)
      dsimp only
      change Ends _ _ (next.call (api.activateNetwork request)) at activated
      generalize next.call (api.activateNetwork request) = outcome at activated
      rcases outcome with ⟨result, next⟩
      cases result with
      | error error => exact activated
      | ok value =>
          rcases activated with ⟨active, wanted⟩
          dsimp only
          have split : (next.call (api.verifyConnection request)).2.backend.backend.split =
              next.backend.backend.split :=
            congrArg SystemLifecycleBackend.split verifyConnection_backend
          generalize next.call (api.verifyConnection request) = outcome at split
          rcases outcome with ⟨result, later⟩
          have kept : HeldActive later.backend := heldActive_of_split active split
          cases result with
          | error error => exact kept
          | ok value => exact ⟨kept, (congrArg Option.isSome split).trans wanted⟩

theorem bringUp_proxy (proxy : request.mode = .proxy) :
    Ends (fun _ next => XrayComesUp manager.backend.answers ∧
        next.backend.backend.split = manager.backend.backend.split)
      (fun _ _ => ¬XrayComesUp manager.backend.answers) (bringUp api request manager) := by
  rcases manager with ⟨⟨backend, world, answers⟩, state, blockOnFailure⟩
  dsimp only
  rw [XrayComesUp]
  cases spawned : answers.spawn <;> cases alive : answers.aliveWhenReady <;>
    cases ready : answers.readyInTime <;> cases stillAlive : answers.aliveAtVerification <;>
    simp [bringUp, call, api, startDataPlane, andThen, failing, waitUntilReady, adoptXray,
      childIsRunning, activateNetwork, verifyConnection, Ends, *]

theorem abandon_phase (wasConnected : Bool) :
    (abandon api request wasConnected manager).state.phase ≠ .connected := by
  rw [abandon]
  split
  next => exact ConnectionPhase.noConfusion
  next =>
    split
    next => exact ConnectionPhase.noConfusion
    next => split <;> exact ConnectionPhase.noConfusion

theorem flagReal_of_phase (elsewhere : manager.state.phase ≠ .connected) : FlagReal manager :=
  fun connected => absurd connected elsewhere

theorem removeHoldBlock_backend (system : System) :
    (removeHoldBlock system).2.backend = system.backend := by
  rw [removeHoldBlock, runNetHelper]
  cases system.answers.holdDown <;> rfl

theorem commit_tun (held : HeldActive manager.backend)
    (wanted : manager.backend.backend.split.isSome = !request.excludedApps.isEmpty) :
    FlagReal (commit api request manager).2 := by
  have live : (!request.excludedApps.isEmpty) = splitLive manager.backend.backend :=
    wanted.symm.trans (splitLive_eq held).symm
  rw [commit]
  dsimp only
  split
  next =>
    have same : (manager.call api.removeHoldBlock).2.backend.backend =
        manager.backend.backend := removeHoldBlock_backend manager.backend
    rw [← same] at live
    generalize manager.call api.removeHoldBlock = outcome at live
    rcases outcome with ⟨result, next⟩
    cases result with
    | error error => exact flagReal_of_phase ConnectionPhase.noConfusion
    | ok value => exact fun _ => live
  next => exact fun _ => live

theorem commit_proxy (held : HeldActive manager.backend) (proxy : request.mode = .proxy)
    (unexcepted : request.excludedApps = []) :
    FlagReal (commit api request manager).2 ↔ manager.backend.backend.split = none := by
  rw [commit]
  dsimp only
  rw [if_neg (by simp [proxy]), FlagReal]
  dsimp only [DaemonState.inPhase]
  rw [splitLive_eq held, unexcepted]
  cases manager.backend.backend.split <;> simp

theorem establish_tun (held : HeldActive manager.backend) (tun : request.mode = .tun)
    (wasConnected : Bool) : FlagReal (establish api request wasConnected manager).2 := by
  rw [establish]
  have brought := bringUp_tun held tun
  generalize bringUp api request manager = outcome at brought
  rcases outcome with ⟨result, next⟩
  cases result with
  | error error => exact flagReal_of_phase (abandon_phase wasConnected)
  | ok value => exact commit_tun brought.1 brought.2

theorem establish_proxy (held : HeldActive manager.backend) (proxy : request.mode = .proxy)
    (unexcepted : request.excludedApps = []) (wasConnected : Bool) :
    FlagReal (establish api request wasConnected manager).2 ↔
      (XrayComesUp manager.backend.answers → manager.backend.backend.split = none) := by
  rw [establish]
  have brought := @bringUp_proxy manager request proxy
  generalize bringUp api request manager = outcome at brought
  rcases outcome with ⟨result, next⟩
  cases result with
  | error error =>
      have real : FlagReal (abandon api request wasConnected next) :=
        flagReal_of_phase (abandon_phase wasConnected)
      exact ⟨fun _ up => absurd up brought, fun _ => real⟩
  | ok value =>
      rcases brought with ⟨up, split⟩
      dsimp only
      rw [commit_proxy (heldActive_of_split held split) proxy unexcepted, split]
      exact ⟨fun none _ => none, fun none => none up⟩

theorem replace_tun (held : HeldActive manager.backend) (tun : request.mode = .tun)
    (wasConnected : Bool) : FlagReal (replace api request wasConnected manager).2 := by
  rw [replace, stopPrevious]
  cases wasConnected with
  | false => exact establish_tun held tun false
  | true =>
      have stopped : HeldActive (manager.call (api.stopDataPlane true)).2.backend :=
        heldActive_of_split held (stopDataPlane_split true).1
      rw [if_pos rfl]
      generalize manager.call (api.stopDataPlane true) = outcome at stopped
      rcases outcome with ⟨result, next⟩
      cases result with
      | error error =>
          apply flagReal_of_phase
          dsimp only [setPhase]
          rw [if_pos tun]
          exact ConnectionPhase.noConfusion
      | ok value => exact establish_tun stopped tun true

theorem replace_proxy (held : HeldActive manager.backend) (proxy : request.mode = .proxy)
    (unexcepted : request.excludedApps = []) (wasConnected : Bool) :
    FlagReal (replace api request wasConnected manager).2 ↔
      ((wasConnected = true → Stops (manager.backend.answers.stop true) manager.backend) →
        XrayComesUp manager.backend.answers → manager.backend.backend.split = none) := by
  rw [replace, stopPrevious]
  cases wasConnected with
  | false =>
      rw [if_neg Bool.false_ne_true]
      dsimp only
      rw [establish_proxy held proxy unexcepted]
      simp
  | true =>
      have succeeds := @stopDataPlane_ok_iff manager.backend
      have kept := @stopDataPlane_split manager.backend true
      rw [if_pos rfl, call, show api.stopDataPlane = stopDataPlane from rfl]
      generalize stopDataPlane true manager.backend = outcome at succeeds kept
      rcases outcome with ⟨result, next⟩
      cases result with
      | error error =>
          have fails : ¬Stops (manager.backend.answers.stop true) manager.backend := by
            simpa using succeeds
          have real : FlagReal (LifecycleManager.setPhase { manager with backend := next }
              (if request.mode = .tun then .blocking else .recoveryRequired)) := by
            apply flagReal_of_phase
            dsimp only [setPhase]
            rw [proxy]
            exact ConnectionPhase.noConfusion
          exact ⟨fun _ stops => absurd (stops rfl) fails, fun _ => real⟩
      | ok value =>
          have stops : Stops (manager.backend.answers.stop true) manager.backend :=
            succeeds.1 rfl
          rcases kept with ⟨split, answers⟩
          dsimp only at split answers ⊢
          rw [establish_proxy (heldActive_of_split held split) proxy unexcepted, answers,
            split]
          exact ⟨fun none _ => none, fun none => none fun _ => stops⟩

/-- A connect that is turned away clears the flag, whatever the split. -/
theorem turnedAway_flag {next : Manager} {answers : SystemAnswers}
    (held : HeldActive manager.backend)
    (split : next.backend.backend.split = manager.backend.backend.split)
    (phase : next.state.phase = restoredPhase (decide (manager.state.phase = .connected)))
    (cleared : next.state.splitActive = false) (away : TurnedAway request answers)
    (unproxied : ¬(request.mode = .proxy ∧ ProxyComesUp manager answers)) :
    FlagReal next ↔ ∀ split, manager.backend.backend.split = some split →
      ConnectKept request answers manager := by
  rw [FlagReal, phase, cleared, splitLive_eq (heldActive_of_split held split), split]
  by_cases connected : manager.state.phase = .connected
  · rw [decide_eq_true connected]
    cases manager.backend.backend.split with
    | none => simp
    | some held => simp [restoredPhase, ConnectKept, connected, away]
  · rw [decide_eq_false connected]
    simp [restoredPhase, ConnectKept, connected, unproxied]

/-- A connect for a TUN that is not turned away is truthful. -/
theorem connectKept_tun {answers : SystemAnswers} (tun : request.mode = .tun)
    (passed : ¬TurnedAway request answers) : ConnectKept request answers manager := by
  constructor
  · intro ⟨_, away⟩
    exact passed away
  · intro ⟨proxy, _⟩
    rw [tun] at proxy
    cases proxy

/-- A proxy that takes over from any data plane leaves the split that is held. -/
theorem replaced_proxy {begun : Manager} (held : HeldActive manager.backend)
    (backend : begun.backend = manager.backend)
    (valid : manager.backend.answers.validate = none) (proxy : request.mode = .proxy)
    (unexcepted : request.excludedApps = []) :
    FlagReal (replace api request (decide (manager.state.phase = .connected)) begun).2 ↔
      ∀ split, manager.backend.backend.split = some split →
        ConnectKept request manager.backend.answers manager := by
  rw [replace_proxy (backend ▸ held) proxy unexcepted, backend, decide_eq_true_iff]
  constructor
  · intro none split given
    constructor
    · intro ⟨_, away⟩
      simp [TurnedAway, valid, proxy] at away
    · intro ⟨_, up⟩
      have gone := none up.stops ⟨up.spawned, up.alive, up.ready, up.stillAlive⟩
      rw [gone] at given
      cases given
  · intro kept stops ⟨spawned, alive, ready, stillAlive⟩
    cases given : manager.backend.backend.split with
    | none => rfl
    | some split =>
        exact absurd ⟨proxy, valid, stops, spawned, alive, ready, stillAlive⟩
          (kept split given).2

/-- The hold block does not go up, and what was there before is restored. -/
def HoldRefused (answers : SystemAnswers) : Prop :=
  answers.holdUp ≠ none ∨ (answers.holdInspection ≠ none ∧ answers.holdDown = none)

/-- A hold block that does not go up is refused, or is left behind for a recovery. -/
theorem raiseHold_tun (tun : request.mode = .tun) (wasConnected : Bool) :
    Ends (fun _ next => ¬HoldRefused manager.backend.answers ∧
        next.backend.backend = manager.backend.backend)
      (fun _ next => (HoldRefused manager.backend.answers ∧
          next.backend.backend = manager.backend.backend ∧
          next.state = (manager.setPhase (restoredPhase wasConnected)).state) ∨
        (¬HoldRefused manager.backend.answers ∧ next.state.phase = .recoveryRequired))
      (raiseHold api request wasConnected manager) := by
  rw [raiseHold, if_pos tun, call, show api.installHoldBlock request = installHoldBlock from rfl,
    installHoldBlock, runNetHelper, HoldRefused]
  dsimp only
  cases up : manager.backend.answers.holdUp with
  | some error => exact .inl ⟨.inl (by simp), rfl, rfl⟩
  | none =>
      dsimp only [failing, Option.map, andThen]
      rw [call, show api.verifyHoldBlock = verifyHoldBlock from rfl, verifyHoldBlock]
      dsimp only
      cases inspected : manager.backend.answers.holdInspection with
      | none => exact ⟨by simp, rfl⟩
      | some error =>
          dsimp only [failing]
          rw [call, show api.removeHoldBlock = removeHoldBlock from rfl, removeHoldBlock,
            runNetHelper]
          dsimp only
          cases down : manager.backend.answers.holdDown with
          | none => exact .inl ⟨.inr ⟨by simp, rfl⟩, rfl, rfl⟩
          | some error => exact .inr ⟨by simp, rfl⟩

/-- A valid request goes on from a manager that has only begun. -/
theorem validate_begun (valid : manager.backend.answers.validate = none)
    (wasConnected : Bool) :
    (manager.beginConnect wasConnected).call (api.validate request) =
      (.ok (), manager.beginConnect wasConnected) := by
  rw [call, show api.validate request = validate from rfl, validate]
  dsimp only [beginConnect]
  rw [valid]
  rfl

theorem connect_flag_tun (held : HeldActive manager.backend)
    (valid : manager.backend.answers.validate = none) (tun : request.mode = .tun) :
    FlagReal (connect api request manager).2 ↔
      ∀ split, manager.backend.backend.split = some split →
        ConnectKept request manager.backend.answers manager := by
  have unproxied : ¬(request.mode = .proxy ∧
      ProxyComesUp manager manager.backend.answers) := by simp [tun]
  have passed (raised : ¬HoldRefused manager.backend.answers) :
      ConnectKept request manager.backend.answers manager := by
    apply connectKept_tun tun
    rintro (invalid | ⟨_, refused⟩)
    · exact invalid valid
    · exact raised refused
  rw [connect, validate_begun valid]
  dsimp only
  have hold := @raiseHold_tun
    (manager.beginConnect (decide (manager.state.phase = .connected))) request tun
    (decide (manager.state.phase = .connected))
  generalize raiseHold api request _ (manager.beginConnect _) = outcome at hold
  rcases outcome with ⟨result, next⟩
  cases result with
  | error error =>
      rcases hold with ⟨refused, backend, state⟩ | ⟨raised, phase⟩
      · refine turnedAway_flag held (congrArg SystemLifecycleBackend.split backend) ?_ ?_ ?_
          unproxied
        · exact congrArg DaemonState.phase state
        · exact congrArg DaemonState.splitActive state
        · exact .inr ⟨tun, refused⟩
      · have real : FlagReal next :=
          flagReal_of_phase (by rw [phase]; exact ConnectionPhase.noConfusion)
        exact ⟨fun _ _ _ => passed raised, fun _ => real⟩
  | ok value =>
      have active : HeldActive next.backend :=
        heldActive_of_split held (congrArg SystemLifecycleBackend.split hold.2)
      exact ⟨fun _ _ _ => passed hold.1, fun _ => replace_tun active tun _⟩

theorem connect_flag (held : HeldActive manager.backend)
    (accepted : validateConnectRequest request = .ok ()) :
    FlagReal (connect api request manager).2 ↔
      ∀ split, manager.backend.backend.split = some split →
        ConnectKept request manager.backend.answers manager := by
  cases valid : manager.backend.answers.validate with
  | some error =>
      rw [connect, call, show api.validate request = validate from rfl, validate]
      dsimp only [beginConnect]
      rw [valid]
      refine turnedAway_flag held ?_ ?_ ?_ ?_ ?_
      · rfl
      · rfl
      · rfl
      · exact .inl (by simp [valid])
      · rintro ⟨_, up⟩
        rw [up.valid] at valid
        cases valid
  | none =>
      cases mode : request.mode with
      | proxy =>
          rw [connect, validate_begun valid]
          dsimp only
          rw [raiseHold, if_neg (by simp [mode])]
          refine replaced_proxy held ?_ valid mode (validateConnectRequest_proxy accepted mode)
          rfl
      | tun => exact connect_flag_tun held valid mode

end Connect

/-! ## The other commands -/

section Commands

variable {manager : Manager} {request : ConnectRequest}

/-- Whether an edit to no exceptions succeeds. -/
theorem updateSplit_nil_ok_iff (system : System) :
    (∃ live, (System.updateSplit [] system).1 = .ok live) ↔
      ∀ split, system.backend.split = some split →
        ¬RollbackFails system.answers.dropSplit split.backend := by
  rw [← removeSplit_ok_iff, System.updateSplit]
  dsimp only
  rw [if_pos List.isEmpty_nil]
  generalize removeSplit system.answers.dropSplit system = outcome
  rcases outcome with ⟨result, next⟩
  cases result <;> simp [andThen]

/-- An edit to no exceptions that fails drops the split and leaves the flag. -/
theorem updateSplit_nil_flag (held : HeldActive manager.backend) (real : FlagReal manager)
    (connected : manager.state.phase = .connected) :
    FlagReal (LifecycleManager.updateSplit api [] manager).2 ↔
      ∀ split, manager.backend.backend.split = some split →
        ¬RollbackFails manager.backend.answers.dropSplit split.backend := by
  have flag := (real connected).trans (splitLive_eq held)
  have edited := updateSplit_ends held []
  have emptied := updateSplit_nil_ok_iff manager.backend
  rw [LifecycleManager.updateSplit, if_neg (not_not_intro connected), call,
    show api.updateSplit [] = System.updateSplit [] from rfl, ← emptied]
  generalize System.updateSplit [] manager.backend = outcome at edited emptied
  rcases outcome with ⟨result, next⟩
  cases result with
  | error error =>
      rcases edited with ⟨active, gone⟩
      have failed : ¬∃ live, (Except.error error : Except DaemonError Bool) = .ok live := by
        rintro ⟨_, same⟩
        cases same
      have present : manager.backend.backend.split.isSome = true := by
        cases given : manager.backend.backend.split with
        | some split => rfl
        | none => exact absurd (emptied.2 (by simp [given])) failed
      refine iff_of_false ?_ failed
      intro still
      have cleared := still connected
      rw [splitLive_eq active, gone] at cleared
      simp [flag, present] at cleared
  | ok live =>
      rcases edited with ⟨active, same⟩
      refine iff_of_true ?_ ⟨live, rfl⟩
      intro _
      dsimp only
      rw [splitLive_eq active, same]

theorem updateSplit_cons_flag (held : HeldActive manager.backend) (real : FlagReal manager)
    (connected : manager.state.phase = .connected) (first : String) (others : List String) :
    FlagReal (LifecycleManager.updateSplit api (first :: others) manager).2 := by
  have flag := (real connected).trans (splitLive_eq held)
  have edited := updateSplit_ends held (first :: others)
  rw [LifecycleManager.updateSplit, if_neg (not_not_intro connected), call,
    show api.updateSplit (first :: others) = System.updateSplit (first :: others) from rfl]
  generalize System.updateSplit (first :: others) manager.backend = outcome at edited
  rcases outcome with ⟨result, next⟩
  intro _
  cases result with
  | error error =>
      rcases edited with ⟨active, same⟩
      dsimp only
      rw [splitLive_eq active, same, flag, List.isEmpty_cons, Bool.not_false, Bool.and_true]
  | ok live =>
      rcases edited with ⟨active, same⟩
      dsimp only
      rw [splitLive_eq active, same]

theorem updateSplit_flag (held : HeldActive manager.backend) (real : FlagReal manager)
    (applications : List String) :
    FlagReal (LifecycleManager.updateSplit api applications manager).2 ↔
      ∀ split, manager.backend.backend.split = some split →
        ¬(manager.state.phase = .connected ∧ applications = [] ∧
          RollbackFails manager.backend.answers.dropSplit split.backend) := by
  by_cases connected : manager.state.phase = .connected
  · cases applications with
    | nil =>
        simp only [connected, true_and]
        exact updateSplit_nil_flag held real connected
    | cons first others =>
        have kept := updateSplit_cons_flag held real connected first others
        exact iff_of_true kept fun _ _ failed => nomatch failed.2.1
  · rw [LifecycleManager.updateSplit, if_pos connected]
    exact ⟨fun _ _ _ failed => connected failed.1, fun _ => real⟩

theorem disconnect_flag : FlagReal (disconnect api manager).2 := by
  rw [disconnect]
  dsimp only
  split
  next => exact flagReal_of_phase ConnectionPhase.noConfusion
  next => exact flagReal_of_phase ConnectionPhase.noConfusion

theorem reconcileHealth_flag (real : FlagReal manager) :
    FlagReal (reconcileHealth api manager).2 := by
  rcases @childIsRunning_frame manager.backend manager.backend.answers.aliveAtCheck with
    ⟨processes, same⟩
  have alive : FlagReal { manager with
      backend := (childIsRunning manager.backend.answers.aliveAtCheck manager.backend).2 } := by
    rw [same]
    exact real
  rw [reconcileHealth]
  split
  next => exact real
  next =>
    dsimp only
    split
    next => exact alive
    next =>
      split
      next => exact flagReal_of_phase ConnectionPhase.noConfusion
      next =>
        apply flagReal_of_phase
        dsimp only [DaemonState.inPhase]
        split <;> exact ConnectionPhase.noConfusion

/-! ## Runs -/

theorem installHoldBlock_backend (system : System) :
    (installHoldBlock system).2.backend = system.backend := by
  rw [installHoldBlock, runNetHelper]
  cases system.answers.holdUp <;> rfl

theorem heldActive_stopDataPlane {system : System} (held : HeldActive system)
    (preserveSplit : Bool) : HeldActive (stopDataPlane preserveSplit system).2 := by
  have split := (@stopDataPlane_split system preserveSplit).1
  cases preserveSplit with
  | true => exact heldActive_of_split held split
  | false => exact heldActive_of_none split

theorem heldActive_activateNetwork {system : System} (held : HeldActive system) :
    HeldActive (activateNetwork request system).2 := by
  cases mode : request.mode with
  | tun =>
      have activated := activateNetwork_ends held mode
      exact ends_iff_state.1 (ends_mono activated (fun _ _ up => up.1) fun _ _ up => up)
  | proxy =>
      rw [activateNetwork, if_pos mode]
      exact held

theorem heldActive_connect (held : HeldActive manager.backend) :
    HeldActive (connect api request manager).2.backend := by
  have hold : ∀ system, HeldActive system → HeldActive (removeHoldBlock system).2 :=
    fun system held => heldActive_of_split held (by rw [removeHoldBlock_backend])
  have verify : ∀ system, HeldActive system → HeldActive (verifyConnection request system).2 :=
    fun system held => heldActive_of_split held (by rw [verifyConnection_backend])
  exact @connect_rule _ _ _ HeldActive HeldActive HeldActive HeldActive HeldActive manager
    { validate := fun system held => by
        rw [show api.validate request system = validate system from rfl, validate,
          failing_state]
        exact held
      install := fun system held =>
        heldActive_of_split held
          (congrArg SystemLifecycleBackend.split (installHoldBlock_backend system))
      verifyHold := fun system held => by
        rw [show api.verifyHoldBlock system = verifyHoldBlock system from rfl,
          verifyHoldBlock, failing_state]
        exact held
      removeEarly := hold
      stopOld := fun _ _ held => heldActive_stopDataPlane held true
      free := fun _ _ held => held
      start := fun _ held =>
        ends_iff_state.2 (heldActive_of_split held startDataPlane_split)
      activate := fun _ held => heldActive_activateNetwork held
      verify
      remove := hold
      stopNew := fun _ held => heldActive_stopDataPlane held false
      removeLate := hold
      afterBefore := fun _ held => held
      afterReady := fun _ held => held
      afterUp := fun _ held => held } held

theorem heldActive_step {input : Input} (held : HeldActive manager.backend) :
    HeldActive (step manager input).backend := by
  rcases input with ⟨command, answers⟩
  have faced : HeldActive (face manager answers).backend := held
  rw [step]
  cases command with
  | connect request => exact heldActive_connect faced
  | disconnect =>
      rw [execute, disconnect_backend]
      exact heldActive_of_split (heldActive_stopDataPlane faced false)
        (congrArg SystemLifecycleBackend.split (removeHoldBlock_backend _))
  | updateSplit applications =>
      rw [execute, updateSplit_backend]
      split
      next => exact faced
      next =>
        have edited := updateSplit_ends faced applications
        exact ends_iff_state.1 (ends_mono edited (fun _ _ left => left.1)
          fun _ _ left => left.1)
  | reconcileHealth =>
      have looked : HeldActive (childIsRunning answers.aliveAtCheck
          (face manager answers).backend).2 := by
        rcases @childIsRunning_frame (face manager answers).backend answers.aliveAtCheck with
          ⟨processes, same⟩
        rw [same]
        exact faced
      rw [execute, reconcileHealth_backend]
      split
      next => exact faced
      next =>
        split
        next => exact looked
        next => exact heldActive_stopDataPlane looked false
  | markRecoveryRequired => exact faced

/-- The connects of a run are those the daemon accepts. -/
def Accepted (input : Input) : Prop :=
  ∀ request, input.command = .connect request → validateConnectRequest request = .ok ()

theorem connectKept_face {answers : SystemAnswers} :
    ConnectKept request answers (face manager answers) ↔
      ConnectKept request answers manager := by
  have same : ProxyComesUp (face manager answers) answers ↔ ProxyComesUp manager answers := by
    constructor
    · intro up
      exact ⟨up.valid, fun connected => ⟨(up.stops connected).dns,
        (up.stops connected).routes, (up.stops connected).xray⟩, up.spawned, up.alive,
        up.ready, up.stillAlive⟩
    · intro up
      exact ⟨up.valid, fun connected => ⟨(up.stops connected).dns,
        (up.stops connected).routes, (up.stops connected).xray⟩, up.spawned, up.alive,
        up.ready, up.stillAlive⟩
  rw [ConnectKept, ConnectKept, same]
  rfl

theorem step_flag {input : Input} (held : HeldActive manager.backend) (real : FlagReal manager)
    (accepted : Accepted input) : FlagReal (step manager input) ↔ FlagKept manager input := by
  rcases input with ⟨command, answers⟩
  have faced : HeldActive (face manager answers).backend := held
  rw [step, FlagKept]
  cases command with
  | connect request =>
      rw [execute, connect_flag faced (accepted request rfl)]
      simp only [face, ← connectKept_face]
  | disconnect => exact iff_of_true disconnect_flag fun _ _ => trivial
  | updateSplit applications => exact updateSplit_flag faced real applications
  | reconcileHealth => exact iff_of_true (reconcileHealth_flag real) fun _ _ => trivial
  | markRecoveryRequired =>
      exact iff_of_true (flagReal_of_phase ConnectionPhase.noConfusion) fun _ _ => trivial

end Commands

/-- A step with an accepted request. -/
abbrev AcceptedInput := { input : Input // Accepted input }

def acceptedStep (manager : Manager) (input : AcceptedInput) : Manager := step manager input.1

/-- A run reports the split truthfully in every state precisely when all its steps keep the
flag. -/
theorem splitFlag_real_iff (ownerUid : Nat) (answers : SystemAnswers)
    (inputs : List AcceptedInput) :
    Always acceptedStep FlagReal (fresh ownerUid answers) inputs ↔
      EveryStep acceptedStep (fun manager input => FlagKept manager input.1)
        (fresh ownerUid answers) inputs :=
  @always_iff_everyStep _ _ _
    (fun manager => HeldActive manager.backend ∧ FlagReal manager) FlagReal _
    (fun _ both => both.2)
    (fun _ input both => step_flag both.1 both.2 input.2)
    (fun _ input both kept =>
      ⟨heldActive_step both.1, (step_flag both.1 both.2 input.2).2 kept⟩)
    inputs _ ⟨heldActive_of_none rfl, flagReal_of_phase ConnectionPhase.noConfusion⟩

/-- An accepted connect that meets no obstacle. -/
def smoothConnect (request : ConnectRequest)
    (accepted : validateConnectRequest request = .ok ()) : AcceptedInput :=
  ⟨⟨.connect request, smooth⟩, by
    intro other same
    cases same
    exact accepted⟩

/-- The same location in proxy mode, where there are no exceptions. -/
def proxyRequest : ConnectRequest := { splitRequest with mode := .proxy, excludedApps := [] }

/-- After a switch from TUN to proxy mode the split is still in place, and the daemon says
there is none. -/
theorem proxy_hides_split :
    ¬∀ (ownerUid : Nat) (answers : SystemAnswers) (inputs : List AcceptedInput),
      Always acceptedStep FlagReal (fresh ownerUid answers) inputs := by
  intro real
  have reached := real 1000 smooth
    [smoothConnect splitRequest (by decide), smoothConnect proxyRequest (by decide)]
  exact absurd reached (by decide)

end System

end Varmlen.Daemon
