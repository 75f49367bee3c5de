import Varmlen.Foundation.Run
import Varmlen.Daemon.System

/-!
# Complete teardown

A disconnect that returns `Ok` should have removed everything the daemon put in
place, also when earlier attempts failed part way.  Whether it does depends on
what the record still knows.  The invariant is that everything present is
recorded; a step loses track of something when it drops its record although the
removal failed, and the theorem says that nothing else can go wrong.
-/

namespace Varmlen.Daemon

open Foundation.Effect Foundation.Run LifecycleManager

/-! ## Splits that are accounted for -/

namespace RollbackAnswers

/-- Every removal of the rollback takes effect. -/
structure Effective (answers : RollbackAnswers) : Prop where
  dns : answers.stopDirectDns = none
  routing : answers.removeRouting = .done

end RollbackAnswers

/-- A failed attempt leaves nothing behind. -/
def Laying.Clean {ε : Type} (laying : Laying ε) : Prop :=
  laying.failure ≠ none → laying.leaves = false

theorem Laying.Clean.present_eq {ε : Type} {laying : Laying ε} (clean : laying.Clean) :
    laying.present = laying.failure.isNone := by
  rw [Laying.present]
  cases failure : laying.failure with
  | none => rfl
  | some error => simp [clean (by simp [failure])]

namespace SplitAnswers

/-- Failed steps of laying a split leave nothing that a rollback does not know,
and the rollback takes effect. -/
structure Accountable (answers : SplitAnswers) : Prop where
  routing : answers.routing.Clean
  directDns : answers.directDns.Clean
  rollback : answers.rollback.Effective

end SplitAnswers

/-- The world without any split. -/
def World.unsplit (world : World) : World :=
  { world with splitRoutes := false, splitDns := false }

namespace SystemSplitBackend

/-- Only the split has changed in the world, and what is there is recorded. -/
structure Accounted (base : World) (site : Site) : Prop where
  frame : site.2.unsplit = base.unsplit
  routes : site.2.splitRoutes = true → site.1.routingActive = true
  dns : site.2.splitDns = true → site.1.directDns = true

section Accounted

variable {base : World} {site : Site} {answers : SplitAnswers}

/-- An effective rollback of an accounted split removes all of it. -/
theorem rollback_effective {answers : RollbackAnswers} (accounted : Accounted base site)
    (effective : answers.Effective) : (rollback answers site).2.2 = base.unsplit := by
  rcases site with ⟨backend, world⟩
  rcases accounted with ⟨frame, routes, dns⟩
  have absentDns : backend.directDns = false → world.splitDns = false := by
    intro inactive
    by_contra present
    have active : backend.directDns = true := dns (by simpa using present)
    exact absurd (active.symm.trans inactive) (by decide)
  have absentRoutes : backend.routingActive = false → world.splitRoutes = false := by
    intro inactive
    by_contra present
    have active : backend.routingActive = true := routes (by simpa using present)
    exact absurd (active.symm.trans inactive) (by decide)
  rw [← frame]
  rcases world with ⟨hold, splitRoutes, splitDns, dnsTable, tunRoutes, processes, nextPid⟩
  cases direct : backend.directDns <;> cases active : backend.routingActive <;>
    simp_all [rollback, stopDirectDns, removeRouting, stopReconciler, failing,
      World.unsplit, effective.dns, effective.routing, Removal.leaves]

/-- A step that leaves the record of routing and DNS and the world alone. -/
theorem accounted_of_same {next : Site} (accounted : Accounted base site)
    (world : next.2 = site.2) (routing : next.1.routingActive = site.1.routingActive)
    (dns : next.1.directDns = site.1.directDns) : Accounted base next := by
  refine ⟨world ▸ accounted.frame, ?_, ?_⟩
  · rw [world, routing]
    exact accounted.routes
  · rw [world, dns]
    exact accounted.dns

theorem needCgroup_ends {property : Site → Prop} (holds : property site) :
    Ends (fun _ => property) (fun _ => property) (needCgroup site) := by
  rw [needCgroup]
  split <;> exact holds

theorem layRouting_ends (accounted : Accounted base site) (clean : answers.routing.Clean) :
    Ends (fun _ next => Accounted base next ∧ next.1.routingActive = true)
      (fun _ => Accounted base) (layRouting answers site) := by
  refine ends_andThen (ends_failing_same accounted) ?_
  intro _ site accounted
  refine ends_andThen (needCgroup_ends accounted) ?_
  intro _ site accounted
  have present := clean.present_eq
  rw [installRouting]
  cases failed : answers.routing.failure with
  | some error =>
      refine ⟨accounted.frame, ?_, accounted.dns⟩
      simp [present, failed]
  | none => exact ⟨⟨accounted.frame, fun _ => rfl, accounted.dns⟩, rfl⟩

theorem installRouteRules_ends (accounted : Accounted base site)
    (accountable : answers.Accountable) :
    Ends (fun _ next => Accounted base next ∧ next.1.routingActive = true ∧
        next.1.directDns = true)
      (fun _ => Accounted base) (installRouteRules answers site) := by
  refine ends_andThen (layRouting_ends accounted accountable.routing) ?_
  intro _ site ⟨accounted, active⟩
  have present := accountable.directDns.present_eq
  rw [startDirectDns]
  cases failed : answers.directDns.failure with
  | some error =>
      refine ⟨accounted.frame, accounted.routes, ?_⟩
      simpa [present, failed] using accounted.dns
  | none => exact ⟨⟨accounted.frame, accounted.routes, fun _ => rfl⟩, active, rfl⟩

/-- What laying a split has established once its routing is in place. -/
def Laid (base : World) (site : Site) : Prop :=
  Accounted base site ∧ site.1.routingActive = true ∧ site.1.directDns = true

theorem laid_of_same {next : Site} (laid : Laid base site)
    (world : next.2 = site.2) (routing : next.1.routingActive = site.1.routingActive)
    (dns : next.1.directDns = site.1.directDns) : Laid base next :=
  ⟨accounted_of_same laid.1 world routing dns, routing.trans laid.2.1, dns.trans laid.2.2⟩

theorem startWatcher_ends {property : Site → Prop} (holds : property site) :
    Ends (fun _ => property) (fun _ => property) (startWatcher answers site) := by
  refine ends_andThen (needCgroup_ends holds) ?_
  intro _ site holds
  refine ends_andThen (ends_failing_same holds) ?_
  intro _ site holds
  exact ends_failing_same holds

theorem reconcileOnce_ends {property : Site → Prop} (holds : property site) :
    Ends (fun _ => property) (fun _ => property) (reconcileOnce answers site) := by
  refine ends_andThen (needCgroup_ends holds) ?_
  intro _ site holds
  exact ends_failing_same holds

theorem startPermissionWatcher_ends {plan : SplitPlan} (laid : Laid base site) :
    Ends (fun _ => Laid base) (fun _ => Laid base)
      (startPermissionWatcher answers plan site) := by
  rw [startPermissionWatcher]
  split
  next => exact laid
  next =>
    split
    next => exact laid
    next =>
      refine ends_andThen (startWatcher_ends laid) ?_
      intro _ site laid
      exact laid_of_same laid rfl rfl rfl

@[simp] theorem startReconciler_routing (backend : SystemSplitBackend) :
    (startReconciler answers backend).routingActive = backend.routingActive := by
  rw [startReconciler]
  split <;> rfl

@[simp] theorem startReconciler_dns (backend : SystemSplitBackend) :
    (startReconciler answers backend).directDns = backend.directDns := by
  rw [startReconciler]
  split <;> rfl

theorem reconcileExisting_ends {plan : SplitPlan} (laid : Laid base site) :
    Ends (fun _ => Laid base) (fun _ => Laid base)
      (reconcileExisting answers plan site) := by
  refine ends_andThen (reconcileOnce_ends laid) ?_
  intro _ site laid
  have started : Laid base (startReconciler answers site.1, site.2) :=
    laid_of_same laid rfl (by simp) (by simp)
  exact ends_failing_same started

/-- Pointing a split at other applications leaves its routing and DNS alone. -/
theorem updatePlan_ends {plan : SplitPlan} (laid : Laid base site) :
    Ends (fun _ => Laid base) (fun _ => Laid base) (updatePlan answers plan site) := by
  rw [updatePlan]
  split
  next => exact laid
  next selectors _ =>
    have cleared : Laid base
        ({ site.1.stopReconciler with watcher := none, selectors }, site.2) :=
      laid_of_same laid rfl rfl rfl
    dsimp only
    split
    next => exact reconcileOnce_ends cleared
    next =>
      refine ends_andThen (startWatcher_ends cleared) ?_
      intro _ site laid
      refine ends_andThen (reconcileOnce_ends (laid_of_same laid rfl rfl rfl)) ?_
      intro _ site laid
      exact laid_of_same laid rfl (by simp) (by simp)

/-- Laying the routing of a split again keeps it recorded, whatever happens. -/
theorem refreshRouteRules_ends (laid : Laid base site) :
    Ends (fun _ => Laid base) (fun _ => Laid base) (refreshRouteRules answers site) := by
  refine ends_andThen (ends_failing_same laid) ?_
  intro _ site laid
  refine ends_andThen (needCgroup_ends laid) ?_
  intro _ site laid
  have replaced : Laid base
      (site.1, { site.2 with splitRoutes := answers.routing.present }) :=
    ⟨⟨laid.1.frame, fun _ => laid.2.1, laid.1.dns⟩, laid.2⟩
  refine ends_andThen (ends_failing_same replaced) ?_
  intro _ site laid
  exact ⟨⟨laid.1.frame, fun _ => rfl, laid.1.dns⟩, rfl, laid.2.2⟩

theorem refreshRouting_laid {split : SplitManager SystemSplitBackend} {world : World}
    (laid : Laid base (split.backend, world)) :
    Laid base ((split.refreshRouting (api answers) world).2.1.backend,
      (split.refreshRouting (api answers) world).2.2) := by
  rw [SplitManager.refreshRouting]
  split
  next => exact laid
  next => exact ends_iff_state.mp (@refreshRouteRules_ends _ _ answers laid)

theorem updatePlan_laid {split : SplitManager SystemSplitBackend} {world : World}
    {plan : SplitPlan} (laid : Laid base (split.backend, world)) :
    Laid base ((split.updatePlan (api answers) plan world).2.1.backend,
      (split.updatePlan (api answers) plan world).2.2) := by
  rw [SplitManager.updatePlan]
  split
  next => exact laid
  next =>
    have updated := ends_iff_state.mp (@updatePlan_ends _ _ answers plan laid)
    have same : (api answers).updatePlan plan (split.backend, world) =
      updatePlan answers plan (split.backend, world) := rfl
    rw [same]
    generalize updatePlan answers plan (split.backend, world) = outcome at updated
    rcases outcome with ⟨result, backend, world⟩
    cases result <;> exact updated

/-- Laying a split either establishes all of it or leaves it accounted for. -/
theorem lay_ends {plan : SplitPlan} (accounted : Accounted base site)
    (accountable : answers.Accountable) :
    Ends (fun _ => Laid base) (fun _ => Accounted base)
      (SplitManager.lay (api answers) plan site) := by
  have weaken {outcome : SplitOutcome Unit Site}
      (ends : Ends (fun _ => Laid base) (fun _ => Laid base) outcome) :
      Ends (fun _ => Laid base) (fun _ => Accounted base) outcome :=
    ends_mono ends (fun _ _ laid => laid) (fun _ _ laid => laid.1)
  have created : Ends (fun _ => Accounted base) (fun _ => Accounted base)
      (createCgroup answers plan.uid site) := by
    rw [createCgroup]
    split
    next => exact accounted
    next =>
      refine ends_andThen (ends_failing_same accounted) ?_
      intro _ site accounted
      exact accounted_of_same accounted rfl rfl rfl
  refine ends_andThen created ?_
  intro _ site accounted
  have attached : Ends (fun _ => Accounted base) (fun _ => Accounted base)
      (attachSocketMarkBpf answers site) := by
    refine ends_andThen (needCgroup_ends accounted) ?_
    intro _ site accounted
    exact ends_failing_same accounted
  refine ends_andThen attached ?_
  intro _ site accounted
  refine ends_andThen (installRouteRules_ends accounted accountable) ?_
  intro _ site laid
  refine ends_andThen (weaken (startPermissionWatcher_ends laid)) ?_
  intro _ site laid
  exact weaken (@reconcileExisting_ends base site answers plan laid)

end Accounted

end SystemSplitBackend

/-! ## Everything present is recorded -/

/-- A stop that keeps track of everything it has to remove: the split, if it is
not preserved, the routes, if there are any, and Xray. -/
structure StopAnswers.Effective (answers : StopAnswers)
    (preserveSplit routesUp : Bool) : Prop where
  rollback : preserveSplit = false → answers.rollback.Effective
  routes : routesUp = true → answers.helperExists = true ∧ answers.routeDown = none
  kill : answers.kill = none

namespace System

/-- Everything in the world is known to the record. -/
structure Recorded (system : System) : Prop where
  split : system.backend.split = none →
    system.world.splitRoutes = false ∧ system.world.splitDns = false
  live : ∀ split, system.backend.split = some split →
    split.backend.routingActive = true ∧ split.backend.directDns = true
  dns : system.world.dnsTable = true → system.backend.dnsActive = true
  routes : system.world.tunRoutes = true → system.backend.mode = some .tun
  xray : ∀ pid ∈ system.world.processes, system.backend.xray = some pid
  idle : system.backend.xray = none → system.backend.mode = none

/-- The system with its split taken out of the world and the record. -/
def withoutSplit (system : System) : System :=
  { system with
    world := system.world.unsplit
    backend := { system.backend with split := none, splitApps := [] } }

section Split

variable {system next : System} {split : SplitManager SystemSplitBackend}

theorem unsplit_of_recorded (recorded : Recorded system)
    (absent : system.backend.split = none) : system.world.unsplit = system.world := by
  rcases system with ⟨backend, world, answers⟩
  rcases world with ⟨hold, splitRoutes, splitDns, dnsTable, tunRoutes, processes, nextPid⟩
  rcases recorded.split absent with ⟨rfl, rfl⟩
  rfl

/-- Only the split has changed, and it is still recorded. -/
theorem recorded_of_split (recorded : Recorded system)
    (same : next.withoutSplit = system.withoutSplit)
    (absent : next.backend.split = none →
      next.world.splitRoutes = false ∧ next.world.splitDns = false)
    (live : ∀ split, next.backend.split = some split →
      split.backend.routingActive = true ∧ split.backend.directDns = true) :
    Recorded next where
  split := absent
  live := live
  dns := by
    have table : next.world.dnsTable = system.world.dnsTable :=
      congrArg (·.world.dnsTable) same
    have active : next.backend.dnsActive = system.backend.dnsActive :=
      congrArg (·.backend.dnsActive) same
    rw [table, active]
    exact recorded.dns
  routes := by
    have up : next.world.tunRoutes = system.world.tunRoutes :=
      congrArg (·.world.tunRoutes) same
    have mode : next.backend.mode = system.backend.mode :=
      congrArg (·.backend.mode) same
    rw [up, mode]
    exact recorded.routes
  xray := by
    have live : next.world.processes = system.world.processes :=
      congrArg (·.world.processes) same
    have handle : next.backend.xray = system.backend.xray :=
      congrArg (·.backend.xray) same
    rw [live, handle]
    exact recorded.xray
  idle := by
    have handle : next.backend.xray = system.backend.xray :=
      congrArg (·.backend.xray) same
    have mode : next.backend.mode = system.backend.mode :=
      congrArg (·.backend.mode) same
    rw [handle, mode]
    exact recorded.idle

theorem laid_of_recorded (recorded : Recorded system)
    (handle : system.backend.split = some split) :
    SystemSplitBackend.Laid system.world (split.backend, system.world) := by
  rcases recorded.live split handle with ⟨routing, dns⟩
  exact ⟨⟨rfl, fun _ => routing, fun _ => dns⟩, routing, dns⟩

/-- Replacing the recorded split by one laid over the same world. -/
theorem recorded_of_laid (recorded : Recorded system) {world : World}
    {splitApps : List String}
    (laid : SystemSplitBackend.Laid system.world (split.backend, world)) :
    let next := { system with
      world, backend := { system.backend with split := some split, splitApps } }
    Recorded next ∧ next.withoutSplit = system.withoutSplit := by
  have same : ({ system with
      world, backend := { system.backend with split := some split, splitApps } } :
      System).withoutSplit = system.withoutSplit := by
    simp only [withoutSplit, System.mk.injEq, and_true, true_and]
    exact laid.1.frame
  refine ⟨recorded_of_split recorded same (by simp) ?_, same⟩
  rintro other ⟨rfl⟩
  exact laid.2

theorem removeSplit_effective {answers : RollbackAnswers} (recorded : Recorded system)
    (effective : answers.Effective) :
    (removeSplit answers system).2 = system.withoutSplit := by
  rw [removeSplit]
  split
  next handle => simp [withoutSplit, unsplit_of_recorded recorded handle, handle]
  next split handle =>
    have removed := SystemSplitBackend.rollback_effective
      (laid_of_recorded recorded handle).1 effective
    generalize SystemSplitBackend.rollback answers (split.backend, system.world) = outcome
      at removed
    rcases outcome with ⟨result, backend, world⟩
    cases result <;> simp_all [mapError, withoutSplit]

theorem recorded_withoutSplit (recorded : Recorded system) :
    Recorded system.withoutSplit :=
  recorded_of_split recorded rfl (fun _ => ⟨rfl, rfl⟩) (by simp [withoutSplit])

theorem applySplit_recorded {applications : List String} (recorded : Recorded system)
    (absent : system.backend.split = none)
    (accountable : system.answers.laySplit.Accountable) :
    Recorded (applySplit applications system).2 ∧
      (applySplit applications system).2.withoutSplit = system.withoutSplit := by
  have clear := unsplit_of_recorded recorded absent
  have fresh : SystemSplitBackend.Accounted system.world
      (SystemSplitBackend.new system.backend.ownerUid, system.world) := by
    refine ⟨rfl, ?_, ?_⟩ <;> rw [← clear] <;> simp [World.unsplit]
  have laid := @SystemSplitBackend.lay_ends _ _ _
    ⟨system.backend.ownerUid, applications⟩ fresh accountable
  rw [applySplit, SplitManager.apply, SplitManager.new]
  generalize SplitManager.lay (SystemSplitBackend.api system.answers.laySplit)
    ⟨system.backend.ownerUid, applications⟩
    (SystemSplitBackend.new system.backend.ownerUid, system.world) = outcome at laid
  rcases outcome with ⟨result, backend, world⟩
  cases result with
  | ok value => exact @recorded_of_laid system ⟨backend, .active⟩ recorded world _ laid
  | error error =>
      have removed := SystemSplitBackend.rollback_effective laid accountable.rollback
      have world : ((SystemSplitBackend.api system.answers.laySplit).rollback
          (backend, world)).2.2 = system.world := removed.trans clear
      simp only [world, and_true]
      exact recorded

theorem settleSplit_recorded {request : ConnectRequest} (recorded : Recorded system)
    (accountable : system.answers.laySplit.Accountable)
    (effective : system.answers.dropSplit.Effective) :
    Recorded (settleSplit request system).2 ∧
      (settleSplit request system).2.withoutSplit = system.withoutSplit := by
  have dropped (condition : Prop) [Decidable condition] :
      Ends (fun _ next => Recorded next ∧ next.withoutSplit = system.withoutSplit)
        (fun _ next => Recorded next ∧ next.withoutSplit = system.withoutSplit)
        (if condition then removeSplit system.answers.dropSplit system
          else (.ok (), system)) := by
    split
    next =>
      rw [ends_iff_state, removeSplit_effective recorded effective]
      exact ⟨recorded_withoutSplit recorded, rfl⟩
    next => exact ⟨recorded, rfl⟩
  rw [← @ends_iff_state _ _ _ _
    fun next => Recorded next ∧ next.withoutSplit = system.withoutSplit]
  refine ends_andThen (dropped _) ?_
  intro _ next ⟨recorded, same⟩
  have answers : next.answers = system.answers := congrArg (·.answers) same
  rw [← answers] at accountable
  split
  next absent =>
    split
    next => exact ⟨recorded, same⟩
    next =>
      rw [ends_iff_state, ← same]
      exact applySplit_recorded recorded absent accountable
  next split handle =>
    have laid := laid_of_recorded recorded handle
    have refreshed := @SystemSplitBackend.refreshRouting_laid _
      next.answers.laySplit split next.world laid
    generalize split.refreshRouting (SystemSplitBackend.api next.answers.laySplit)
      next.world = outcome at refreshed
    rcases outcome with ⟨result, split, world⟩
    rw [← same]
    refine ends_mapError (ends_iff_state.mpr ?_)
    exact @recorded_of_laid next split recorded world next.backend.splitApps refreshed

/-- Laying a split where there is none leaves it recorded. -/
theorem rebuildSplit_recorded {applications : List String} (recorded : Recorded system)
    (absent : system.backend.split = none)
    (accountable : system.answers.laySplit.Accountable) :
    Ends (fun _ => Recorded) (fun _ => Recorded)
      (andThen (applySplit applications system) fun _ next => (.ok true, next)) := by
  have applied := (@applySplit_recorded system applications recorded absent accountable).1
  refine ends_andThen (ends_iff_state.mpr applied) ?_
  intro _ next recorded
  exact recorded

theorem updateSplit_recorded {applications : List String} (recorded : Recorded system)
    (accountable : system.answers.laySplit.Accountable)
    (effective : system.answers.dropSplit.Effective) :
    Recorded (updateSplit applications system).2 := by
  rw [← @ends_iff_state _ _ _ _ Recorded]
  rw [updateSplit]
  dsimp only
  split
  next =>
    have removed : Recorded (removeSplit system.answers.dropSplit system).2 := by
      rw [removeSplit_effective recorded effective]
      exact recorded_withoutSplit recorded
    refine ends_andThen (ends_iff_state.mpr removed) ?_
    intro _ next recorded
    exact recorded
  next =>
    split
    next absent => exact rebuildSplit_recorded recorded absent accountable
    next split handle =>
      have laid := laid_of_recorded recorded handle
      have updated := @SystemSplitBackend.updatePlan_laid _ system.answers.laySplit split
        system.world ⟨system.backend.ownerUid, applications⟩ laid
      generalize split.updatePlan (SystemSplitBackend.api system.answers.laySplit)
        ⟨system.backend.ownerUid, applications⟩ system.world = outcome at updated
      rcases outcome with ⟨result, split, world⟩
      have kept := @recorded_of_laid system split recorded world
        system.backend.splitApps updated
      have reported : Ends
          (fun _ next => Recorded next ∧ next.answers = system.answers)
          (fun _ => Recorded)
          (mapError splitUnavailable (result, ({ system with
            world, backend := { system.backend with split := some split } } : System))) := by
        refine ends_mapError ?_
        cases result with
        | ok live => exact ⟨kept.1, rfl⟩
        | error error => exact kept.1
      refine ends_andThen reported ?_
      intro live next ⟨recorded, same⟩
      split
      next =>
        exact recorded_of_split recorded rfl recorded.split recorded.live
      next =>
        rw [← same] at effective accountable
        have removed := removeSplit_effective recorded effective
        generalize removeSplit next.answers.dropSplit next = outcome at removed
        rcases outcome with ⟨result, after⟩
        subst removed
        cases result with
        | error error => exact recorded_withoutSplit recorded
        | ok value =>
            exact rebuildSplit_recorded (recorded_withoutSplit recorded) rfl accountable

end Split

section Stop

variable {system : System} {preserveSplit : Bool}

/-- What a stop that keeps track of everything leaves behind. -/
def halted (preserveSplit : Bool) (answers : StopAnswers) (system : System) : System :=
  let system := if preserveSplit then system else system.withoutSplit
  { system with
    world := { system.world with
      dnsTable := system.world.dnsTable && answers.removeDns.isSome
      tunRoutes := false
      processes := [] }
    backend := { system.backend with
      dnsActive := system.backend.dnsActive && answers.removeDns.isSome
      xray := none
      mode := none } }

theorem removeDns_recorded {failure : Option DaemonError} (recorded : Recorded system) :
    (removeDns failure system).2 = { system with
      world := { system.world with
        dnsTable := system.world.dnsTable && failure.isSome }
      backend := { system.backend with
        dnsActive := system.backend.dnsActive && failure.isSome } } := by
  rcases system with ⟨⟨ownerUid, xray, mode, dnsActive, split, splitApps⟩, world, answers⟩
  rcases world with ⟨hold, splitRoutes, splitDns, dnsTable, tunRoutes, processes, nextPid⟩
  have known : dnsTable = true → dnsActive = true := recorded.dns
  cases dnsActive <;> cases dnsTable <;> cases failure <;>
    simp_all [removeDns, andThen, failing]

/-- Killing the recorded Xray leaves none. -/
theorem terminateXray_recorded (recorded : Recorded system) :
    (terminateXray none system).2 = { system with
      world := { system.world with processes := [] }
      backend := { system.backend with xray := none } } := by
  rcases system with ⟨⟨ownerUid, xray, mode, dnsActive, split, splitApps⟩, world, answers⟩
  rcases world with ⟨hold, splitRoutes, splitDns, dnsTable, tunRoutes, processes, nextPid⟩
  have known : ∀ pid ∈ processes, xray = some pid := recorded.xray
  cases xray with
  | none =>
      have empty : processes = [] := by
        apply List.eq_nil_iff_forall_not_mem.mpr
        intro pid member
        exact nomatch known pid member
      simp [terminateXray, empty]
  | some pid =>
      have only : ∀ other ∈ processes, other = pid := by
        intro other member
        exact (Option.some.inj (known other member)).symm
      by_cases alive : pid ∈ processes
      · simpa [terminateXray, alive] using only
      · have empty : processes = [] := by
          apply List.eq_nil_iff_forall_not_mem.mpr
          intro other member
          exact alive (only other member ▸ member)
        simp [terminateXray, empty]

/-- The routes are gone after the part of a stop that takes them down. -/
theorem routes_recorded {answers : StopAnswers} (recorded : Recorded system)
    (known : system.world.tunRoutes = true →
      answers.helperExists = true ∧ answers.routeDown = none) :
    (if system.backend.mode = some .tun ∧ answers.helperExists = true then
        routeDown answers.routeDown system
      else (.ok (), system)).2 =
      { system with world := { system.world with tunRoutes := false } } := by
  rcases system with ⟨backend, world, systemAnswers⟩
  rcases world with ⟨hold, splitRoutes, splitDns, dnsTable, tunRoutes, processes, nextPid⟩
  have mode : tunRoutes = true → backend.mode = some .tun := recorded.routes
  cases tunRoutes with
  | false => cases down : answers.routeDown <;> split <;> simp [routeDown, failing]
  | true =>
      rcases known rfl with ⟨exists_, down⟩
      rw [if_pos ⟨mode rfl, exists_⟩]
      simp [routeDown, failing, down]

theorem recorded_removeDns {failure : Option DaemonError} (recorded : Recorded system) :
    Recorded { system with
      world := { system.world with
        dnsTable := system.world.dnsTable && failure.isSome }
      backend := { system.backend with
        dnsActive := system.backend.dnsActive && failure.isSome } } := by
  refine ⟨recorded.split, recorded.live, ?_, recorded.routes, recorded.xray,
    recorded.idle⟩
  cases failure with
  | none => simp
  | some error => simpa using recorded.dns

/-- A stop that keeps track of everything leaves the halted system. -/
theorem stopDataPlane_recorded (recorded : Recorded system)
    (effective : (system.answers.stop preserveSplit).Effective preserveSplit
      system.world.tunRoutes) :
    (stopDataPlane preserveSplit system).2 =
      halted preserveSplit (system.answers.stop preserveSplit) system := by
  have dropped : (if preserveSplit then ((.ok (), system) : Called Unit)
      else removeSplit (system.answers.stop preserveSplit).rollback system).2 =
      if preserveSplit then system else system.withoutSplit := by
    cases preserveSplit with
    | true => rfl
    | false => exact removeSplit_effective recorded (effective.rollback rfl)
  have kept : Recorded (if preserveSplit then system else system.withoutSplit) := by
    split
    next => exact recorded
    next => exact recorded_withoutSplit recorded
  have routes : (if preserveSplit then system else system.withoutSplit).world.tunRoutes =
      system.world.tunRoutes := by
    split <;> rfl
  rw [← routes] at effective
  rw [stopDataPlane, halted]
  dsimp only
  rw [dropped, removeDns_recorded kept, routes_recorded (recorded_removeDns kept)
    effective.routes, effective.kill, terminateXray_recorded]
  have down := @recorded_removeDns _ (system.answers.stop preserveSplit).removeDns kept
  exact ⟨down.split, down.live, down.dns, by simp, down.xray, down.idle⟩

theorem recorded_halted {answers : StopAnswers} (recorded : Recorded system) :
    Recorded (halted preserveSplit answers system) := by
  have kept : Recorded (if preserveSplit then system else system.withoutSplit) := by
    split
    next => exact recorded
    next => exact recorded_withoutSplit recorded
  have down := @recorded_removeDns _ answers.removeDns kept
  exact ⟨down.split, down.live, down.dns, by simp [halted], by simp [halted],
    fun _ => rfl⟩

theorem firstError_eq_ok {first second : Except DaemonError Unit} :
    firstError first second = .ok () ↔ first = .ok () ∧ second = .ok () := by
  cases first <;> simp [firstError]

theorem removeSplit_dnsActive (answers : RollbackAnswers) :
    (removeSplit answers system).2.backend.dnsActive = system.backend.dnsActive := by
  rw [removeSplit]
  split
  next => rfl
  next split handle =>
    generalize SystemSplitBackend.rollback answers (split.backend, system.world) = outcome
    rcases outcome with ⟨result, site⟩
    cases result <;> rfl

theorem removeDns_eq_ok {failure : Option DaemonError}
    (ok : (removeDns failure system).1 = .ok ())
    (active : system.backend.dnsActive = true) : failure = none := by
  cases failure with
  | none => rfl
  | some error => simp [removeDns, andThen, failing, active] at ok

/-- A stop that succeeds has removed the DNS table, if there was one. -/
theorem removeDns_of_stopDataPlane (ok : (stopDataPlane preserveSplit system).1 = .ok ())
    (active : system.backend.dnsActive = true) :
    (system.answers.stop preserveSplit).removeDns = none := by
  rw [stopDataPlane] at ok
  rcases firstError_eq_ok.mp ok with ⟨_, rest⟩
  rcases firstError_eq_ok.mp rest with ⟨dns, _⟩
  apply removeDns_eq_ok dns
  cases preserveSplit with
  | true => exact active
  | false => exact (removeSplit_dnsActive _).trans active

/-- Nothing the daemon puts in place for a data plane is present. -/
def TornDown (world : World) : Prop :=
  world.splitRoutes = false ∧ world.splitDns = false ∧ world.dnsTable = false ∧
    world.tunRoutes = false ∧ world.processes = []

instance (world : World) : Decidable (TornDown world) :=
  inferInstanceAs (Decidable (_ ∧ _))

/-- A full stop that succeeds and keeps track of everything leaves nothing. -/
theorem tornDown_of_stopDataPlane (recorded : Recorded system)
    (effective : (system.answers.stop false).Effective false system.world.tunRoutes)
    (ok : (stopDataPlane false system).1 = .ok ()) :
    TornDown (stopDataPlane false system).2.world := by
  rw [stopDataPlane_recorded recorded effective]
  refine ⟨rfl, rfl, ?_, rfl, rfl⟩
  have removed : system.world.dnsTable = true →
      (system.answers.stop false).removeDns = none := by
    intro present
    exact removeDns_of_stopDataPlane ok (recorded.dns present)
  cases table : system.world.dnsTable with
  | false => simp [halted, withoutSplit, World.unsplit, table]
  | true => simp [halted, removed table]

end Stop

/-! ## Bringing a data plane up -/

/-- Everything is recorded, and the routes, if there are any, can be taken down
again by the given stop. -/
structure Steady (answers : SystemAnswers) (stop : StopAnswers) (system : System) :
    Prop where
  recorded : Recorded system
  answers : system.answers = answers
  routes : system.world.tunRoutes = true →
    stop.helperExists = true ∧ stop.routeDown = none

section Bring

variable {answers : SystemAnswers} {stop : StopAnswers} {system : System}
variable {request : ConnectRequest}

theorem recorded_childIsRunning {lives : Bool} (recorded : Recorded system) :
    Recorded (childIsRunning lives system).2 := by
  rw [childIsRunning]
  split
  next => exact recorded
  next =>
    split
    next => exact recorded
    next =>
      exact ⟨recorded.split, recorded.live, recorded.dns, recorded.routes,
        fun pid member => recorded.xray pid (List.mem_of_mem_filter member),
        recorded.idle⟩

/-- Looking at Xray changes at most the list of processes. -/
theorem childIsRunning_frame {lives : Bool} :
    ∃ processes, (childIsRunning lives system).2 =
      { system with world := { system.world with processes } } := by
  rw [childIsRunning]
  split
  next => exact ⟨system.world.processes, rfl⟩
  next =>
    split
    next => exact ⟨system.world.processes, rfl⟩
    next => exact ⟨_, rfl⟩

theorem steady_childIsRunning {lives : Bool} (steady : Steady answers stop system) :
    Steady answers stop (childIsRunning lives system).2 := by
  rcases @childIsRunning_frame system lives with ⟨processes, same⟩
  have recorded := @recorded_childIsRunning system lives steady.recorded
  rw [same] at recorded ⊢
  exact ⟨recorded, steady.answers, steady.routes⟩

/-- A new Xray may be started over the record: the old one is gone, or the new
one never gets as far. -/
def Free (answers : SystemAnswers) (system : System) : Prop :=
  system.backend.xray = none ∨ answers.spawn ≠ none

theorem waitUntilReady_ends (steady : Steady answers stop system) :
    Ends (fun _ next => Steady answers stop next ∧ next.backend.mode = system.backend.mode)
      (fun _ => Steady answers stop) (waitUntilReady system) := by
  have ready := @steady_childIsRunning _ _ _ system.answers.aliveWhenReady steady
  rcases @childIsRunning_frame system system.answers.aliveWhenReady with ⟨processes, same⟩
  have mode : (childIsRunning system.answers.aliveWhenReady system).2.backend.mode =
      system.backend.mode := by
    rw [same]
  exact ends_failing (fun _ => ⟨ready, mode⟩) (fun _ _ => ready)

theorem steady_adoptXray {mode : ConnectionMode} (steady : Steady answers stop system)
    (idle : system.backend.xray = none) :
    Steady answers stop (adoptXray mode system) := by
  have empty : system.world.processes = [] := by
    apply List.eq_nil_iff_forall_not_mem.mpr
    intro pid member
    exact nomatch (steady.recorded.xray pid member).symm.trans idle
  have down : system.world.tunRoutes = false := by
    by_contra up
    have recorded := steady.recorded.routes (by simpa using up)
    exact nomatch recorded.symm.trans (steady.recorded.idle idle)
  refine ⟨⟨steady.recorded.split, steady.recorded.live, steady.recorded.dns, ?_, ?_,
    by simp [adoptXray]⟩, steady.answers, ?_⟩
  · simp [adoptXray, down]
  · simp [adoptXray, empty]
  · simp [adoptXray, down]

theorem startDataPlane_ends (steady : Steady answers stop system)
    (free : Free answers system) :
    Ends (fun _ next => Steady answers stop next ∧ next.backend.mode = some request.mode)
      (fun _ => Steady answers stop) (startDataPlane request system) := by
  rw [startDataPlane]
  rw [steady.answers]
  cases spawned : answers.spawn with
  | some error => exact steady
  | none =>
      rcases free with idle | fails
      · exact waitUntilReady_ends (steady_adoptXray steady idle)
      · exact absurd spawned fails

theorem installDns_ends (recorded : Recorded system)
    (active : system.backend.dnsActive = true) :
    Recorded (installDns system).2 ∧
      ∃ dnsTable, (installDns system).2 =
        { system with world := { system.world with dnsTable } } := by
  have frame : ∃ dnsTable, (installDns system).2 =
      { system with world := { system.world with dnsTable } } := by
    rw [installDns]
    cases system.answers.dnsApply.failure with
    | some error => exact ⟨_, rfl⟩
    | none =>
        dsimp only [failing, andThen]
        split
        next => exact ⟨_, rfl⟩
        next => split <;> exact ⟨_, rfl⟩
  refine ⟨?_, frame⟩
  rcases frame with ⟨dnsTable, same⟩
  rw [same]
  exact ⟨recorded.split, recorded.live, fun _ => active, recorded.routes, recorded.xray,
    recorded.idle⟩

/-- Activating the network keeps everything recorded if the data plane has been
started for it and a stop can take the new routes down. -/
theorem steady_activateNetwork (steady : Steady answers stop system)
    (mode : system.backend.mode = some request.mode)
    (accountable : answers.laySplit.Accountable) (effective : answers.dropSplit.Effective)
    (down : answers.routeUp.present = true →
      stop.helperExists = true ∧ stop.routeDown = none) :
    Steady answers stop (activateNetwork request system).2 := by
  rw [← @ends_iff_state _ _ _ _ (Steady answers stop)]
  rw [activateNetwork]
  split
  next => exact steady
  next notProxy =>
    have tun : request.mode = .tun := by
      cases chosen : request.mode with
      | tun => rfl
      | proxy => exact absurd chosen notProxy
    have routed : Steady answers stop { system with
        world := { system.world with
          tunRoutes := system.world.tunRoutes || system.answers.routeUp.present } } := by
      refine ⟨⟨steady.recorded.split, steady.recorded.live, steady.recorded.dns, ?_,
        steady.recorded.xray, steady.recorded.idle⟩, steady.answers, ?_⟩
      · intro _
        exact mode.trans (congrArg some tun)
      · rw [steady.answers]
        intro up
        rcases (Bool.or_eq_true _ _).mp up with old | new
        · exact steady.routes old
        · exact down new
    refine ends_andThen (ends_failing_same routed) ?_
    intro _ next steady
    have settled := @settleSplit_recorded next request steady.recorded
      (steady.answers ▸ accountable) (steady.answers ▸ effective)
    have kept : Steady answers stop (settleSplit request next).2 := by
      refine ⟨settled.1, ?_, ?_⟩
      · exact (congrArg (·.answers) settled.2).trans steady.answers
      · have same : (settleSplit request next).2.world.tunRoutes = next.world.tunRoutes :=
          congrArg (·.world.tunRoutes) settled.2
        rw [same]
        exact steady.routes
    refine ends_andThen (ends_iff_state.mpr kept) ?_
    intro _ next steady
    have armed : Recorded { next with
        backend := { next.backend with dnsActive := true } } :=
      ⟨steady.recorded.split, steady.recorded.live, fun _ => rfl, steady.recorded.routes,
        steady.recorded.xray, steady.recorded.idle⟩
    rcases installDns_ends armed rfl with ⟨recorded, dnsTable, same⟩
    rw [ends_iff_state]
    rw [same] at recorded ⊢
    exact ⟨recorded, steady.answers, steady.routes⟩

theorem steady_verifyConnection (steady : Steady answers stop system) :
    Steady answers stop (verifyConnection request system).2 := by
  have looked := @steady_childIsRunning _ _ _ system.answers.aliveAtVerification steady
  rw [← @ends_iff_state _ _ _ _ (Steady answers stop)]
  rw [verifyConnection]
  dsimp only
  split
  next => exact looked
  next =>
    split
    next => exact looked
    next =>
      split
      next => exact looked
      next =>
        split
        next => exact looked
        next => exact ends_failing_same looked

end Bring

/-! ## Runs -/

abbrev Manager := LifecycleManager System

/-- One step of a run: a command and how everything outside the daemon answers
it. -/
structure Input where
  command : Command
  answers : SystemAnswers

/-- Put the answers for the next command in place. -/
def face (manager : Manager) (answers : SystemAnswers) : Manager :=
  { manager with backend := { manager.backend with answers } }

def step (manager : Manager) (input : Input) : Manager :=
  execute api input.command (face manager input.answers)

/-- A manager just created over a clean system. -/
def fresh (ownerUid : Nat) (answers : SystemAnswers) : Manager :=
  .new ⟨⟨ownerUid, none, none, false, none, []⟩,
    ⟨false, false, false, false, false, [], 1⟩, answers⟩ .disconnected

/-- The connects that keep track of everything: splits laid and replaced are
accounted for, the old routes, the new routes and both Xrays can be removed, and
no Xray is started over one that is still recorded. -/
structure TidyConnect (manager : Manager) (answers : SystemAnswers) : Prop where
  split : answers.laySplit.Accountable
  drop : answers.dropSplit.Effective
  old : manager.state.phase = .connected →
    (answers.stop true).Effective true manager.backend.world.tunRoutes
  free : manager.state.phase ≠ .connected →
    manager.backend.backend.xray = none ∨ answers.spawn ≠ none
  stale : manager.state.phase ≠ .connected → manager.backend.world.tunRoutes = true →
    (answers.stop false).helperExists = true ∧ (answers.stop false).routeDown = none
  new : (answers.stop false).Effective false answers.routeUp.present

/-- The steps that keep track of everything. -/
def Tidy (manager : Manager) (input : Input) : Prop :=
  match input.command with
  | .connect _ => TidyConnect manager input.answers
  | .disconnect =>
      (input.answers.stop false).Effective false manager.backend.world.tunRoutes
  | .reconcileHealth =>
      (input.answers.stop false).Effective false manager.backend.world.tunRoutes
  | .updateSplit _ =>
      input.answers.laySplit.Accountable ∧ input.answers.dropSplit.Effective
  | .markRecoveryRequired => True

/-- A disconnect that returns `Ok` leaves nothing behind. -/
def TeardownComplete (manager : Manager) (input : Input) : Prop :=
  input.command = .disconnect →
    (∃ state, (disconnect api (face manager input.answers)).1 = .ok state) →
    TornDown (step manager input).backend.world

section Run

variable {manager : Manager} {answers : SystemAnswers} {request : ConnectRequest}

theorem recorded_stopDataPlane {system : System} {preserveSplit : Bool}
    (recorded : Recorded system)
    (effective : (system.answers.stop preserveSplit).Effective preserveSplit
      system.world.tunRoutes) :
    Recorded (stopDataPlane preserveSplit system).2 := by
  rw [stopDataPlane_recorded recorded effective]
  exact recorded_halted recorded

/-- A property that says nothing about the hold block. -/
def IgnoresHold (property : System → Prop) : Prop :=
  ∀ system hold, property system →
    property { system with world := { system.world with hold } }

theorem installHoldBlock_keeps {property : System → Prop} {system : System}
    (ignores : IgnoresHold property) (holds : property system) :
    property (installHoldBlock system).2 := by
  rw [← @ends_iff_state _ _ _ _ property]
  refine ends_andThen (ends_failing_same holds) ?_
  intro _ system holds
  exact ignores system true holds

theorem removeHoldBlock_keeps {property : System → Prop} {system : System}
    (ignores : IgnoresHold property) (holds : property system) :
    property (removeHoldBlock system).2 := by
  rw [← @ends_iff_state _ _ _ _ property]
  refine ends_andThen (ends_failing_same holds) ?_
  intro _ system holds
  exact ignores system false holds

theorem recorded_ignoresHold : IgnoresHold Recorded :=
  fun _ _ recorded => ⟨recorded.split, recorded.live, recorded.dns, recorded.routes,
    recorded.xray, recorded.idle⟩

theorem steady_ignoresHold {stop : StopAnswers} : IgnoresHold (Steady answers stop) :=
  fun system hold steady => ⟨recorded_ignoresHold system hold steady.recorded,
    steady.answers, steady.routes⟩

/-- What holds while the old data plane is in charge. -/
def BeforeConnect (wasConnected : Bool) (answers : SystemAnswers) (system : System) :
    Prop :=
  Steady answers (answers.stop wasConnected) system ∧
    (wasConnected = false → Free answers system)

theorem beforeConnect_ignoresHold {wasConnected : Bool} :
    IgnoresHold (BeforeConnect wasConnected answers) :=
  fun system hold before => ⟨steady_ignoresHold system hold before.1, before.2⟩

/-- The connect rule over the system: a tidy connect keeps everything recorded. -/
theorem tidy_connectRule {wasConnected : Bool}
    (split : answers.laySplit.Accountable) (drop : answers.dropSplit.Effective)
    (old : wasConnected = true → (answers.stop true).kill = none)
    (new : (answers.stop false).Effective false answers.routeUp.present) :
    ConnectRule api request wasConnected
      (BeforeConnect wasConnected answers)
      (fun system => Steady answers (answers.stop false) system ∧ Free answers system)
      (fun system => Steady answers (answers.stop false) system ∧
        system.backend.mode = some request.mode)
      (Steady answers (answers.stop false)) Recorded where
  validate system before := by
    rw [← @ends_iff_state _ _ _ _ (BeforeConnect wasConnected answers)]
    exact ends_failing_same before
  install system before := installHoldBlock_keeps beforeConnect_ignoresHold before
  verifyHold system before := by
    rw [← @ends_iff_state _ _ _ _ (BeforeConnect wasConnected answers)]
    exact ends_failing_same before
  removeEarly system before := removeHoldBlock_keeps beforeConnect_ignoresHold before
  stopOld connected system before := by
    subst connected
    rcases before with ⟨steady, _⟩
    have effective : (system.answers.stop true).Effective true system.world.tunRoutes := by
      rw [steady.answers]
      exact ⟨by simp, steady.routes, old rfl⟩
    show Steady answers _ (stopDataPlane true system).2 ∧
      Free answers (stopDataPlane true system).2
    rw [stopDataPlane_recorded steady.recorded effective]
    exact ⟨⟨recorded_halted steady.recorded, steady.answers, by simp [halted]⟩, .inl rfl⟩
  free notConnected system before := by
    subst notConnected
    exact ⟨before.1, before.2 rfl⟩
  start system ready := startDataPlane_ends ready.1 ready.2
  activate system started :=
    steady_activateNetwork started.1 started.2 split drop new.routes
  verify system steady := steady_verifyConnection steady
  remove system steady := removeHoldBlock_keeps steady_ignoresHold steady
  stopNew system steady := by
    apply recorded_stopDataPlane steady.recorded
    rw [steady.answers]
    exact ⟨new.rollback, steady.routes, new.kill⟩
  removeLate system recorded := removeHoldBlock_keeps recorded_ignoresHold recorded
  afterBefore system before := before.1.recorded
  afterReady system ready := ready.1.recorded
  afterUp system steady := steady.recorded

theorem recorded_connect (recorded : Recorded manager.backend)
    (tidy : TidyConnect manager answers) :
    Recorded (connect api request (face manager answers)).2.backend := by
  have faced : Recorded (face manager answers).backend :=
    ⟨recorded.split, recorded.live, recorded.dns, recorded.routes, recorded.xray,
      recorded.idle⟩
  refine connect_rule (tidy_connectRule tidy.split tidy.drop ?_ tidy.new) ⟨⟨faced, rfl, ?_⟩, ?_⟩
  · intro connected
    exact (tidy.old (of_decide_eq_true connected)).kill
  · intro up
    by_cases connected : manager.state.phase = .connected
    · simpa [face, connected] using (tidy.old connected).routes up
    · simpa [face, connected] using tidy.stale connected up
  · intro notConnected
    exact tidy.free (of_decide_eq_false notConnected)

theorem recorded_face (recorded : Recorded manager.backend) :
    Recorded (face manager answers).backend :=
  ⟨recorded.split, recorded.live, recorded.dns, recorded.routes, recorded.xray,
    recorded.idle⟩

/-- A tidy step keeps everything recorded. -/
theorem recorded_step {input : Input} (recorded : Recorded manager.backend)
    (tidy : Tidy manager input) : Recorded (step manager input).backend := by
  rcases input with ⟨command, answers⟩
  have faced := @recorded_face manager answers recorded
  cases command with
  | connect request => exact recorded_connect recorded tidy
  | disconnect =>
      rw [step, execute, disconnect_backend]
      exact removeHoldBlock_keeps recorded_ignoresHold (recorded_stopDataPlane faced tidy)
  | updateSplit applications =>
      rw [step, execute, updateSplit_backend]
      split
      next => exact faced
      next => exact updateSplit_recorded faced tidy.1 tidy.2
  | reconcileHealth =>
      have looked := @recorded_childIsRunning _ answers.aliveAtCheck faced
      rcases @childIsRunning_frame (face manager answers).backend answers.aliveAtCheck with
        ⟨processes, same⟩
      rw [step, execute, reconcileHealth_backend]
      split
      next => exact faced
      next =>
        split
        next => exact looked
        next =>
          apply recorded_stopDataPlane looked
          rw [same]
          exact tidy
  | markRecoveryRequired => exact faced

/-- A tidy disconnect that returns `Ok` leaves nothing behind. -/
theorem teardownComplete_step {input : Input} (recorded : Recorded manager.backend)
    (tidy : Tidy manager input) : TeardownComplete manager input := by
  rcases input with ⟨command, answers⟩
  rintro ⟨rfl⟩ ⟨state, ok⟩
  have faced := @recorded_face manager answers recorded
  have gone := tornDown_of_stopDataPlane faced tidy (stopDataPlane_of_disconnect ok)
  rw [step, execute, disconnect_backend]
  exact @removeHoldBlock_keeps (fun system => TornDown system.world) _
    (fun _ _ gone => gone) gone

end Run

/-- In every run whose steps keep track of what they remove, a disconnect that
returns `Ok` leaves no split, no DNS table, no routes and no Xray, however many
attempts failed before it. -/
theorem teardown_complete (ownerUid : Nat) (answers : SystemAnswers)
    (inputs : List Input)
    (tidy : EveryStep step Tidy (fresh ownerUid answers) inputs) :
    EveryStep step TeardownComplete (fresh ownerUid answers) inputs :=
  @everyStep_of_invariant _ _ _ (fun manager => Recorded manager.backend) _ _
    (fun _ _ recorded tidy => recorded_step recorded tidy)
    (fun _ _ recorded tidy => teardownComplete_step recorded tidy) inputs _
    ⟨by simp [fresh, new], by simp [fresh, new], by simp [fresh, new], by simp [fresh, new],
      by simp [fresh, new], by simp [fresh, new]⟩ tidy

/-- Answers under which everything works, Xray included. -/
def smooth : SystemAnswers where
  aliveAtCheck := true
  aliveWhenReady := true
  aliveAtVerification := true
  validate := none
  holdUp := none
  holdInspection := none
  holdDown := none
  stop _ := ⟨⟨none, .done⟩, none, true, none, none⟩
  spawn := none
  readyInTime := true
  routeUp := ⟨none, false⟩
  dropSplit := ⟨none, .done⟩
  laySplit :=
    { cgroup := none
      bpf := none
      defaultRoute := none
      routing := ⟨none, false⟩
      directDns := ⟨none, false⟩
      selectors := fun plan => .ok plan.applications
      watcher := none
      watcherHealthy := true
      reconcile := none
      watcherStillHealthy := true
      reconcilerSpawned := true
      rollback := ⟨none, .done⟩ }
  dnsApply := ⟨none, false⟩
  dnsProbe := .ok true
  dnsUndo := none
  tunDeviceExists := true
  splitHealthy := true
  routeCheck := none

/-- The stop cannot remove the DNS table. -/
def dnsStuck : SystemAnswers :=
  { smooth with
    stop := fun _ => ⟨⟨none, .done⟩, some ⟨.dnsInstallFailed, "busy"⟩, true, none, none⟩ }

/-- The stop cannot remove the routing of the split. -/
def splitStuck : SystemAnswers :=
  { smooth with stop := fun _ => ⟨⟨none, .reported⟩, none, true, none, none⟩ }

/-- A TUN request with one excluded application. -/
def splitRequest : ConnectRequest where
  mode := .tun
  xrayConfig := "\x7b\x7d"
  validationConfig := "\x7b\x7d"
  serverIps := [.v4 ⟨203, 0, 113, 9⟩]
  excludedApps := ["cs2"]
  killswitch := true
  allowLan := false

/-- A disconnect that cannot remove the DNS table fails; its retry removes
everything. -/
theorem teardown_complete_dns_retry :
    EveryStep step TeardownComplete (fresh 1000 smooth)
      [⟨.connect splitRequest, smooth⟩, ⟨.disconnect, dnsStuck⟩,
        ⟨.disconnect, smooth⟩] := by
  refine teardown_complete 1000 smooth _ ⟨?_, ?_, ?_, trivial⟩
  · have lays : smooth.laySplit.Accountable :=
      ⟨fun _ => rfl, fun _ => rfl, ⟨rfl, rfl⟩⟩
    exact ⟨lays, ⟨rfl, rfl⟩, fun _ => ⟨fun _ => ⟨rfl, rfl⟩, fun _ => ⟨rfl, rfl⟩, rfl⟩,
      fun _ => .inl rfl, fun _ _ => ⟨rfl, rfl⟩,
      ⟨fun _ => ⟨rfl, rfl⟩, fun _ => ⟨rfl, rfl⟩, rfl⟩⟩
  · exact ⟨fun _ => ⟨rfl, rfl⟩, fun _ => ⟨rfl, rfl⟩, rfl⟩
  · exact ⟨fun _ => ⟨rfl, rfl⟩, fun _ => ⟨rfl, rfl⟩, rfl⟩

/-- A disconnect that cannot remove the routing of the split fails and forgets
the split; its retry returns `Ok` with the routing still in place. -/
theorem teardown_forgets_split :
    ¬∀ (ownerUid : Nat) (answers : SystemAnswers) (inputs : List Input),
      EveryStep step TeardownComplete (fresh ownerUid answers) inputs := by
  intro complete
  rcases complete 1000 smooth
    [⟨.connect splitRequest, smooth⟩, ⟨.disconnect, splitStuck⟩, ⟨.disconnect, smooth⟩] with
    ⟨_, _, retried, _⟩
  exact absurd (retried rfl ⟨_, rfl⟩) (by decide)

end System

end Varmlen.Daemon
