import Varmlen.Daemon.AppSelector
import Varmlen.Foundation.Checks
import Varmlen.Foundation.Run

/-!
# The watcher of an active split

Whether a split that its manager holds for active watches for the applications of the plan
that was accepted last.  A plan that is laid and fails is taken down; one that replaces
another and fails is not.
-/

namespace Varmlen.Daemon

open Foundation.Effect Foundation.Run

/-- A plan names an application. -/
structure NonemptyPlan extends SplitPlan where
  nonempty : applications ≠ []

inductive SplitCall where
  | apply (plan : NonemptyPlan)
  | updatePlan (plan : NonemptyPlan)
  | refreshRouting

/-- A call, and what the environment answers. -/
structure SplitInput where
  call : SplitCall
  answers : SplitAnswers
  canonicalize : String → Option String

/-- A manager in its world, and the rules of the plan that was accepted last. -/
structure Watched where
  manager : SplitManager SystemSplitBackend
  world : World
  accepted : Option (List String)

namespace Watched

def api (input : SplitInput) : SplitBackend SystemSplitBackend World :=
  SystemSplitBackend.api
    { input.answers with selectors := SystemSplitBackend.planSelectors input.canonicalize }

/-- The rules of a plan, if the call with it has succeeded. -/
def acceptedBy {α : Type} (input : SplitInput) (plan : SplitPlan)
    (result : Except SplitError α) (before : Option (List String)) : Option (List String) :=
  match result with
  | .error _ => before
  | .ok _ => (SystemSplitBackend.planSelectors input.canonicalize plan).toOption

def step (state : Watched) (input : SplitInput) : Watched :=
  match input.call with
  | .apply plan =>
      let (result, manager, world) :=
        SplitManager.apply (api input) plan.toSplitPlan state.manager state.world
      ⟨manager, world, acceptedBy input plan.toSplitPlan result state.accepted⟩
  | .updatePlan plan =>
      let (result, manager, world) :=
        SplitManager.updatePlan (api input) plan.toSplitPlan state.manager state.world
      ⟨manager, world, acceptedBy input plan.toSplitPlan result state.accepted⟩
  | .refreshRouting =>
      let (_, manager, world) :=
        SplitManager.refreshRouting (api input) state.manager state.world
      ⟨manager, world, state.accepted⟩

def initial (ownerUid : Nat) (world : World) : Watched where
  manager := .new (.new ownerUid)
  world := world
  accepted := none

/-- An active split watches for the applications of the accepted plan. -/
def Watches (state : Watched) : Prop :=
  state.manager.status = .active →
    ∃ selectors, state.accepted = some selectors ∧
      state.manager.backend.watcher = some selectors

/-- No plan that replaces the one of a live split fails once its rules are known, except in
the last pass over the processes and with the rules that there were before. -/
def Replaces (state : Watched) (input : SplitInput) : Prop :=
  match input.call with
  | .updatePlan plan =>
      state.manager.status = .active → ∀ selectors,
        SystemSplitBackend.planSelectors input.canonicalize plan.toSplitPlan = .ok selectors →
          input.answers.watcher = none ∧ input.answers.watcherHealthy = true ∧
            (input.answers.reconcile = none ∨ state.accepted = some selectors)
  | _ => True

/-- An active split has its cgroup. -/
def Grouped (state : Watched) : Prop :=
  state.manager.status = .active → state.manager.backend.cgroup = true

section Calls

variable {input : SplitInput} {plan : SplitPlan} {selectors : List String}
variable {manager : SplitManager SystemSplitBackend} {world : World} {state : Watched}
variable {answers : SplitAnswers} {backend : SystemSplitBackend}

theorem planSelectors_ne_nil {canonicalize : String → Option String}
    (nonempty : plan.applications ≠ [])
    (resolved : SystemSplitBackend.planSelectors canonicalize plan = .ok selectors) :
    selectors.isEmpty = false := by
  rw [SystemSplitBackend.planSelectors] at resolved
  cases applications : plan.applications with
  | nil => exact absurd applications nonempty
  | cons first rest =>
      rw [applications, List.mapM_cons, Foundation.Checks.bind_eq_ok] at resolved
      rcases resolved with ⟨_, _, resolved⟩
      rw [Foundation.Checks.bind_eq_ok] at resolved
      rcases resolved with ⟨_, _, resolved⟩
      cases resolved
      rfl

/-- What a successful laying leaves. -/
def Laid (answers : SplitAnswers) (plan : SplitPlan) (state : SystemSplitBackend.Site) : Prop :=
  state.1.cgroup = true ∧
    ∃ selectors, answers.selectors plan = .ok selectors ∧ state.1.watcher = some selectors

open SystemSplitBackend

/-- What holds after a step of the backend if it succeeds. -/
def Yields (holds : Site → Prop) (outcome : SplitOutcome Unit Site) : Prop :=
  Ends (fun _ state => holds state) (fun _ _ => True) outcome

theorem Yields.andThen {holds : Site → Prop} {first : SplitOutcome Unit Site}
    {next : Unit → Site → SplitOutcome Unit Site} (middle : Site → Prop)
    (before : Yields middle first)
    (after : ∀ state, middle state → Yields holds (next () state)) :
    Yields holds (andThen first next) :=
  ends_andThen before fun _ => after

theorem yields_failing {holds : Site → Prop} {start : Site} (failure : Option SplitError)
    (initially : holds start) : Yields holds (failing failure start) :=
  ends_failing (fun _ => initially) fun _ _ => trivial

theorem yields_needCgroup {holds : Site → Prop} {start : Site} (initially : holds start) :
    Yields holds (needCgroup start) := by
  rw [needCgroup]
  split
  next => exact initially
  next => trivial

def HasCgroup (state : Site) : Prop := state.1.cgroup = true

theorem createCgroup_grouped (uid : Nat) (start : Site) :
    Yields HasCgroup (createCgroup answers uid start) := by
  rw [createCgroup]
  split
  next => trivial
  next =>
    refine Yields.andThen (fun _ => True) (yields_failing _ trivial) ?_
    exact fun _ _ => rfl

theorem attachSocketMarkBpf_grouped {start : Site} (grouped : HasCgroup start) :
    Yields HasCgroup (attachSocketMarkBpf answers start) :=
  Yields.andThen HasCgroup (yields_needCgroup grouped) fun _ => yields_failing _

theorem layRouting_grouped {start : Site} (grouped : HasCgroup start) :
    Yields HasCgroup (layRouting answers start) := by
  refine Yields.andThen HasCgroup (yields_failing _ grouped) fun state grouped => ?_
  refine Yields.andThen HasCgroup (yields_needCgroup grouped) fun state grouped => ?_
  refine Yields.andThen HasCgroup ?_ fun _ grouped => grouped
  exact yields_failing _ grouped

theorem installRouteRules_grouped {start : Site} (grouped : HasCgroup start) :
    Yields HasCgroup (installRouteRules answers start) := by
  refine Yields.andThen HasCgroup (layRouting_grouped grouped) fun state grouped => ?_
  refine Yields.andThen HasCgroup ?_ fun _ grouped => grouped
  exact yields_failing _ grouped

theorem startWatcher_grouped {start : Site} (grouped : HasCgroup start) :
    Yields HasCgroup (startWatcher answers start) := by
  refine Yields.andThen HasCgroup (yields_needCgroup grouped) fun state grouped => ?_
  exact Yields.andThen HasCgroup (yields_failing _ grouped) fun _ => yields_failing _

theorem startPermissionWatcher_laid {start : Site} (grouped : HasCgroup start) :
    Yields (Laid answers plan)
      (startPermissionWatcher answers plan start) := by
  rw [startPermissionWatcher]
  split
  next => trivial
  next selectors resolved =>
    split
    next => trivial
    next =>
      refine Yields.andThen HasCgroup (startWatcher_grouped grouped) ?_
      exact fun _ grouped => ⟨grouped, selectors, resolved, rfl⟩

theorem startReconciler_backend (backend : SystemSplitBackend) :
    (startReconciler answers backend).watcher = backend.watcher ∧
      (startReconciler answers backend).cgroup = backend.cgroup := by
  rw [startReconciler]
  split
  next => exact ⟨rfl, rfl⟩
  next => exact ⟨rfl, rfl⟩

theorem startReconciler_laid {start : Site} (laid : Laid answers plan start) :
    Laid answers plan (startReconciler answers start.1, start.2) := by
  rcases laid with ⟨grouped, selectors, resolved, watched⟩
  have kept := @startReconciler_backend answers start.1
  exact ⟨kept.2.trans grouped, selectors, resolved, kept.1.trans watched⟩

theorem reconcileExisting_laid {start : Site} (laid : Laid answers plan start) :
    Yields (Laid answers plan) (reconcileExisting answers plan start) := by
  refine Yields.andThen (Laid answers plan) ?_ ?_
  · refine Yields.andThen (Laid answers plan) (yields_needCgroup laid) ?_
    exact fun _ => yields_failing _
  · exact fun _ laid => yields_failing _ (startReconciler_laid laid)

/-- A plan that was laid has its watcher. -/
theorem lay_laid (start : Site) :
    Yields (Laid answers plan)
      (SplitManager.lay (SystemSplitBackend.api answers) plan start) := by
  refine Yields.andThen HasCgroup (createCgroup_grouped plan.uid start) fun _ grouped => ?_
  refine Yields.andThen HasCgroup (attachSocketMarkBpf_grouped grouped) fun _ grouped => ?_
  refine Yields.andThen HasCgroup (installRouteRules_grouped grouped) fun _ grouped => ?_
  refine Yields.andThen (Laid answers plan)
    (startPermissionWatcher_laid grouped) fun _ laid => ?_
  exact reconcileExisting_laid laid

/-- The routing of a split is apart from its watcher and its cgroup. -/
theorem layRouting_backend (start : Site) :
    (layRouting answers start).2.1.watcher = start.1.watcher ∧
      (layRouting answers start).2.1.cgroup = start.1.cgroup := by
  rcases start with ⟨⟨_, cgroup, _, _, _, _, _⟩, world⟩
  rw [layRouting]
  cases answers.defaultRoute with
  | some error => exact ⟨rfl, rfl⟩
  | none =>
      cases cgroup with
      | false => exact ⟨rfl, rfl⟩
      | true =>
          unfold SystemSplitBackend.installRouting
          cases answers.routing.failure with
          | some error => exact ⟨rfl, rfl⟩
          | none => exact ⟨rfl, rfl⟩

/-- What becomes of a split whose plan is replaced. -/
theorem updatePlan_backend {start : Site} (grouped : HasCgroup start)
    (nonempty : ∀ selectors, answers.selectors plan = .ok selectors → selectors.isEmpty = false) :
    SystemSplitBackend.updatePlan answers plan start =
      match answers.selectors plan with
      | .error error => (.error error, start)
      | .ok selectors =>
          let cleared := ({ start.1.stopReconciler with watcher := none, selectors }, start.2)
          let watched := ({ cleared.1 with watcher := some selectors }, start.2)
          match answers.watcher, answers.watcherHealthy, answers.reconcile with
          | some error, _, _ => (.error error, cleared)
          | none, false, _ => (.error .watcherUnavailable, cleared)
          | none, true, some error => (.error error, watched)
          | none, true, none => (.ok (), startReconciler answers watched.1, watched.2) := by
  rcases start with ⟨⟨_, cgroup, _, _, _, _, _⟩, world⟩
  rcases (grouped : cgroup = true)
  rw [SystemSplitBackend.updatePlan]
  cases resolved : answers.selectors plan with
  | error error => rfl
  | ok selectors =>
      dsimp only
      rw [if_neg (by rw [nonempty selectors resolved]; exact Bool.false_ne_true)]
      unfold startWatcher reconcileOnce
      cases answers.watcher with
      | some error => rfl
      | none =>
          cases answers.watcherHealthy with
          | false => rfl
          | true =>
              cases answers.reconcile with
              | some error => rfl
              | none => rfl

/-! ## Steps -/

/-- A split that is laid is watched, and one that is not laid is not active. -/
theorem step_apply {plan : NonemptyPlan} (isApply : input.call = .apply plan) (state : Watched) :
    Watches (step state input) ∧ Grouped (step state input) := by
  have laid := @lay_laid plan.toSplitPlan
    { input.answers with selectors := planSelectors input.canonicalize }
    (state.manager.backend, state.world)
  rw [step, isApply]
  dsimp only [SplitManager.apply]
  rw [Yields] at laid
  cases outcome : SplitManager.lay (Watched.api input) plan.toSplitPlan
      (state.manager.backend, state.world) with
  | mk result left =>
      rw [Watched.api] at outcome
      rw [outcome] at laid
      cases result with
      | error error => exact ⟨nofun, nofun⟩
      | ok done =>
          rcases laid with ⟨grouped, selectors, resolved, watched⟩
          refine ⟨fun _ => ⟨selectors, ?_, watched⟩, fun _ => grouped⟩
          exact congrArg Except.toOption resolved

theorem step_refreshRouting (isRefresh : input.call = .refreshRouting) (watches : Watches state)
    (grouped : Grouped state) : Watches (step state input) ∧ Grouped (step state input) := by
  rw [step, isRefresh]
  dsimp only [SplitManager.refreshRouting]
  split
  next inactive =>
    exact ⟨fun active => absurd active inactive, fun active => absurd active inactive⟩
  next active =>
    rw [Decidable.not_not] at active
    have kept := @layRouting_backend
      { input.answers with selectors := planSelectors input.canonicalize }
      (state.manager.backend, state.world)
    rcases watches active with ⟨selectors, accepted, watched⟩
    exact ⟨fun _ => ⟨selectors, accepted, kept.1.trans watched⟩,
      fun _ => kept.2.trans (grouped active)⟩

/-- A live split whose plan is replaced is watched exactly if nothing is lost on the way. -/
theorem step_updatePlan {plan : NonemptyPlan} (isUpdate : input.call = .updatePlan plan)
    (watches : Watches state) (grouped : Grouped state) :
    (Watches (step state input) ↔ Replaces state input) ∧ Grouped (step state input) := by
  rw [step, Replaces, isUpdate]
  dsimp only [SplitManager.updatePlan]
  split
  next inactive =>
    refine ⟨iff_of_true ?_ ?_, fun active => absurd active inactive⟩
    · exact fun active => absurd active inactive
    · exact fun active => absurd active inactive
  next active =>
    rw [Decidable.not_not] at active
    have hasCgroup : HasCgroup (state.manager.backend, state.world) := grouped active
    have replaced := @updatePlan_backend plan.toSplitPlan
      { input.answers with selectors := planSelectors input.canonicalize }
      (state.manager.backend, state.world) hasCgroup
      fun _ => planSelectors_ne_nil plan.nonempty
    rw [Watched.api, SystemSplitBackend.api]
    dsimp only at replaced ⊢
    rw [replaced]
    cases resolved : planSelectors input.canonicalize plan.toSplitPlan with
    | error error =>
        exact ⟨iff_of_true watches nofun, grouped⟩
    | ok selectors =>
        cases failure : input.answers.watcher with
        | some error =>
            refine ⟨iff_of_false ?_ ?_, fun _ => hasCgroup⟩
            · intro watches
              rcases watches active with ⟨_, _, watched⟩
              cases watched
            · intro replaces
              cases (replaces active selectors rfl).1
        | none =>
            cases healthy : input.answers.watcherHealthy with
            | false =>
                refine ⟨iff_of_false ?_ ?_, fun _ => hasCgroup⟩
                · intro watches
                  rcases watches active with ⟨_, _, watched⟩
                  cases watched
                · intro replaces
                  cases (replaces active selectors rfl).2.1
            | true =>
                cases pass : input.answers.reconcile with
                | some error =>
                    refine ⟨?_, fun _ => hasCgroup⟩
                    constructor
                    · intro watches _ others same
                      cases same
                      rcases watches active with ⟨_, accepted, watched⟩
                      cases watched
                      exact ⟨rfl, rfl, .inr accepted⟩
                    · intro replaces _
                      rcases (replaces active selectors rfl).2.2 with passed | accepted
                      · cases passed
                      · exact ⟨selectors, accepted, rfl⟩
                | none =>
                    have kept := @startReconciler_backend
                      { input.answers with selectors := planSelectors input.canonicalize }
                      { state.manager.backend.stopReconciler with
                        watcher := some selectors, selectors }
                    refine ⟨iff_of_true ?_ ?_, fun _ => kept.2.trans hasCgroup⟩
                    · exact fun _ => ⟨selectors, congrArg Except.toOption resolved, kept.1⟩
                    · exact fun _ _ _ => ⟨rfl, rfl, .inl rfl⟩

/-- The runs whose active splits always watch for the accepted plan are those in which no
live split's plan is replaced and lost. -/
theorem watches_iff_replaces (ownerUid : Nat) (world : World) (inputs : List SplitInput) :
    Always step Watches (initial ownerUid world) inputs ↔
      EveryStep step Replaces (initial ownerUid world) inputs := by
  have stepExact (state : Watched) (input : SplitInput) (watches : Watches state)
      (grouped : Grouped state) :
      (Watches (step state input) ↔ Replaces state input) ∧ Grouped (step state input) := by
    cases call : input.call with
    | apply plan =>
        rcases step_apply call state with ⟨watched, kept⟩
        exact ⟨iff_of_true watched (by rw [Replaces, call]; trivial), kept⟩
    | updatePlan plan => exact step_updatePlan call watches grouped
    | refreshRouting =>
        rcases step_refreshRouting call watches grouped with ⟨watched, kept⟩
        exact ⟨iff_of_true watched (by rw [Replaces, call]; trivial), kept⟩
  refine @always_iff_everyStep Watched SplitInput step
    (fun state => Watches state ∧ Grouped state) Watches Replaces ?_ ?_ ?_ inputs _ ?_
  · exact fun _ holds => holds.1
  · exact fun state input holds => (stepExact state input holds.1 holds.2).1
  · intro state input holds replaces
    have exactly := stepExact state input holds.1 holds.2
    exact ⟨exactly.1.2 replaces, exactly.2⟩
  · exact ⟨nofun, nofun⟩

end Calls

/-! ## A plan that is lost -/

/-- Every command succeeds, except for the start of a watcher as given. -/
def answered (watcher : Option SplitError) : SplitAnswers where
  cgroup := none
  bpf := none
  defaultRoute := none
  routing := ⟨none, false⟩
  directDns := ⟨none, false⟩
  selectors _ := .ok []
  watcher
  watcherHealthy := true
  reconcile := none
  watcherStillHealthy := true
  reconcilerSpawned := true
  rollback := ⟨none, .done⟩

def emptyWorld : World := ⟨false, false, false, false, false, [], 1⟩

/-- Firefox is laid; then Steam is added, and the new watcher does not start. -/
def lostReplacement : List SplitInput :=
  [⟨.apply ⟨⟨1000, ["firefox"]⟩, by decide⟩, answered none, some⟩,
    ⟨.updatePlan ⟨⟨1000, ["firefox", "steam"]⟩, by decide⟩,
      answered (some .watcherUnavailable), some⟩]

/-- The split is still active, and nothing watches. -/
theorem lostReplacement_unwatched :
    (lostReplacement.foldl step (initial 1000 emptyWorld)).manager.status = .active ∧
      (lostReplacement.foldl step (initial 1000 emptyWorld)).manager.backend.watcher = none := by
  decide +kernel

end Watched

end Varmlen.Daemon
