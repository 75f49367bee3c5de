import Varmlen.Foundation.Storage

/-!
# Replacing a file as a whole

A new file is written under a temporary name and then renamed over the old one.  Wherever
this stops, the target is the old file or the new one; if the new file is synced before it
is renamed, a power loss does not change that, and if the names are synced afterwards, only
the new one is left.
-/

namespace Foundation.Storage

open Foundation.Effect
open Foundation.Files (Bytes)

/-- The names that count: those of this moment, and those a power loss can bring back. -/
def Disk.moments (disk : Disk) (loss : Bool) : List Names :=
  disk.names :: if loss then disk.earlier else []

/-- What each name in the scope stands for is allowed, at every moment that counts. -/
structure Guarded (loss : Bool) (scope : Set String) (allowed : String → Set (Option File))
    (disk : Disk) : Prop where
  bounded : ∀ names ∈ disk.moments loss, ∀ name number, names name = some number →
    number < disk.fresh
  held : ∀ names ∈ disk.moments loss, ∀ name ∈ scope, disk.find (names name) ∈ allowed name
  synced : loss = true → ∀ names ∈ disk.moments loss, ∀ name ∈ scope, ∀ number,
    names name = some number → (disk.nodes number).synced = true

/-- A new file stands ready, under a name of its own. -/
structure Staged (loss : Bool) (scope : Set String) (allowed : String → Set (Option File))
    (temporary : String) (node : Node) (disk : Disk) : Prop where
  guarded : Guarded loss scope allowed disk
  ready : ∃ number, disk.names temporary = some number ∧ disk.nodes number = node ∧
    ∀ names ∈ disk.moments loss, ∀ name ∈ scope, names name ≠ some number

/-- One more file is allowed under a name. -/
def allow (allowed : String → Set (Option File)) (target : String) (file : Option File) :
    String → Set (Option File) :=
  Function.update allowed target (insert file (allowed target))

theorem subset_allow (allowed : String → Set (Option File)) (target : String)
    (file : Option File) (name : String) : allowed name ⊆ allow allowed target file name := by
  by_cases same : name = target
  · rw [same, allow, Function.update_self]
    exact Set.subset_insert _ _
  · rw [allow, Function.update_of_ne same]

section Disks

variable {loss : Bool} {scope : Set String} {allowed more : String → Set (Option File)}
variable {disk : Disk}

theorem Guarded.mono (guarded : Guarded loss scope allowed disk)
    (subset : ∀ name ∈ scope, allowed name ⊆ more name) : Guarded loss scope more disk where
  bounded := guarded.bounded
  held names moment name within := subset name within (guarded.held names moment name within)
  synced := guarded.synced

theorem Guarded.read_mem (guarded : Guarded loss scope allowed disk) {name : String}
    (within : name ∈ scope) : disk.read name ∈ allowed name :=
  guarded.held disk.names List.mem_cons_self name within

theorem mem_moments_rename {names earlier : Names}
    (moment : earlier ∈ (disk.rename names).moments loss) :
    earlier = names ∨ earlier ∈ disk.moments loss := by
  cases loss with
  | false => exact .inl (List.mem_singleton.1 moment)
  | true => exact List.mem_cons.1 moment

/-- A file that no name in the scope has stood for can change. -/
theorem Guarded.setNode (guarded : Guarded loss scope allowed disk) {number : Nat}
    (unbound : ∀ names ∈ disk.moments loss, ∀ name ∈ scope, names name ≠ some number)
    (node : Node) : Guarded loss scope allowed (disk.setNode number node) where
  bounded := guarded.bounded
  held names moment name within := by
    have kept : (disk.setNode number node).find (names name) = disk.find (names name) := by
      cases found : names name with
      | none => rfl
      | some other =>
          have different : other ≠ number := fun same =>
            unbound names moment name within (same ▸ found)
          simp [Disk.find, Function.update_of_ne different]
    rw [kept]
    exact guarded.held names moment name within
  synced isLoss names moment name within other found := by
    have different : other ≠ number := fun same =>
      unbound names moment name within (same ▸ found)
    rw [Disk.setNode_nodes, Function.update_of_ne different]
    exact guarded.synced isLoss names moment name within other found

/-- The names can change, as long as they stand for files that are allowed and synced. -/
theorem Guarded.rename (guarded : Guarded loss scope allowed disk) (names : Names)
    (bounded : ∀ name number, names name = some number → number < disk.fresh)
    (held : ∀ name ∈ scope, disk.find (names name) ∈ allowed name)
    (synced : loss = true → ∀ name ∈ scope, ∀ number, names name = some number →
      (disk.nodes number).synced = true) :
    Guarded loss scope allowed (disk.rename names) where
  bounded earlier moment := by
    cases mem_moments_rename moment with
    | inl isNew => exact isNew ▸ bounded
    | inr before => exact guarded.bounded earlier before
  held earlier moment := by
    cases mem_moments_rename moment with
    | inl isNew => exact isNew ▸ held
    | inr before => exact guarded.held earlier before
  synced isLoss earlier moment := by
    cases mem_moments_rename moment with
    | inl isNew => exact isNew ▸ synced isLoss
    | inr before => exact guarded.synced isLoss earlier before

/-- The names outside the scope can change freely. -/
theorem Guarded.rename_outside (guarded : Guarded loss scope allowed disk) (names : Names)
    (bounded : ∀ name number, names name = some number → number < disk.fresh)
    (same : ∀ name ∈ scope, names name = disk.names name) :
    Guarded loss scope allowed (disk.rename names) := by
  have current : disk.names ∈ disk.moments loss := List.mem_cons_self
  apply guarded.rename names bounded
  · intro name within
    rw [same name within]
    exact guarded.held disk.names current name within
  · intro isLoss name within number found
    rw [same name within] at found
    exact guarded.synced isLoss disk.names current name within number found

/-- The bound of the names when one of them changes. -/
theorem bounded_update {names : Names} {fresh later : Nat}
    (bounded : ∀ name number, names name = some number → number < fresh) (changed : String)
    {given : Option Nat} (small : ∀ number, given = some number → number < later)
    (grows : fresh ≤ later) :
    ∀ name number, Function.update names changed given name = some number → number < later := by
  intro name number found
  by_cases same : name = changed
  · rw [same, Function.update_self] at found
    exact small number found
  · rw [Function.update_of_ne same] at found
    exact Nat.lt_of_lt_of_le (bounded name number found) grows

/-- A file that is created is a staged one. -/
theorem Guarded.create (guarded : Guarded loss scope allowed disk) {temporary : String}
    (outside : temporary ∉ scope) (mode owner : Nat) :
    Staged loss scope allowed temporary ⟨⟨[], mode, owner⟩, false⟩
      (disk.create temporary mode owner) := by
  have unused : ∀ names ∈ disk.moments loss, ∀ name ∈ scope, names name ≠ some disk.fresh := by
    intro names moment name _ found
    exact Nat.lt_irrefl _ (guarded.bounded names moment name disk.fresh found)
  have elsewhere : ∀ name ∈ scope, name ≠ temporary := by
    intro name within same
    exact outside (same ▸ within)
  have written := guarded.setNode unused ⟨⟨[], mode, owner⟩, false⟩
  have grown : Guarded loss scope allowed
      { disk.setNode disk.fresh ⟨⟨[], mode, owner⟩, false⟩ with fresh := disk.fresh + 1 } :=
    ⟨fun names moment name number found =>
        Nat.lt_succ_of_lt (guarded.bounded names moment name number found),
      written.held, written.synced⟩
  refine ⟨grown.rename_outside (Function.update disk.names temporary (some disk.fresh)) ?_ ?_,
    disk.fresh, ?_, ?_, ?_⟩
  · apply bounded_update (guarded.bounded disk.names List.mem_cons_self) temporary
    · intro number isFresh
      exact Option.some.inj isFresh ▸ Nat.lt_succ_self _
    · exact Nat.le_succ _
  · intro name within
    exact Function.update_of_ne (elsewhere name within) _ _
  · simp [Disk.create]
  · simp [Disk.create]
  · intro names moment name within
    cases mem_moments_rename moment with
    | inl isNew =>
        rw [isNew, Disk.rename_names, Function.update_of_ne (elsewhere name within)]
        exact unused disk.names List.mem_cons_self name within
    | inr before => exact unused names before name within

end Disks

/-! ## Power losses -/

theorem Guarded.losePower {scope : Set String} {allowed : String → Set (Option File)} {disk : Disk}
    (guarded : Guarded true scope allowed disk) (moment : String → Nat) (garbage : Nat → File) :
    Guarded true scope allowed (disk.losePower moment garbage) := by
  have only (names : Names) (current : names ∈ (disk.losePower moment garbage).moments true) :
      ∀ name, ∃ before ∈ disk.moments true, names name = before name := by
    intro name
    rw [List.mem_singleton.1 current]
    refine ⟨(disk.names :: disk.earlier).getD (moment name) disk.names, ?_, rfl⟩
    rw [List.getD_eq_getElem?_getD]
    cases found : (disk.names :: disk.earlier)[moment name]? with
    | none => exact List.mem_cons_self
    | some before => exact List.mem_of_getElem? found
  constructor
  · intro names current name number found
    obtain ⟨before, wasMoment, same⟩ := only names current name
    exact guarded.bounded before wasMoment name number (same ▸ found)
  · intro names current name within
    obtain ⟨before, wasMoment, same⟩ := only names current name
    rw [same]
    have held := guarded.held before wasMoment name within
    cases found : before name with
    | none => rwa [found] at held
    | some number =>
        have synced := guarded.synced rfl before wasMoment name within number found
        rw [found] at held
        rw [Disk.find, Option.map_some, Disk.losePower_of_synced synced]
        exact held
  · intro isLoss names current name within number found
    exact Disk.losePower_synced

/-! ## Actions -/

section Actions

variable {loss : Bool} {scope : Set String} {allowed : String → Set (Option File)}
variable {disk : Disk} {node : Node} {user : Nat} {temporary target : String}

theorem Staged.setNode (staged : Staged loss scope allowed temporary node disk) {number : Nat}
    (found : disk.names temporary = some number) (changed : Node) :
    Staged loss scope allowed temporary changed (disk.setNode number changed) := by
  obtain ⟨own, isOwn, _, unbound⟩ := staged.ready
  have same : number = own := Option.some.inj (found.symm.trans isOwn)
  refine ⟨staged.guarded.setNode (same ▸ unbound) changed, number, found, ?_, same ▸ unbound⟩
  rw [Disk.setNode_nodes, Function.update_self]

theorem Staged.effect_edit (staged : Staged loss scope allowed temporary node disk)
    {edit : Edit} {after : Disk} (done : effect user (.edit temporary edit) disk = some after) :
    Staged loss scope allowed temporary ⟨edit.apply node.file, false⟩ after := by
  obtain ⟨number, found, isNode, _⟩ := staged.ready
  rw [effect, found, Option.map_some, Option.some.injEq, isNode] at done
  exact done ▸ staged.setNode found _

theorem Staged.effect_sync (staged : Staged loss scope allowed temporary node disk)
    {after : Disk} (done : effect user (.sync temporary) disk = some after) :
    Staged loss scope allowed temporary ⟨node.file, true⟩ after := by
  obtain ⟨number, found, isNode, _⟩ := staged.ready
  rw [effect, found, Option.map_some, Option.some.injEq, isNode] at done
  exact done ▸ staged.setNode found _

/-- The new file takes the place of the old one. -/
theorem Staged.effect_rename (staged : Staged loss scope allowed temporary node disk)
    (outside : temporary ∉ scope) (durable : loss = true → node.synced = true) {after : Disk}
    (done : effect user (.rename temporary target) disk = some after) :
    Guarded loss scope (allow allowed target (some node.file)) after ∧
      after.read target = some node.file := by
  obtain ⟨number, found, isNode, _⟩ := staged.ready
  have guarded := staged.guarded
  have current : disk.names ∈ disk.moments loss := List.mem_cons_self
  rw [effect, found, Option.map_some, Option.some.injEq] at done
  subst done
  have elsewhere {name : String} (within : name ∈ scope) (different : name ≠ target) :
      Function.update (Function.update disk.names temporary none) target (some number) name =
        disk.names name := by
    rw [Function.update_of_ne different, Function.update_of_ne]
    intro same
    exact outside (same ▸ within)
  constructor
  · apply (guarded.mono fun name _ => subset_allow allowed target (some node.file) name).rename
    · apply bounded_update _ target
      · intro given same
        exact Option.some.inj same ▸ guarded.bounded disk.names current temporary number found
      · exact le_rfl
      · apply bounded_update (guarded.bounded disk.names current) temporary
        · intro given isSome
          cases isSome
        · exact le_rfl
    · intro name within
      by_cases different : name = target
      · rw [different, Function.update_self, allow, Function.update_self, Disk.find,
          Option.map_some, isNode]
        exact Set.mem_insert _ _
      · rw [elsewhere within different]
        exact subset_allow allowed target _ name (guarded.held disk.names current name within)
    · intro isLoss name within given named
      by_cases different : name = target
      · rw [different, Function.update_self, Option.some.injEq] at named
        rw [← named, isNode]
        exact durable isLoss
      · rw [elsewhere within different] at named
        exact guarded.synced isLoss disk.names current name within given named
  · rw [Disk.read, Disk.rename_names, Function.update_self, Disk.find, Option.map_some]
    exact congrArg some (congrArg Node.file isNode)

/-- Removing a name outside the scope changes nothing in it. -/
theorem Guarded.effect_remove_outside (guarded : Guarded loss scope allowed disk)
    (outside : temporary ∉ scope) {after : Disk}
    (done : effect user (.remove temporary) disk = some after) :
    Guarded loss scope allowed after := by
  rw [effect] at done
  obtain ⟨number, found, isAfter⟩ := Option.map_eq_some_iff.1 done
  rw [← isAfter]
  apply guarded.rename_outside
  · apply bounded_update (guarded.bounded disk.names List.mem_cons_self) temporary
    · intro given isSome
      cases isSome
    · exact le_rfl
  · intro name within
    rw [Function.update_of_ne]
    intro same
    exact outside (same ▸ within)

/-- When a target is removed, it may stand for nothing. -/
theorem Guarded.effect_remove (guarded : Guarded loss scope allowed disk) {after : Disk}
    (done : effect user (.remove target) disk = some after) :
    Guarded loss scope (allow allowed target none) after := by
  have current : disk.names ∈ disk.moments loss := List.mem_cons_self
  rw [effect] at done
  obtain ⟨number, found, isAfter⟩ := Option.map_eq_some_iff.1 done
  rw [← isAfter]
  apply (guarded.mono fun name _ => subset_allow allowed target none name).rename
  · apply bounded_update (guarded.bounded disk.names current) target
    · intro given isSome
      cases isSome
    · exact le_rfl
  · intro name within
    by_cases same : name = target
    · rw [same, Function.update_self, allow, Function.update_self]
      exact Set.mem_insert _ _
    · rw [Function.update_of_ne same]
      exact subset_allow allowed target none name (guarded.held disk.names current name within)
  · intro isLoss name within given named
    by_cases same : name = target
    · rw [same, Function.update_self] at named
      cases named
    · rw [Function.update_of_ne same] at named
      exact guarded.synced isLoss disk.names current name within given named

/-- Once the names are synced, only what they stand for at this moment counts. -/
theorem Guarded.effect_syncDirectory (guarded : Guarded loss scope allowed disk)
    {file : Option File} (read : disk.read target = file) {after : Disk}
    (done : effect user .syncDirectory disk = some after) :
    Guarded loss scope (Function.update allowed target {file}) after ∧
      after.read target = file := by
  rw [effect, Option.some.injEq] at done
  subst done
  have only (names : Names) (moment : names ∈ Disk.moments { disk with earlier := [] } loss) :
      names = disk.names := by
    cases loss <;> exact List.mem_singleton.1 moment
  have current : disk.names ∈ disk.moments loss := List.mem_cons_self
  refine ⟨⟨?_, ?_, ?_⟩, read⟩
  · intro names moment
    exact only names moment ▸ guarded.bounded disk.names current
  · intro names moment name within
    rw [only names moment]
    by_cases same : name = target
    · rw [same, Function.update_self]
      exact read
    · rw [Function.update_of_ne same]
      exact guarded.held disk.names current name within
  · intro isLoss names moment
    exact only names moment ▸ guarded.synced isLoss disk.names current

end Actions

/-! ## Names of files of their own -/

/-- No file has two names. -/
structure Distinct (disk : Disk) : Prop where
  bounded : ∀ name number, disk.names name = some number → number < disk.fresh
  injective : ∀ name other number, disk.names name = some number →
    disk.names other = some number → name = other

section Distinct

variable {disk after : Disk} {user : Nat}

theorem Distinct.create (distinct : Distinct disk) (name : String) (mode owner : Nat) :
    Distinct (disk.create name mode owner) := by
  constructor
  · apply bounded_update distinct.bounded name
    · intro number isFresh
      exact Option.some.inj isFresh ▸ Nat.lt_succ_self _
    · exact Nat.le_succ _
  · have stays {other : String} {number : Nat} (different : other ≠ name)
        (found : Function.update disk.names name (some disk.fresh) other = some number) :
        disk.names other = some number ∧ number ≠ disk.fresh := by
      rw [Function.update_of_ne different] at found
      exact ⟨found, Nat.ne_of_lt (distinct.bounded other number found)⟩
    intro left right number
    simp only [Disk.create, Disk.rename]
    intro foundLeft foundRight
    by_cases isLeft : left = name
    · rw [isLeft, Function.update_self, Option.some.injEq] at foundLeft
      by_cases isRight : right = name
      · rw [isLeft, isRight]
      · exact absurd foundLeft.symm (stays isRight foundRight).2
    · by_cases isRight : right = name
      · rw [isRight, Function.update_self, Option.some.injEq] at foundRight
        exact absurd foundRight.symm (stays isLeft foundLeft).2
      · exact distinct.injective left right number (stays isLeft foundLeft).1
          (stays isRight foundRight).1

theorem Distinct.forget (distinct : Distinct disk) (name : String) :
    Distinct (disk.rename (Function.update disk.names name none)) := by
  have stays {other : String} {number : Nat}
      (found : Function.update disk.names name none other = some number) :
      disk.names other = some number := by
    by_cases same : other = name
    · rw [same, Function.update_self] at found
      cases found
    · rwa [Function.update_of_ne same] at found
  exact ⟨fun other number found => distinct.bounded other number (stays found),
    fun left right number foundLeft foundRight =>
      distinct.injective left right number (stays foundLeft) (stays foundRight)⟩

theorem Distinct.move (distinct : Distinct disk) {source target : String} {number : Nat}
    (found : disk.names source = some number) :
    Distinct (disk.rename
      (Function.update (Function.update disk.names source none) target (some number))) := by
  have stays {other : String} {given : Nat} (different : other ≠ target)
      (named : Function.update (Function.update disk.names source none) target (some number) other =
        some given) : disk.names other = some given ∧ given ≠ number := by
    rw [Function.update_of_ne different] at named
    by_cases same : other = source
    · rw [same, Function.update_self] at named
      cases named
    · rw [Function.update_of_ne same] at named
      refine ⟨named, ?_⟩
      intro isNumber
      exact same (distinct.injective other source number (isNumber ▸ named) found)
  constructor
  · intro other given named
    by_cases isTarget : other = target
    · rw [Disk.rename_names, isTarget, Function.update_self, Option.some.injEq] at named
      exact named ▸ distinct.bounded source number found
    · exact distinct.bounded other given (stays isTarget named).1
  · intro left right given
    rw [Disk.rename_names]
    intro foundLeft foundRight
    by_cases isLeft : left = target
    · rw [isLeft, Function.update_self, Option.some.injEq] at foundLeft
      by_cases isRight : right = target
      · rw [isLeft, isRight]
      · exact absurd foundLeft.symm (stays isRight foundRight).2
    · by_cases isRight : right = target
      · rw [isRight, Function.update_self, Option.some.injEq] at foundRight
        exact absurd foundRight.symm (stays isLeft foundLeft).2
      · exact distinct.injective left right given (stays isLeft foundLeft).1
          (stays isRight foundRight).1

theorem Distinct.effect (distinct : Distinct disk) (action : Action)
    (done : effect user action disk = some after) : Distinct after := by
  have unchanged (number : Nat) (node : Node) : Distinct (disk.setNode number node) :=
    ⟨distinct.bounded, distinct.injective⟩
  cases action with
  | createNew name mode =>
      rw [Storage.effect] at done
      split at done
      next => cases done
      next => exact Option.some.inj done ▸ distinct.create name mode user
  | create name mode =>
      rw [Storage.effect] at done
      split at done
      next => exact Option.some.inj done ▸ unchanged _ _
      next => exact Option.some.inj done ▸ distinct.create name mode user
  | edit name edit =>
      obtain ⟨number, _, isAfter⟩ := Option.map_eq_some_iff.1 done
      exact isAfter ▸ unchanged _ _
  | sync name =>
      obtain ⟨number, _, isAfter⟩ := Option.map_eq_some_iff.1 done
      exact isAfter ▸ unchanged _ _
  | rename source target =>
      obtain ⟨number, found, isAfter⟩ := Option.map_eq_some_iff.1 done
      exact isAfter ▸ distinct.move found
  | remove name =>
      obtain ⟨number, _, isAfter⟩ := Option.map_eq_some_iff.1 done
      exact isAfter ▸ distinct.forget name
  | syncDirectory => exact Option.some.inj done ▸ ⟨distinct.bounded, distinct.injective⟩

/-- What every action keeps is kept by any number of them, wherever they stop. -/
theorem carryOut_preserves {property : Disk → Prop}
    (kept : ∀ action disk after, property disk → Storage.effect user action disk = some after →
      property after)
    (actions : List Action) (fates : List Fate) (holds : property disk) :
    property (carryOut user actions fates disk).2 := by
  induction actions generalizing fates disk with
  | nil => exact holds
  | cons action rest ih =>
      have first : Ends (fun _ => property) (fun _ => property)
          (perform user (fates.headD .done) action disk) :=
        ends_perform _ holds (fun after done => kept action disk after holds done)
          fun count part after _ done => kept part disk after holds done
      have ends : Ends (fun _ => property) (fun _ => property)
          (carryOut user (action :: rest) fates disk) :=
        ends_andThen first fun value reached holds => ends_iff_state.2 (ih fates.tail holds)
      exact ends_iff_state.1 ends

end Distinct

/-! ## Actions elsewhere -/

/-- The names that an action is about. -/
def Action.about : Action → List String
  | .createNew name _ | .create name _ | .edit name _ | .sync name | .remove name => [name]
  | .rename source target => [source, target]
  | .syncDirectory => []

section Elsewhere

variable {scope : Set String} {allowed : String → Set (Option File)} {disk after : Disk}
variable {user : Nat}

/-- An action on other names changes nothing in the scope. -/
theorem Guarded.effect_outside (guarded : Guarded false scope allowed disk)
    (distinct : Distinct disk) (action : Action) (outside : ∀ name ∈ action.about, name ∉ scope)
    (done : effect user action disk = some after) : Guarded false scope allowed after := by
  have unbound {name : String} {number : Nat} (apart : name ∉ scope)
      (found : disk.names name = some number) :
      ∀ names ∈ disk.moments false, ∀ other ∈ scope, names other ≠ some number := by
    intro names moment other within named
    rw [List.mem_singleton.1 moment] at named
    exact apart (distinct.injective _ _ number named found ▸ within)
  have changed {name : String} (apart : name ∉ scope) {given : Option Nat} (names : Names) :
      ∀ other ∈ scope, Function.update names name given other = names other := by
    intro other within
    rw [Function.update_of_ne]
    intro same
    exact apart (same ▸ within)
  cases action with
  | createNew name mode =>
      have apart := outside name (by simp [Action.about])
      rw [effect] at done
      split at done
      next => cases done
      next => exact Option.some.inj done ▸ (guarded.create apart mode user).guarded
  | create name mode =>
      have apart := outside name (by simp [Action.about])
      rw [effect] at done
      split at done
      next number found =>
        exact Option.some.inj done ▸ guarded.setNode (unbound apart found) _
      next => exact Option.some.inj done ▸ (guarded.create apart mode user).guarded
  | edit name edit =>
      obtain ⟨number, found, isAfter⟩ := Option.map_eq_some_iff.1 done
      exact isAfter ▸ guarded.setNode (unbound (outside name (by simp [Action.about])) found) _
  | sync name =>
      obtain ⟨number, found, isAfter⟩ := Option.map_eq_some_iff.1 done
      exact isAfter ▸ guarded.setNode (unbound (outside name (by simp [Action.about])) found) _
  | rename source target =>
      obtain ⟨number, found, isAfter⟩ := Option.map_eq_some_iff.1 done
      rw [← isAfter]
      apply guarded.rename_outside _ (distinct.move found).bounded
      intro other within
      exact (changed (outside target (by simp [Action.about])) _ other within).trans
        (changed (outside source (by simp [Action.about])) _ other within)
  | remove name =>
      obtain ⟨number, found, isAfter⟩ := Option.map_eq_some_iff.1 done
      rw [← isAfter]
      apply guarded.rename_outside _ (distinct.forget name).bounded
      exact changed (outside name (by simp [Action.about])) disk.names
  | syncDirectory =>
      rw [← Option.some.inj done]
      exact ⟨guarded.bounded, guarded.held, fun isLoss => by cases isLoss⟩

theorem about_part {count : Nat} {action part : Action} (isPart : action.part count = some part) :
    part.about = action.about := by
  rw [Action.part.eq_def] at isPart
  split at isPart
  next name bytes => exact (congrArg Action.about (Option.some.inj isPart)).symm
  next =>
    split at isPart
    · cases isPart
    · exact congrArg Action.about (Option.some.inj isPart).symm

theorem Guarded.carryOut_outside (guarded : Guarded false scope allowed disk)
    (distinct : Distinct disk) (actions : List Action) (fates : List Fate)
    (outside : ∀ action ∈ actions, ∀ name ∈ action.about, name ∉ scope) :
    Guarded false scope allowed (carryOut user actions fates disk).2 := by
  induction actions generalizing fates disk with
  | nil => exact guarded
  | cons action rest ih =>
      have apart := outside action List.mem_cons_self
      have first : Ends (fun _ after => Guarded false scope allowed after ∧ Distinct after)
          (fun _ => Guarded false scope allowed)
          (perform user (fates.headD .done) action disk) := by
        apply ends_perform _ guarded
        · intro after done
          exact ⟨guarded.effect_outside distinct action apart done, distinct.effect action done⟩
        · intro count part after isPart done
          exact guarded.effect_outside distinct part (about_part isPart ▸ apart) done
      have ends : Ends (fun _ => Guarded false scope allowed) (fun _ => Guarded false scope allowed)
          (carryOut user (action :: rest) fates disk) := by
        apply ends_andThen first
        intro value reached both
        exact ends_iff_state.2
          (ih both.1 both.2 fates.tail fun action member =>
            outside action (List.mem_cons_of_mem _ member))
      exact ends_iff_state.1 ends

end Elsewhere

/-! ## Replacements -/

/-- How a program replaces a file. -/
structure Replacement where
  target : String
  temporary : String
  /-- The temporary file must not be there before. -/
  exclusive : Bool
  mode : Nat
  edits : List Edit
  /-- The new file is synced before it is renamed. -/
  syncs : Bool
  /-- The names are synced at the end. -/
  syncsNames : Bool
  /-- The temporary file is removed after an error. -/
  cleansUp : Bool

namespace Replacement

def opening (replacement : Replacement) : Action :=
  if replacement.exclusive then .createNew replacement.temporary replacement.mode
  else .create replacement.temporary replacement.mode

def closing (replacement : Replacement) : List Action :=
  (if replacement.syncs then [.sync replacement.temporary] else []) ++
    .rename replacement.temporary replacement.target ::
    if replacement.syncsNames then [.syncDirectory] else []

def actions (replacement : Replacement) : List Action :=
  replacement.opening ::
    (replacement.edits.map (.edit replacement.temporary) ++ replacement.closing)

def cleanup (replacement : Replacement) : List Action :=
  if replacement.cleansUp then [.remove replacement.temporary] else []

def run (replacement : Replacement) (user : Nat) (fates cleanupFates : List Fate)
    (disk : Disk) : Except Stop Unit × Disk :=
  carryOutOr user replacement.actions replacement.cleanup fates cleanupFates disk

/-- The files that a replacement can make: one that is left over from before keeps its owner
and its mode when it is emptied. -/
def Makes (replacement : Replacement) (user : Nat) (file : File) : Prop :=
  ∃ start : File, start.bytes = [] ∧
    (replacement.exclusive = true → start.mode = replacement.mode ∧ start.owner = user) ∧
    file = replacement.edits.foldl (fun file edit => edit.apply file) start

/-- What holds between replacements: without exclusive creation a file that is left over must
not be a target under another name, which it can be after a power loss. -/
structure Ready (replacement : Replacement) (loss : Bool) (scope : Set String)
    (allowed : String → Set (Option File)) (disk : Disk) : Prop where
  outside : replacement.temporary ∉ scope
  durable : loss = true → replacement.exclusive = true ∧ replacement.syncs = true
  guarded : Guarded loss scope allowed disk
  distinct : replacement.exclusive = false → Distinct disk

/-- The files that are allowed under the target when a new one was made. -/
def allowedAfter (replacement : Replacement) (allowed : String → Set (Option File))
    (file : File) : String → Set (Option File) :=
  if replacement.syncsNames then Function.update allowed replacement.target {some file}
  else allow allowed replacement.target (some file)

theorem allowedAfter_of_synced {replacement : Replacement} {allowed : String → Set (Option File)}
    (synced : replacement.syncsNames = true) (file : File) :
    replacement.allowedAfter allowed file replacement.target = {some file} := by
  rw [allowedAfter, if_pos synced, Function.update_self]

/-- What holds after a replacement that was carried out. -/
def Done (replacement : Replacement) (user : Nat) (loss : Bool) (scope : Set String)
    (allowed : String → Set (Option File)) (disk : Disk) : Prop :=
  ∃ file, replacement.Makes user file ∧ disk.read replacement.target = some file ∧
    Guarded loss scope (replacement.allowedAfter allowed file) disk

/-- What holds wherever it stops. -/
def Stopped (replacement : Replacement) (user : Nat) (loss : Bool) (scope : Set String)
    (allowed : String → Set (Option File)) (disk : Disk) : Prop :=
  Guarded loss scope allowed disk ∨
    ∃ file, replacement.Makes user file ∧
      Guarded loss scope (allow allowed replacement.target (some file)) disk

section Runs

variable {replacement : Replacement} {user : Nat} {loss : Bool} {scope : Set String}
variable {allowed : String → Set (Option File)} {disk : Disk} {node : Node}

/-- An action other than writing takes effect as a whole, or not at all. -/
theorem part_eq {count : Nat} {action part : Action}
    (whole : ∀ name bytes, action ≠ .edit name (.append bytes))
    (isPart : action.part count = some part) : part = action := by
  rw [Action.part.eq_def] at isPart
  split at isPart
  next name bytes => exact absurd rfl (whole name bytes)
  next =>
    split at isPart
    · cases isPart
    · exact (Option.some.inj isPart).symm

theorem ends_cons {ok failed : Disk → Prop} {action : Action} {rest : List Action}
    {fates : List Fate} (refused : failed disk)
    (cut : ∀ count part after, action.part count = some part →
      effect user part disk = some after → failed after)
    (next : ∀ after, effect user action disk = some after →
      Ends (fun _ => ok) (fun _ => failed) (carryOut user rest fates.tail after)) :
    Ends (fun _ => ok) (fun _ => failed) (carryOut user (action :: rest) fates disk) := by
  have first : Ends (fun _ after => effect user action disk = some after) (fun _ => failed)
      (perform user (fates.headD .done) action disk) :=
    ends_perform _ refused (fun _ done => done) cut
  exact ends_andThen first fun _ after done => next after done

/-- The rename, and the names synced after it. -/
theorem ends_rename (staged : Staged loss scope allowed replacement.temporary node disk)
    (outside : replacement.temporary ∉ scope) (durable : loss = true → node.synced = true)
    (fates : List Fate) :
    Ends
      (fun _ after => after.read replacement.target = some node.file ∧
        Guarded loss scope (replacement.allowedAfter allowed node.file) after)
      (fun _ => Guarded loss scope (allow allowed replacement.target (some node.file)))
      (carryOut user (.rename replacement.temporary replacement.target ::
        if replacement.syncsNames then [.syncDirectory] else []) fates disk) := by
  have grows := staged.guarded.mono fun name _ =>
    subset_allow allowed replacement.target (some node.file) name
  apply ends_cons
  · exact grows
  · intro count part after isPart done
    rw [part_eq (by simp) isPart] at done
    exact (staged.effect_rename outside durable done).1
  · intro after done
    have replaced := staged.effect_rename outside durable done
    rw [allowedAfter]
    cases replacement.syncsNames with
    | false => exact ⟨replaced.2, replaced.1⟩
    | true =>
        have synced {later : Disk} (done : effect user .syncDirectory after = some later) :
            Guarded loss scope (Function.update allowed replacement.target {some node.file})
              later := by
          apply (replaced.1.effect_syncDirectory replaced.2 done).1.mono
          intro name within
          rw [allow, Function.update_idem]
        apply ends_cons
        · exact replaced.1
        · intro count part later isPart done
          rw [part_eq (by simp) isPart] at done
          apply (synced done).mono
          intro name within
          by_cases same : name = replacement.target
          · rw [same, allow, Function.update_self, Function.update_self]
            simp
          · rw [Function.update_of_ne same]
            exact subset_allow allowed replacement.target _ name
        · intro later done
          exact ⟨(replaced.1.effect_syncDirectory replaced.2 done).2, synced done⟩

theorem ends_closing (staged : Staged loss scope allowed replacement.temporary node disk)
    (outside : replacement.temporary ∉ scope)
    (durable : loss = true → replacement.syncs = true) (made : replacement.Makes user node.file)
    (fates : List Fate) :
    Ends (fun _ => replacement.Done user loss scope allowed)
      (fun _ => replacement.Stopped user loss scope allowed)
      (carryOut user replacement.closing fates disk) := by
  rw [closing]
  cases syncs : replacement.syncs with
  | false =>
      have noLoss : loss = true → node.synced = true := by
        intro isLoss
        rw [durable isLoss] at syncs
        cases syncs
      exact ends_mono (ends_rename staged outside noLoss fates)
        (fun _ after replaced => ⟨node.file, made, replaced⟩)
        (fun _ after guarded => .inr ⟨node.file, made, guarded⟩)
  | true =>
      apply ends_cons
      · exact .inl staged.guarded
      · intro count part after isPart done
        rw [part_eq (by simp) isPart] at done
        exact .inl (staged.effect_sync done).guarded
      · intro after done
        have synced := staged.effect_sync done
        exact ends_mono (ends_rename synced outside (fun _ => rfl) fates.tail)
          (fun _ after replaced => ⟨node.file, made, replaced⟩)
          (fun _ after guarded => .inr ⟨node.file, made, guarded⟩)

/-- The edits of the new file, and what follows. -/
theorem ends_edits {ok failed : Disk → Prop} {rest : List Action} {temporary : String}
    (edits : List Edit) (fates : List Fate)
    (staged : Staged loss scope allowed temporary node disk)
    (guarded : ∀ after, Guarded loss scope allowed after → failed after)
    (next : ∀ given after fates,
      given.file = edits.foldl (fun file edit => edit.apply file) node.file →
      Staged loss scope allowed temporary given after →
      Ends (fun _ => ok) (fun _ => failed) (carryOut user rest fates after)) :
    Ends (fun _ => ok) (fun _ => failed)
      (carryOut user (edits.map (.edit temporary) ++ rest) fates disk) := by
  induction edits generalizing node disk fates with
  | nil => exact next node disk fates rfl staged
  | cons edit edits ih =>
      apply ends_cons
      · exact guarded disk staged.guarded
      · intro count part after isPart done
        have isEdit : ∃ other, part = .edit temporary other := by
          cases edit with
          | append bytes => exact ⟨_, (Option.some.inj isPart).symm⟩
          | truncate | setMode mode | setOwner owner => exact ⟨_, part_eq (by simp) isPart⟩
        obtain ⟨other, rfl⟩ := isEdit
        exact guarded after (staged.effect_edit done).guarded
      · intro after done
        exact ih fates.tail (staged.effect_edit done) next

/-- A file that is opened is empty, and a new one has the mode and the owner it is given. -/
theorem Ready.effect_opening (ready : replacement.Ready loss scope allowed disk) {after : Disk}
    (done : effect user replacement.opening disk = some after) :
    ∃ start : File, start.bytes = [] ∧
      (replacement.exclusive = true → start.mode = replacement.mode ∧ start.owner = user) ∧
      Staged loss scope allowed replacement.temporary ⟨start, false⟩ after := by
  have created := ready.guarded.create ready.outside replacement.mode user
  rw [opening] at done
  cases exclusive : replacement.exclusive with
  | true =>
      rw [exclusive, if_pos rfl, effect] at done
      cases found : disk.names replacement.temporary with
      | some number => simp [found] at done
      | none =>
          rw [found] at done
          exact ⟨_, rfl, fun _ => ⟨rfl, rfl⟩, Option.some.inj done ▸ created⟩
  | false =>
      rw [exclusive, if_neg (by simp), effect] at done
      cases found : disk.names replacement.temporary with
      | none =>
          rw [found] at done
          exact ⟨_, rfl, fun _ => ⟨rfl, rfl⟩, Option.some.inj done ▸ created⟩
      | some number =>
          rw [found] at done
          have noLoss : loss = false := by
            cases loss with
            | false => rfl
            | true =>
                rw [(ready.durable rfl).1] at exclusive
                cases exclusive
          refine ⟨Edit.truncate.apply (disk.nodes number).file, rfl, ?_, ?_⟩
          · intro isNew
            cases isNew
          · rw [← Option.some.inj done]
            refine Staged.setNode ⟨ready.guarded, number, found, rfl, ?_⟩ found _
            intro names moment name within named
            rw [noLoss] at moment
            rw [List.mem_singleton.1 moment] at named
            have same := (ready.distinct exclusive).injective _ _ number named found
            exact ready.outside (same ▸ within)

theorem opening_ne (replacement : Replacement) (name : String) (bytes : Bytes) :
    replacement.opening ≠ .edit name (.append bytes) := by
  rw [opening]
  split <;> simp

theorem ends_actions (ready : replacement.Ready loss scope allowed disk) (fates : List Fate) :
    Ends (fun _ => replacement.Done user loss scope allowed)
      (fun _ => replacement.Stopped user loss scope allowed)
      (carryOut user replacement.actions fates disk) := by
  apply ends_cons
  · exact .inl ready.guarded
  · intro count part after isPart done
    rw [part_eq replacement.opening_ne isPart] at done
    obtain ⟨start, _, _, staged⟩ := ready.effect_opening done
    exact .inl staged.guarded
  · intro after done
    obtain ⟨start, isEmpty, isNew, staged⟩ := ready.effect_opening done
    apply ends_edits replacement.edits fates.tail staged
    · intro other guarded
      exact .inl guarded
    · intro node other left isFile staged
      exact ends_closing staged ready.outside (fun isLoss => (ready.durable isLoss).2)
        ⟨start, isEmpty, isNew, isFile⟩ left

/-- The removal of the temporary file, when there is one. -/
theorem guarded_cleanup (guarded : Guarded loss scope allowed disk)
    (outside : replacement.temporary ∉ scope) (fates : List Fate) :
    Guarded loss scope allowed (carryOut user replacement.cleanup fates disk).2 := by
  rw [Replacement.cleanup]
  cases replacement.cleansUp with
  | false => exact guarded
  | true =>
      have ends : Ends (fun _ => Guarded loss scope allowed) (fun _ => Guarded loss scope allowed)
          (carryOut user [.remove replacement.temporary] fates disk) := by
        apply ends_cons
        · exact guarded
        · intro count part after isPart done
          rw [part_eq (by simp) isPart] at done
          exact guarded.effect_remove_outside outside done
        · intro after done
          exact guarded.effect_remove_outside outside done
      exact ends_iff_state.1 ends

/-- Wherever a replacement stops, the target stands for what it stood for, or for a new file;
it stands for a new file if the replacement is carried out. -/
theorem run_ends (replacement : Replacement) (user : Nat)
    (ready : replacement.Ready loss scope allowed disk) (fates cleanupFates : List Fate) :
    Ends (fun _ => replacement.Done user loss scope allowed)
      (fun _ => replacement.Stopped user loss scope allowed)
      (replacement.run user fates cleanupFates disk) := by
  have ends : Ends _ _ (carryOut user replacement.actions fates disk) := ends_actions ready fates
  rw [run, carryOutOr]
  cases outcome : carryOut user replacement.actions fates disk with
  | mk result left =>
  rw [outcome] at ends
  cases result with
  | ok value => exact ends
  | error stop =>
      cases stop with
      | killed => exact ends
      | failed =>
          cases ends with
          | inl guarded => exact .inl (guarded_cleanup guarded ready.outside cleanupFates)
          | inr made =>
              obtain ⟨file, makes, guarded⟩ := made
              exact .inr ⟨file, makes, guarded_cleanup guarded ready.outside cleanupFates⟩

/-- Files keep names of their own, wherever a replacement stops. -/
theorem run_distinct (replacement : Replacement) (user : Nat) (fates cleanupFates : List Fate)
    (distinct : Distinct disk) : Distinct (replacement.run user fates cleanupFates disk).2 := by
  have kept (action : Action) (disk after : Disk) (distinct : Distinct disk)
      (done : effect user action disk = some after) : Distinct after :=
    distinct.effect action done
  have carried := carryOut_preserves kept replacement.actions fates distinct
  rw [run, carryOutOr]
  cases outcome : carryOut user replacement.actions fates disk with
  | mk result left =>
  rw [outcome] at carried
  cases result with
  | ok value => exact carried
  | error stop =>
      cases stop with
      | killed => exact carried
      | failed => exact carryOut_preserves kept replacement.cleanup cleanupFates carried

end Runs

end Replacement

end Foundation.Storage
