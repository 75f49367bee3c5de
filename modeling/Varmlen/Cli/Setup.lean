import Varmlen.Foundation.AtomicWrite
import Varmlen.Foundation.Run

/-!
# Installing the daemon

The privileged half of an installation copies the staged components to the directory that
the daemon runs from (`cli/src/setup.rs`).  The daemon refuses components that others could
have written to (`daemon/src/system.rs`).
-/

namespace Varmlen.Cli

open Foundation.Effect Foundation.Run Foundation.Storage

def systemDir : String := "/opt/varmlen-cli/"

def unitPath : String := "/etc/systemd/system/varmlen-cli@.service"

def components : List String := ["varmlend", "varmlen-net", "xray"]

/-- Where a component is installed. -/
def installedPath (name : String) : String := systemDir ++ name

/-- The name that it has before. -/
def temporaryPath (name : String) : String := installedPath name ++ ".new"

/-- `std::fs::copy`: the target gets the mode of the source, then its bytes. -/
def copyActions (source : File) (target : String) : List Action :=
  [.create target source.mode, .edit target (.setMode source.mode),
    .edit target (.append source.bytes)]

/-- The steps for one component. -/
def componentActions (name : String) (source : File) : List Action :=
  copyActions source (temporaryPath name) ++
    [.edit (temporaryPath name) (.setOwner 0), .edit (temporaryPath name) (.setMode 0o755),
      .rename (temporaryPath name) (installedPath name)]

def unitActions (source : File) : List Action :=
  copyActions source unitPath ++
    [.edit unitPath (.setOwner 0), .edit unitPath (.setMode 0o644)]

/-- The files that were staged, by name. -/
abbrev Stage := String → Option File

/-- What happens to the actions for each file. -/
abbrev InstallFates := List (List Fate)

def installFile (actions : File → List Action) (source : Option File) (fates : List Fate)
    (disk : Disk) : Except Stop Unit × Disk :=
  match source with
  | none => (.error .failed, disk)
  | some source => carryOut 0 (actions source) fates disk

def installComponents (stage : Stage) :
    List String → InstallFates → Disk → Except Stop Unit × Disk
  | [], _, disk => (.ok (), disk)
  | name :: rest, fates, disk =>
      andThen (installFile (componentActions name) (stage name) (fates.headD []) disk) fun _ =>
        installComponents stage rest fates.tail

/-- The files of an installation; the service is started after it. -/
def installAsRoot (effectiveUid ownerUid : Nat) (stage : Stage) (fates : InstallFates)
    (disk : Disk) : Except Stop Unit × Disk :=
  if effectiveUid ≠ 0 ∨ ownerUid = 0 then (.error .failed, disk)
  else
    andThen (installComponents stage components fates disk) fun _ =>
      installFile unitActions (stage "varmlen-cli@.service")
        ((fates.drop components.length).headD [])

/-- The components are where the daemon is started from, and there is a unit that does it. -/
def installed (disk : Disk) : Bool :=
  components.all (fun name => (disk.read (installedPath name)).isSome) &&
    (disk.read unitPath).isSome

/-- What the daemon asks of a component: it is root's, only root can write to it, and it can
be executed. -/
def isTrustedBinary (file : Option File) : Bool :=
  file.any fun file => file.owner == 0 && file.mode &&& 0o022 == 0 && file.mode &&& 0o111 != 0

/-! ## One component -/

/-- What a component becomes. -/
def installedFile (source : File) : File := ⟨source.bytes, 0o755, 0⟩

theorem isTrustedBinary_installedFile (source : File) :
    isTrustedBinary (some (installedFile source)) = true := by
  simp [isTrustedBinary, installedFile]

def componentReplacement (name : String) (source : File) : Replacement where
  target := installedPath name
  temporary := temporaryPath name
  exclusive := false
  mode := source.mode
  edits := [.setMode source.mode, .append source.bytes, .setOwner 0, .setMode 0o755]
  syncs := false
  syncsNames := false
  cleansUp := false

theorem componentActions_eq (name : String) (source : File) :
    componentActions name source = (componentReplacement name source).actions :=
  rfl

theorem makes_component {name : String} {source file : File}
    (makes : (componentReplacement name source).Makes 0 file) : file = installedFile source := by
  obtain ⟨start, isEmpty, _, isFile⟩ := makes
  rw [isFile]
  simp [componentReplacement, Edit.apply, installedFile, isEmpty]

/-- The names of the components in place. -/
def componentPaths : Set String := {path | ∃ name ∈ components, path = installedPath name}

theorem temporaryPath_outside {name : String} (known : name ∈ components) :
    temporaryPath name ∉ componentPaths := by
  intro ⟨other, alsoKnown, same⟩
  revert name
  simp [components] at alsoKnown ⊢
  rcases alsoKnown with rfl | rfl | rfl <;> decide

theorem unitPath_outside : unitPath ∉ componentPaths := by
  intro ⟨name, known, same⟩
  simp only [components, List.mem_cons, List.not_mem_nil, or_false] at known
  rcases known with rfl | rfl | rfl <;> exact absurd same (by decide)

/-- The component is in place as it was staged. -/
def IsInstalled (stage : Stage) (name : String) (disk : Disk) : Prop :=
  ∃ source, stage name = some source ∧ disk.read (installedPath name) = some (installedFile source)

/-- Some components are as they were staged, and the others as they were before. -/
structure Progress (stage : Stage) (before after : Disk) (replaced : List String) : Prop where
  distinct : Distinct after
  staged : ∀ name ∈ replaced, IsInstalled stage name after
  kept : ∀ path ∈ componentPaths, (∀ name ∈ replaced, path ≠ installedPath name) →
    after.read path = before.read path

section Components

variable {stage : Stage} {disk : Disk} {name : String}

theorem Progress.nothing (distinct : Distinct disk) : Progress stage disk disk [] :=
  ⟨distinct, by simp, fun _ _ _ => rfl⟩

theorem Progress.trans {middle after : Disk} {front rest : List String}
    (first : Progress stage disk middle front) (second : Progress stage middle after rest)
    (apart : ∀ name ∈ front, ∀ other ∈ rest, installedPath name ≠ installedPath other)
    (known : ∀ name ∈ front, name ∈ components) : Progress stage disk after (front ++ rest) where
  distinct := second.distinct
  staged name member := by
    cases List.mem_append.1 member with
    | inl inFront =>
        obtain ⟨source, isSource, read⟩ := first.staged name inFront
        refine ⟨source, isSource, ?_⟩
        rw [second.kept _ ⟨name, known name inFront, rfl⟩ (apart name inFront), read]
    | inr inRest => exact second.staged name inRest
  kept path within others := by
    rw [second.kept path within fun name member => others name (List.mem_append_right _ member)]
    exact first.kept path within fun name member => others name (List.mem_append_left _ member)

/-- Everything in place is what it is. -/
theorem guarded_read (distinct : Distinct disk) (scope : Set String) :
    Guarded false scope (fun path => {disk.read path}) disk where
  bounded names moment := by
    rw [List.mem_singleton.1 moment]
    exact distinct.bounded
  held names moment path within := by
    rw [List.mem_singleton.1 moment]
    rfl
  synced isLoss := by cases isLoss

/-- Where only the target was allowed to change, the rest is as it was. -/
theorem read_of_allow {after : Disk} {target path : String} {file : Option File}
    (guarded : Guarded false componentPaths (allow (fun path => {disk.read path}) target file) after)
    (within : path ∈ componentPaths) (different : path ≠ target) :
    after.read path = disk.read path := by
  have held := guarded.read_mem within
  rwa [allow, Function.update_of_ne different, Set.mem_singleton_iff] at held

theorem carryOut_distinct (distinct : Distinct disk) (actions : List Action) (fates : List Fate) :
    Distinct (carryOut 0 actions fates disk).2 :=
  carryOut_preserves (fun action _ _ distinct done => distinct.effect action done) actions fates
    distinct

/-- A component is replaced as a whole or not at all. -/
theorem ends_component (distinct : Distinct disk) (known : name ∈ components)
    (fates : List Fate) :
    Ends (fun _ after => Progress stage disk after [name])
      (fun _ after => Progress stage disk after [] ∨ Progress stage disk after [name])
      (installFile (componentActions name) (stage name) fates disk) := by
  cases isSource : stage name with
  | none => exact .inl (.nothing distinct)
  | some source =>
      have ready : (componentReplacement name source).Ready false componentPaths
          (fun path => {disk.read path}) disk :=
        ⟨temporaryPath_outside known, (fun isLoss => by cases isLoss), guarded_read distinct _,
          fun _ => distinct⟩
      have ends : Ends _ _ (carryOut 0 (componentReplacement name source).actions fates disk) :=
        Replacement.ends_actions ready fates
      have apart := carryOut_distinct distinct (componentReplacement name source).actions fates
      have replaced {after : Disk} {file : File} (distinct : Distinct after)
          (makes : (componentReplacement name source).Makes 0 file)
          (read : after.read (installedPath name) = some file)
          (guarded : Guarded false componentPaths
            (allow (fun path => {disk.read path}) (installedPath name) (some file)) after) :
          Progress stage disk after [name] := by
        refine ⟨distinct, ?_, ?_⟩
        · intro other isName
          rw [List.mem_singleton.1 isName]
          exact ⟨source, isSource, makes_component makes ▸ read⟩
        · intro path within others
          exact read_of_allow guarded within (others name (List.mem_singleton_self name))
      change Ends _ _ (carryOut 0 (componentReplacement name source).actions fates disk)
      cases outcome : carryOut 0 (componentReplacement name source).actions fates disk with
      | mk result after =>
      rw [outcome] at ends apart
      cases result with
      | ok value =>
          obtain ⟨file, makes, read, guarded⟩ := ends
          exact replaced apart makes read guarded
      | error stop =>
          cases ends with
          | inl guarded => exact .inl ⟨apart, by simp, fun path within _ => guarded.read_mem within⟩
          | inr made =>
              obtain ⟨file, makes, guarded⟩ := made
              have either : after.read (installedPath name) ∈
                  allow (fun path => {disk.read path}) (installedPath name) (some file)
                    (installedPath name) :=
                guarded.read_mem ⟨name, known, rfl⟩
              rw [allow, Function.update_self] at either
              cases either with
              | inl read => exact .inr (replaced apart makes read guarded)
              | inr same =>
                  refine .inl ⟨apart, by simp, fun path within _ => ?_⟩
                  by_cases isTarget : path = installedPath name
                  · exact isTarget ▸ same
                  · exact read_of_allow guarded within isTarget

/-- The components are replaced one after the other. -/
theorem ends_components (names : List String) (distinct : Distinct disk)
    (known : ∀ name ∈ names, name ∈ components)
    (separate : names.Pairwise fun name other => installedPath name ≠ installedPath other)
    (fates : InstallFates) :
    Ends (fun _ after => Progress stage disk after names)
      (fun _ after => ∃ replaced, replaced <+: names ∧ Progress stage disk after replaced)
      (installComponents stage names fates disk) := by
  induction names generalizing disk fates with
  | nil => exact .nothing distinct
  | cons name rest ih =>
      rw [List.pairwise_cons] at separate
      have knownName : name ∈ components := known name List.mem_cons_self
      have apart : ∀ given ∈ [name], ∀ other ∈ rest, installedPath given ≠ installedPath other := by
        intro given isName other member
        rw [List.mem_singleton.1 isName]
        exact separate.1 other member
      have alone : ∀ given ∈ [name], given ∈ components := by
        intro given isName
        rw [List.mem_singleton.1 isName]
        exact knownName
      have first := ends_mono (@ends_component stage _ _ distinct knownName (fates.headD []))
        (fun _ after progress => progress)
        (fun _ after either =>
          show ∃ replaced, replaced <+: name :: rest ∧ Progress stage disk after replaced from
            either.elim (fun progress => ⟨[], List.nil_prefix, progress⟩)
              (fun progress => ⟨[name], ⟨rest, rfl⟩, progress⟩))
      apply ends_andThen first
      intro value middle progress
      have later := ih progress.distinct
        (fun other member => known other (List.mem_cons_of_mem _ member)) separate.2 fates.tail
      apply ends_mono later
      · intro _ after more
        exact progress.trans more apart alone
      · intro _ after ⟨replaced, isPrefix, more⟩
        refine ⟨name :: replaced, List.cons_prefix_cons.2 ⟨rfl, isPrefix⟩, ?_⟩
        exact progress.trans more
          (fun given isName other member => apart given isName other (isPrefix.subset member)) alone

/-! ## The unit -/

def unitReplacement (source : File) : Replacement where
  target := unitPath
  temporary := unitPath
  exclusive := false
  mode := source.mode
  edits := [.setMode source.mode, .append source.bytes, .setOwner 0, .setMode 0o644]
  syncs := false
  syncsNames := false
  cleansUp := false

/-- The unit is written in place, and it is the staged one when this is done. -/
theorem ends_unit (distinct : Distinct disk) (source : File) (fates : List Fate) :
    Ends (fun _ after => after.read unitPath = some ⟨source.bytes, 0o644, 0⟩) (fun _ _ => True)
      (carryOut 0 (unitActions source) fates disk) := by
  have ready : (unitReplacement source).Ready false componentPaths
      (fun path => {disk.read path}) disk :=
    ⟨unitPath_outside, (fun isLoss => by cases isLoss), guarded_read distinct _, fun _ => distinct⟩
  change Ends _ _ (carryOut 0 ((unitReplacement source).opening ::
    ((unitReplacement source).edits.map (.edit unitPath) ++ [])) fates disk)
  apply Replacement.ends_cons trivial (fun _ _ _ _ _ => trivial)
  intro after done
  obtain ⟨start, isEmpty, _, staged⟩ := ready.effect_opening done
  apply Replacement.ends_edits (unitReplacement source).edits fates.tail staged
  · intro other guarded
    exact trivial
  · intro node other left isFile staged
    obtain ⟨number, found, isNode, _⟩ := staged.ready
    have named : other.names unitPath = some number := found
    change other.read unitPath = _
    rw [Disk.read, named, Disk.find, Option.map_some, isNode, isFile]
    simp [unitReplacement, Edit.apply, isEmpty]

end Components

/-! ## Installations -/

/-- An installation, or an attempt at one. -/
structure Installation where
  effectiveUid : Nat
  ownerUid : Nat
  stage : Stage
  fates : InstallFates

def Installation.run (installation : Installation) (disk : Disk) : Except Stop Unit × Disk :=
  installAsRoot installation.effectiveUid installation.ownerUid installation.stage
    installation.fates disk

/-- What an installation leaves behind. -/
structure Outcome (installation : Installation) (before : Disk)
    (outcome : Except Stop Unit × Disk) (replaced : List String) : Prop where
  inOrder : replaced <+: components
  progress : Progress installation.stage before outcome.2 replaced
  complete : outcome.1 = .ok () → replaced = components ∧
    ∃ unit, installation.stage "varmlen-cli@.service" = some unit ∧
      outcome.2.read unitPath = some ⟨unit.bytes, 0o644, 0⟩

section Installations

variable {disk : Disk}

theorem Progress.unchanged {stage : Stage} {middle after : Disk} {replaced : List String}
    (progress : Progress stage disk middle replaced) (distinct : Distinct after)
    (same : ∀ path ∈ componentPaths, after.read path = middle.read path)
    (known : ∀ name ∈ replaced, name ∈ components) : Progress stage disk after replaced where
  distinct
  staged name member := by
    obtain ⟨source, isSource, read⟩ := progress.staged name member
    exact ⟨source, isSource, (same _ ⟨name, known name member, rfl⟩).trans read⟩
  kept path within others := (same path within).trans (progress.kept path within others)

theorem separate_components :
    components.Pairwise fun name other => installedPath name ≠ installedPath other := by
  decide

theorem about_unit {source : File} :
    ∀ action ∈ unitActions source, ∀ name ∈ action.about, name ∉ componentPaths := by
  intro action member name isAbout
  have isUnit : name = unitPath := by
    simp only [unitActions, copyActions, List.mem_append, List.mem_cons, List.not_mem_nil,
      or_false] at member
    rcases member with (rfl | rfl | rfl) | rfl | rfl <;> exact List.mem_singleton.1 isAbout
  exact isUnit ▸ unitPath_outside

/-- The unit is the last file, and writing it does nothing to the components. -/
theorem installFile_unit (distinct : Distinct disk) (source : Option File) (fates : List Fate) :
    Distinct (installFile unitActions source fates disk).2 ∧
      (∀ path ∈ componentPaths,
        (installFile unitActions source fates disk).2.read path = disk.read path) ∧
      ((installFile unitActions source fates disk).1 = .ok () → ∃ unit, source = some unit ∧
        (installFile unitActions source fates disk).2.read unitPath =
          some ⟨unit.bytes, 0o644, 0⟩) := by
  cases source with
  | none => exact ⟨distinct, fun _ _ => rfl, fun done => by cases done⟩
  | some unit =>
      have guarded : Guarded false componentPaths (fun path => {disk.read path})
          (carryOut 0 (unitActions unit) fates disk).2 :=
        (guarded_read distinct componentPaths).carryOut_outside distinct _ _ about_unit
      have written := ends_unit distinct unit fates
      refine ⟨carryOut_distinct distinct _ _, fun path within => guarded.read_mem within, ?_⟩
      rw [installFile]
      intro done
      cases outcome : carryOut 0 (unitActions unit) fates disk with
      | mk result after =>
      rw [outcome] at written done
      cases result with
      | ok value => exact ⟨unit, rfl, written⟩
      | error stop => cases done

theorem run_outcome (installation : Installation) (distinct : Distinct disk) :
    ∃ replaced, Outcome installation disk (installation.run disk) replaced := by
  rw [Installation.run, installAsRoot]
  split
  next refused =>
    exact ⟨[], List.nil_prefix, .nothing distinct, fun done => by cases done⟩
  next =>
    have ends : Ends (fun _ after => Progress installation.stage disk after components)
        (fun _ after => ∃ replaced, replaced <+: components ∧
          Progress installation.stage disk after replaced)
        (installComponents installation.stage components installation.fates disk) :=
      ends_components components distinct (fun _ member => member) separate_components _
    cases outcome : installComponents installation.stage components installation.fates disk with
    | mk result middle =>
    rw [outcome] at ends
    cases result with
    | error stop =>
        obtain ⟨replaced, inOrder, progress⟩ := ends
        exact ⟨replaced, inOrder, progress, fun done => by cases done⟩
    | ok value =>
        have progress : Progress installation.stage disk middle components := ends
        obtain ⟨distinct, same, complete⟩ := installFile_unit progress.distinct
          (installation.stage "varmlen-cli@.service")
          ((installation.fates.drop components.length).headD [])
        exact ⟨components, List.prefix_refl _,
          progress.unchanged distinct same fun _ member => member,
          fun done => ⟨rfl, complete done⟩⟩

/-- What an attempt leaves in place is what was there or what the daemon trusts. -/
def Sound (disk : Disk) : Prop :=
  Distinct disk ∧ ∀ name ∈ components, disk.read (installedPath name) = none ∨
    isTrustedBinary (disk.read (installedPath name)) = true

theorem sound_of_outcome {installation : Installation} {outcome : Except Stop Unit × Disk}
    {replaced : List String} (sound : Sound disk)
    (leaves : Outcome installation disk outcome replaced) : Sound outcome.2 := by
  refine ⟨leaves.progress.distinct, ?_⟩
  intro name known
  by_cases isNew : name ∈ replaced
  · obtain ⟨source, _, read⟩ := leaves.progress.staged name isNew
    rw [read]
    exact .inr (isTrustedBinary_installedFile source)
  · have kept := leaves.progress.kept (installedPath name) ⟨name, known, rfl⟩ fun other member same =>
      isNew (by
        have injective : name = other := by
          simpa [installedPath] using same
        exact injective ▸ member)
    rw [kept]
    exact sound.2 name known

/-- After any attempts, an attempt that stops anywhere has replaced some first components by
those it was given, as wholes, and left the others as they were; one that does not stop has
replaced all of them and the unit.  The daemon trusts every component that is there. -/
theorem installations_outcome (sound : Sound disk) (attempts : List Installation)
    (last : Installation) :
    let before := attempts.foldl (fun disk attempt => (attempt.run disk).2) disk
    Sound (last.run before).2 ∧ ∃ replaced, Outcome last before (last.run before) replaced := by
  have reached : Sound (attempts.foldl (fun disk attempt => (attempt.run disk).2) disk) := by
    induction attempts generalizing disk with
    | nil => exact sound
    | cons attempt rest ih =>
        obtain ⟨replaced, leaves⟩ := run_outcome attempt sound.1
        exact ih (sound_of_outcome sound leaves)
  obtain ⟨replaced, leaves⟩ := run_outcome last reached.1
  exact ⟨sound_of_outcome reached leaves, replaced, leaves⟩

/-- Onto an empty disk: killed in the middle of the second component, then carried out. -/
theorem installations_outcome_twice :
    let stage : Stage := fun name => some ⟨name.toUTF8.toList, 0o775, 1000⟩
    let first : Installation := ⟨0, 1000, stage, [[], [.done, .done, .killed 3]]⟩
    let last : Installation := ⟨0, 1000, stage, []⟩
    Sound (last.run (first.run .empty).2).2 ∧
      ∃ replaced, Outcome last (first.run .empty).2 (last.run (first.run .empty).2) replaced := by
  intro stage first last
  have empty : Sound .empty := by
    constructor
    · constructor
      · intro name number found
        cases found
      · intro name other number found
        cases found
    · intro name known
      exact .inl rfl
  exact installations_outcome empty [first] last

end Installations

end Varmlen.Cli
