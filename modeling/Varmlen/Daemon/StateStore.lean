import Varmlen.Foundation.AtomicWrite
import Varmlen.Foundation.Run
import Varmlen.Foundation.Utf8Lossy
import Varmlen.Daemon.FrameSize

/-!
# The persisted state

The daemon keeps its phase and the Xray process that it runs in a file
(`daemon/src/state.rs`), which a daemon started later reads.  The file is replaced as a
whole.
-/

namespace Varmlen.Daemon

open Foundation.Effect Foundation.Json Foundation.Run Foundation.Serde Foundation.Storage
open Foundation.Files (Bytes)
open Foundation.Utf8 (bytes encode length_encode)
open Varmlen.Daemon.Protocol (phaseFormat textBytes_number)

structure ProcessIdentity where
  pid : UInt32
  startTimeTicks : UInt64
  executable : String
  deriving DecidableEq, Repr

structure PersistedState where
  version : UInt16
  ownerUid : UInt32
  phase : ConnectionPhase
  xray : Option ProcessIdentity
  deriving DecidableEq, Repr

def stateVersion : UInt16 := 1

def maxStateBytes : Nat := 1024 * 1024

def PersistedState.new (ownerUid : UInt32) (phase : ConnectionPhase) : PersistedState where
  version := stateVersion
  ownerUid
  phase
  xray := none

/-! ## The document -/

def identityFormat : Format ProcessIdentity where
  write identity := .object
    [("pid", Format.u32.write identity.pid),
      ("start_time_ticks", Format.u64.write identity.startTimeTicks),
      ("executable", .string identity.executable)]
  read document :=
    match record ["pid", "start_time_ticks", "executable"] document with
    | some [pid, startTimeTicks, executable] => do
        return {
          pid := ← required Format.u32.read pid
          startTimeTicks := ← required Format.u64.read startTimeTicks
          executable := ← required readString executable }
    | _ => none
  readsBack identity := by simp [record, field, required, Format.readsBack, readString]

def persistedFormat : Format PersistedState where
  write state := .object
    [("version", Format.u16.write state.version),
      ("owner_uid", Format.u32.write state.ownerUid),
      ("phase", phaseFormat.write state.phase),
      ("xray", (state.xray.map identityFormat.write).getD .null)]
  read document :=
    match record ["version", "owner_uid", "phase", "xray"] document with
    | some [version, ownerUid, phase, xray] => do
        return {
          version := ← required Format.u16.read version
          ownerUid := ← required Format.u32.read ownerUid
          phase := ← required phaseFormat.read phase
          xray := ← defaulted none (readOption identityFormat.read) xray }
    | _ => none
  readsBack state := by
    rcases state with ⟨version, ownerUid, phase, xray⟩
    cases xray with
    | none => simp [record, field, required, defaulted, Format.readsBack, readOption]
    | some identity =>
        have read : readOption identityFormat.read (identityFormat.write identity) =
            some (some identity) :=
          congrArg (Option.map some) (identityFormat.readsBack identity)
        simp [record, field, required, defaulted, Format.readsBack, read]

def stateBytes (state : PersistedState) : Bytes :=
  encode (persistedFormat.write state).toText.toList

/-- A state takes up little more than the path of the process in it. -/
theorem length_stateBytes (state : PersistedState) :
    (stateBytes state).length ≤
      6 * (state.xray.map fun identity => byteLength identity.executable).getD 0 + 256 := by
  have version : (Format.u16.write state.version).textBytes ≤ 5 :=
    textBytes_number (by decide) (Nat.lt_trans state.version.toNat_lt (by decide))
  have owner : (Format.u32.write state.ownerUid).textBytes ≤ 10 :=
    textBytes_number (by decide) (Nat.lt_trans state.ownerUid.toNat_lt (by decide))
  have phase : (phaseFormat.write state.phase).textBytes ≤ 19 := by
    cases state.phase <;> decide
  have xray : ((state.xray.map identityFormat.write).getD .null).textBytes ≤
      6 * (state.xray.map fun identity => byteLength identity.executable).getD 0 + 100 := by
    cases state.xray with
    | none => decide
    | some identity =>
        have pid : (Format.u32.write identity.pid).textBytes ≤ 10 :=
          textBytes_number (by decide) (Nat.lt_trans identity.pid.toNat_lt (by decide))
        have ticks : (Format.u64.write identity.startTimeTicks).textBytes ≤ 20 :=
          textBytes_number (by decide) (Nat.lt_trans identity.startTimeTicks.toNat_lt (by decide))
        have escaped := (escapedBytes_bounds identity.executable).2
        have keys : ["pid", "start_time_ticks", "executable"].map escapedBytes = [3, 16, 10] := by
          decide
        simp only [List.map_cons, List.map_nil, List.cons.injEq, and_true] at keys
        rw [Option.map_some, Option.getD_some, Option.map_some, Option.getD_some, identityFormat]
        simp only [Value.textBytes_object, Value.textBytes_string, List.map_cons, List.map_nil,
          List.sum_cons, List.sum_nil, List.length_cons, List.length_nil, byteLength]
        rw [bytes] at escaped
        omega
  have keys : ["version", "owner_uid", "phase", "xray"].map escapedBytes = [7, 9, 5, 4] := by
    decide
  simp only [List.map_cons, List.map_nil, List.cons.injEq, and_true] at keys
  have size : (stateBytes state).length = (persistedFormat.write state).textBytes :=
    length_encode _
  rw [size, persistedFormat]
  simp only [Value.textBytes_object, List.map_cons, List.map_nil, List.sum_cons, List.sum_nil,
    List.length_cons, List.length_nil]
  omega

/-! ## The store -/

inductive StoreError where
  | io
  | tooLarge
  | invalid
  | unsupportedVersion
  deriving DecidableEq, Repr

/-- What an error says; the others are texts of the system or of the JSON reader. -/
def StoreError.text : StoreError → Option String
  | .tooLarge => some "Varmlen state file is too large"
  | .unsupportedVersion => some "unsupported Varmlen state version"
  | _ => none

structure StateStore where
  path : String

namespace StateStore

def installed (ownerUid : UInt32) : StateStore := ⟨"state-" ++ toString ownerUid ++ ".json"⟩

/-- The documents in files, as another crate reads them. -/
abbrev DocumentReader := Bytes → Option Value

def read (store : StateStore) (parse : DocumentReader) (disk : Disk) :
    Except StoreError (Option PersistedState) :=
  match disk.read store.path with
  | none => .ok none
  | some file =>
      if maxStateBytes < file.bytes.length then .error .tooLarge
      else
        match (parse file.bytes).bind persistedFormat.read with
        | none => .error .invalid
        | some state =>
            if state.version ≠ stateVersion then .error .unsupportedVersion
            else .ok (some state)

/-- A name for each write of each process. -/
def temporaryPath (pid next : Nat) : String :=
  ".state-" ++ toString pid ++ "-" ++ toString next ++ ".tmp"

/-- The steps of a write, and the step after one of them fails. -/
def writeActions (store : StateStore) (temporary : String) (state : PersistedState) :
    List Foundation.Storage.Action :=
  [.createNew temporary 0o600, .edit temporary (.append (stateBytes state)), .sync temporary,
    .rename temporary store.path, .syncDirectory]

def write (store : StateStore) (user : Nat) (temporary : String) (state : PersistedState)
    (fates cleanupFates : List Fate) (disk : Disk) : Except StoreError Unit × Disk :=
  if state.version ≠ stateVersion then (.error .unsupportedVersion, disk)
  else
    mapError (fun _ => .io)
      (carryOutOr user (store.writeActions temporary state) [.remove temporary] fates cleanupFates
        disk)

/-! ### A write is a replacement -/

def replacement (store : StateStore) (temporary : String) (state : PersistedState) :
    Replacement where
  target := store.path
  temporary
  exclusive := true
  mode := 0o600
  edits := [.append (stateBytes state)]
  syncs := true
  syncsNames := true
  cleansUp := true

theorem write_eq (store : StateStore) (user : Nat) (temporary : String) {state : PersistedState}
    (known : state.version = stateVersion) (fates cleanupFates : List Fate) (disk : Disk) :
    store.write user temporary state fates cleanupFates disk =
      mapError (fun _ => .io)
        ((store.replacement temporary state).run user fates cleanupFates disk) := by
  rw [write, if_neg (by simp [known])]
  rfl

theorem temporaryPath_ne_installed (pid next : Nat) (ownerUid : UInt32) :
    temporaryPath pid next ≠ (installed ownerUid).path := by
  intro same
  have heads := congrArg (fun path => path.toList.head?) same
  simp [temporaryPath, installed] at heads

/-- The file that a state, or none, is kept in. -/
def fileOf (user : Nat) (state : Option PersistedState) : Option File :=
  state.map fun state => ⟨stateBytes state, 0o600, user⟩

theorem makes_iff {store : StateStore} {user : Nat} {temporary : String}
    {state : PersistedState} {file : File} :
    (store.replacement temporary state).Makes user file ↔
      file = ⟨stateBytes state, 0o600, user⟩ := by
  constructor
  · intro ⟨start, isEmpty, isNew, isFile⟩
    obtain ⟨mode, owner⟩ := isNew rfl
    rw [isFile, replacement, List.foldl_cons, List.foldl_nil, Edit.apply, isEmpty, mode, owner,
      List.nil_append]
    rfl
  · intro isFile
    refine ⟨⟨[], 0o600, user⟩, rfl, fun _ => ⟨rfl, rfl⟩, ?_⟩
    rw [isFile, replacement, List.foldl_cons, List.foldl_nil, Edit.apply, List.nil_append]

end StateStore

/-! ## Runs -/

/-- What happens to the state of a daemon: it is written, by one process or by the next, it is
removed by a recovery, and the power is lost. -/
inductive StateEvent where
  | write (state : PersistedState) (pid next : Nat) (fates cleanupFates : List Fate)
  | remove (fate : Fate)
  | losePower (moment : String → Nat) (garbage : Nat → File)

/-- The disk, and the states that may be found on it. -/
structure StateHistory where
  disk : Disk
  possible : List (Option PersistedState)

namespace StateHistory

def fresh : StateHistory := ⟨.empty, [none]⟩

/-- A write that succeeds leaves its own state.  One that does not leaves what was there, or
its own state after all. -/
def step (store : StateStore) (user : Nat) (history : StateHistory) :
    StateEvent → StateHistory
  | .write state pid next fates cleanupFates =>
      let outcome := store.write user (StateStore.temporaryPath pid next) state fates cleanupFates
        history.disk
      ⟨outcome.2, match outcome.1 with
        | .ok () => [some state]
        | .error .unsupportedVersion => history.possible
        | .error _ => history.possible ++ [some state]⟩
  | .remove fate =>
      ⟨(perform user fate (.remove store.path) history.disk).2, history.possible ++ [none]⟩
  | .losePower moment garbage => ⟨history.disk.losePower moment garbage, history.possible⟩

/-- The files that the state may be found in. -/
def files (user : Nat) (possible : List (Option PersistedState)) : Set (Option File) :=
  {file | ∃ state ∈ possible, file = StateStore.fileOf user state}

theorem files_append (user : Nat) (possible : List (Option PersistedState))
    (state : Option PersistedState) :
    files user (possible ++ [state]) = insert (StateStore.fileOf user state) (files user possible) := by
  ext file
  simp [files, or_and_right, exists_or, or_comm]

def Inv (store : StateStore) (user : Nat) (history : StateHistory) : Prop :=
  Guarded true {store.path} (fun _ => files user history.possible) history.disk

theorem inv_fresh (store : StateStore) (user : Nat) : Inv store user fresh := by
  constructor
  · intro names moment name number found
    rw [List.mem_singleton.1 moment] at found
    cases found
  · intro names moment name within
    rw [List.mem_singleton.1 moment]
    exact ⟨none, List.mem_singleton_self none, rfl⟩
  · intro isLoss names moment name within number found
    rw [List.mem_singleton.1 moment] at found
    cases found

section Steps

variable {ownerUid : UInt32} {user : Nat} {history : StateHistory}

/-- A file more under the only name in the scope. -/
theorem allow_files (path : String) (possible : List (Option PersistedState))
    (state : Option PersistedState) {name : String} (within : name ∈ ({path} : Set String)) :
    allow (fun _ => files user possible) path (StateStore.fileOf user state) name =
      files user (possible ++ [state]) := by
  rw [Set.mem_singleton_iff.1 within, allow, Function.update_self, files_append]

theorem inv_write (state : PersistedState) (pid next : Nat) (fates cleanupFates : List Fate)
    (inv : Inv (.installed ownerUid) user history) :
    Inv (.installed ownerUid) user
      (history.step (.installed ownerUid) user (.write state pid next fates cleanupFates)) := by
  have different := StateStore.temporaryPath_ne_installed pid next ownerUid
  by_cases known : state.version = stateVersion
  · have ends := Replacement.run_ends
      ((StateStore.installed ownerUid).replacement (StateStore.temporaryPath pid next) state) user
      ⟨different, fun _ => ⟨rfl, rfl⟩, inv, fun shared => by cases shared⟩ fates cleanupFates
    rw [step, StateStore.write_eq _ _ _ known]
    cases outcome : ((StateStore.installed ownerUid).replacement
      (StateStore.temporaryPath pid next) state).run user fates cleanupFates history.disk with
    | mk result left =>
    rw [outcome] at ends
    cases result with
    | ok value =>
        obtain ⟨file, makes, _, guarded⟩ := ends
        rw [StateStore.makes_iff] at makes
        apply guarded.mono
        intro name within found isFile
        have isNew : found = some file := by
          rw [Set.mem_singleton_iff.1 within] at isFile
          exact (Replacement.allowedAfter_of_synced rfl file).subset isFile
        exact ⟨some state, List.mem_singleton_self _, isNew.trans (congrArg some makes)⟩
    | error stop =>
        change Guarded true _ (fun _ => files user (history.possible ++ [some state])) left
        cases ends with
        | inl guarded =>
            apply guarded.mono
            intro name within
            rw [files_append]
            exact Set.subset_insert _ _
        | inr made =>
            obtain ⟨file, makes, guarded⟩ := made
            rw [StateStore.makes_iff] at makes
            rw [makes] at guarded
            apply guarded.mono
            intro name within
            exact (allow_files _ history.possible (some state) within).le
  · rw [step, StateStore.write, if_pos known]
    exact inv

theorem inv_remove (fate : Fate) (inv : Inv (.installed ownerUid) user history) :
    Inv (.installed ownerUid) user (history.step (.installed ownerUid) user (.remove fate)) := by
  have removed (after : Disk)
      (done : effect user (.remove (StateStore.installed ownerUid).path) history.disk = some after) :
      Inv (.installed ownerUid) user ⟨after, history.possible ++ [none]⟩ := by
    apply (Guarded.effect_remove inv done).mono
    intro name within
    exact (allow_files _ history.possible none within).le
  have ends : Ends
      (fun _ after => Inv (.installed ownerUid) user ⟨after, history.possible ++ [none]⟩)
      (fun _ after => Inv (.installed ownerUid) user ⟨after, history.possible ++ [none]⟩)
      (perform user fate (.remove (StateStore.installed ownerUid).path) history.disk) := by
    apply ends_perform
    · apply Guarded.mono inv
      intro name within
      rw [files_append]
      exact Set.subset_insert _ _
    · exact removed
    · intro count part after isPart done
      rw [Replacement.part_eq (by simp) isPart] at done
      exact removed after done
  exact ends_iff_state.1 ends

/-- Whatever happens, the file is that of one of the possible states. -/
theorem inv_step (event : StateEvent) (inv : Inv (.installed ownerUid) user history) :
    Inv (.installed ownerUid) user (history.step (.installed ownerUid) user event) := by
  cases event with
  | write state pid next fates cleanupFates =>
      exact inv_write state pid next fates cleanupFates inv
  | remove fate => exact inv_remove fate inv
  | losePower moment garbage => exact Guarded.losePower inv moment garbage

end Steps

/-! ### What is read -/

/-- The JSON reader reads the state back, and its process was found by a path of the system. -/
def Readable (parse : StateStore.DocumentReader) (state : PersistedState) : Prop :=
  parse (stateBytes state) = some (persistedFormat.write state) ∧
    ∀ identity ∈ state.xray, byteLength identity.executable ≤ 4096

def EventReadable (parse : StateStore.DocumentReader) : StateEvent → Prop
  | .write state _ _ _ _ => Readable parse state
  | _ => True

def Sound (parse : StateStore.DocumentReader) (history : StateHistory) : Prop :=
  ∀ state, some state ∈ history.possible → state.version = stateVersion ∧ Readable parse state

theorem sound_step {parse : StateStore.DocumentReader} {store : StateStore} {user : Nat}
    {history : StateHistory} {event : StateEvent} (sound : Sound parse history)
    (readable : EventReadable parse event) : Sound parse (history.step store user event) := by
  cases event with
  | write state pid next fates cleanupFates =>
      by_cases known : state.version = stateVersion
      · intro other possible
        have either : some other ∈ history.possible ∨ other = state := by
          rw [step] at possible
          revert possible
          dsimp only
          split <;> intro possible
          · exact .inr (Option.some.inj (List.mem_singleton.1 possible))
          · exact .inl possible
          · simpa using possible
        cases either with
        | inl before => exact sound other before
        | inr same => exact same ▸ ⟨known, readable⟩
      · rw [step, StateStore.write, if_pos known]
        exact sound
  | remove fate =>
      intro other possible
      have before : some other ∈ history.possible := by simpa [step] using possible
      exact sound other before
  | losePower moment garbage => exact sound

theorem fits_of_readable {parse : StateStore.DocumentReader} {state : PersistedState}
    (readable : Readable parse state) : (stateBytes state).length ≤ maxStateBytes := by
  have size := length_stateBytes state
  have path : (state.xray.map fun identity => byteLength identity.executable).getD 0 ≤ 4096 := by
    cases found : state.xray with
    | none => exact Nat.zero_le _
    | some identity => exact readable.2 identity found
  have limit : 6 * 4096 + 256 ≤ maxStateBytes := by decide
  omega

theorem read_possible {parse : StateStore.DocumentReader} {store : StateStore} {user : Nat}
    {history : StateHistory} (inv : Inv store user history) (sound : Sound parse history) :
    ∃ state ∈ history.possible, store.read parse history.disk = .ok state := by
  obtain ⟨state, possible, isFile⟩ := inv.read_mem (Set.mem_singleton store.path)
  refine ⟨state, possible, ?_⟩
  rw [StateStore.read, isFile]
  cases state with
  | none => rfl
  | some state =>
      obtain ⟨known, readable⟩ := sound state possible
      have fits := Nat.not_lt.2 (fits_of_readable readable)
      simp [StateStore.fileOf, fits, readable.1, persistedFormat.readsBack, known]

/-- In every run, at every moment, a state can be read, and it is one of the possible ones:
the last that was written, or one whose write or removal was attempted since. -/
theorem read_always (ownerUid : UInt32) (user : Nat) (parse : StateStore.DocumentReader)
    (events : List StateEvent) (readable : ∀ event ∈ events, EventReadable parse event) :
    Always (step (.installed ownerUid) user)
      (fun history => ∃ state ∈ history.possible,
        (StateStore.installed ownerUid).read parse history.disk = .ok state)
      fresh events := by
  have initial : Inv (.installed ownerUid) user fresh ∧ Sound parse fresh := by
    refine ⟨inv_fresh _ _, ?_⟩
    intro state possible
    simp [fresh] at possible
  have preserved : ∀ history event, Inv (.installed ownerUid) user history ∧ Sound parse history →
      EventReadable parse event →
        Inv (.installed ownerUid) user (history.step (.installed ownerUid) user event) ∧
          Sound parse (history.step (.installed ownerUid) user event) := by
    intro history event ⟨inv, sound⟩ readable
    exact ⟨inv_step event inv, sound_step sound readable⟩
  exact always_of_invariant (fun history good => read_possible good.1 good.2) preserved events
    fresh initial (everyStep_of_forall events fresh readable)

/-- A state with a process, written in full and then twice in part, with power losses. -/
def connectedState : PersistedState :=
  ⟨stateVersion, 1000, .connected, some ⟨4242, 98765, "/opt/varmlen-cli/xray"⟩⟩

theorem read_always_connected :
    Always (step (.installed 1000) 0)
      (fun history => ∃ state ∈ history.possible,
        (StateStore.installed 1000).read
          (fun bytes => if bytes = stateBytes connectedState then
            some (persistedFormat.write connectedState) else none) history.disk = .ok state)
      fresh
      [.write connectedState 42 1 [] [], .losePower (fun _ => 2) (fun _ => ⟨[0], 0, 0⟩),
        .write connectedState 42 2 [.done, .killed 7] [], .remove (.fails 1),
        .write connectedState 43 1 [.done, .done, .done, .done, .fails 0] [],
        .losePower (fun _ => 1) (fun _ => ⟨[], 0, 0⟩)] := by
  apply read_always
  have readable : Readable (fun bytes => if bytes = stateBytes connectedState then
      some (persistedFormat.write connectedState) else none) connectedState :=
    ⟨if_pos rfl, by decide⟩
  simp [EventReadable, readable]

end StateHistory

end Varmlen.Daemon
