import Varmlen.Foundation.AtomicWrite
import Varmlen.Foundation.Run

/-!
# Saving the store

The client's store is written to a file of its own, which then takes the place of the old one
(`cli/src/config.rs`).  A command that is interrupted leaves a store that was saved as a
whole, and no other user can read it.
-/

namespace Varmlen.Cli

open Foundation.Effect Foundation.Run Foundation.Storage
open Foundation.Files (Bytes)

def configPath : String := "cli.json"

/-- The path with another extension. -/
def savingPath : String := "cli.json.tmp"

/-- The steps of `Config::save`: `fs::write`, the permissions and the rename.  A new file has
the mode that the process gives to its files. -/
def saveActions (defaultMode : Nat) (text : Bytes) : List Action :=
  [.create savingPath defaultMode, .edit savingPath (.append (text ++ [10])),
    .edit savingPath (.setMode 0o600), .rename savingPath configPath]

/-- What a command does to the store: it saves one, or it is some other action of the user. -/
structure Save where
  user : Nat
  defaultMode : Nat
  text : Bytes
  fates : List Fate

def Save.run (save : Save) (disk : Disk) : Except Stop Unit × Disk :=
  carryOut save.user (saveActions save.defaultMode save.text) save.fates disk

def saveReplacement (save : Save) : Replacement where
  target := configPath
  temporary := savingPath
  exclusive := false
  mode := save.defaultMode
  edits := [.append (save.text ++ [10]), .setMode 0o600]
  syncs := false
  syncsNames := false
  cleansUp := false

theorem saveActions_eq (save : Save) :
    saveActions save.defaultMode save.text = (saveReplacement save).actions :=
  rfl

/-- The stores that may be found: the text of each, or none. -/
structure SaveHistory where
  disk : Disk
  possible : List (Option Bytes)

namespace SaveHistory

def fresh : SaveHistory := ⟨.empty, [none]⟩

/-- A save that succeeds leaves its own store.  One that does not leaves what was there, or
its own store after all. -/
def step (history : SaveHistory) (save : Save) : SaveHistory :=
  let outcome := save.run history.disk
  ⟨outcome.2, match outcome.1 with
    | .ok () => [some save.text]
    | .error _ => history.possible ++ [some save.text]⟩

/-- The file holds the text of one of the possible stores, for its user only. -/
def Holds (possible : List (Option Bytes)) : Option File → Prop
  | none => none ∈ possible
  | some file => file.mode = 0o600 ∧ ∃ text, some text ∈ possible ∧ file.bytes = text ++ [10]

def Inv (history : SaveHistory) : Prop :=
  Guarded false {configPath} (fun _ => {file | Holds history.possible file}) history.disk ∧
    Distinct history.disk

theorem holds_append {possible : List (Option Bytes)} {more : Option Bytes} {file : Option File}
    (holds : Holds possible file) : Holds (possible ++ [more]) file := by
  cases file with
  | none => exact List.mem_append_left _ holds
  | some file =>
      obtain ⟨isPrivate, text, member, bytes⟩ := holds
      exact ⟨isPrivate, text, List.mem_append_left _ member, bytes⟩

theorem holds_of_makes {save : Save} {file : File} {possible : List (Option Bytes)}
    (makes : (saveReplacement save).Makes save.user file) (member : some save.text ∈ possible) :
    Holds possible (some file) := by
  obtain ⟨start, isEmpty, _, isFile⟩ := makes
  rw [isFile]
  refine ⟨?_, save.text, member, ?_⟩
  · simp [saveReplacement, Edit.apply]
  · simp [saveReplacement, Edit.apply, isEmpty]

theorem inv_fresh : Inv fresh := by
  refine ⟨⟨?_, ?_, ?_⟩, ?_, ?_⟩
  · intro names moment name number found
    rw [List.mem_singleton.1 moment] at found
    cases found
  · intro names moment name within
    rw [List.mem_singleton.1 moment]
    exact List.mem_singleton_self none
  · intro isLoss
    cases isLoss
  · intro name number found
    cases found
  · intro name other number found
    cases found

theorem inv_step (history : SaveHistory) (save : Save) (inv : Inv history) :
    Inv (history.step save) := by
  obtain ⟨guarded, distinct⟩ := inv
  have ready : (saveReplacement save).Ready false {configPath}
      (fun _ => {file | Holds history.possible file}) history.disk :=
    ⟨by simp [saveReplacement, savingPath, configPath], (fun isLoss => by cases isLoss), guarded,
      fun _ => distinct⟩
  have ends : Ends _ _ (carryOut save.user (saveReplacement save).actions save.fates history.disk) :=
    Replacement.ends_actions ready save.fates
  have apart : Distinct
      (carryOut save.user (saveReplacement save).actions save.fates history.disk).2 :=
    carryOut_preserves (fun action _ _ distinct done => distinct.effect action done) _ _ distinct
  rw [step, Save.run, saveActions_eq]
  cases outcome : carryOut save.user (saveReplacement save).actions save.fates history.disk with
  | mk result after =>
  rw [outcome] at ends apart
  have isPath {name : String} (within : name ∈ ({configPath} : Set String)) :
      name = (saveReplacement save).target := Set.mem_singleton_iff.1 within
  cases result with
  | ok value =>
      obtain ⟨file, makes, read, guarded⟩ := ends
      refine ⟨⟨guarded.bounded, ?_, fun isLoss => by cases isLoss⟩, apart⟩
      intro names moment name within
      rw [List.mem_singleton.1 moment, isPath within]
      change Holds _ (after.read (saveReplacement save).target)
      rw [read]
      exact holds_of_makes makes (List.mem_singleton_self _)
  | error stop =>
      refine ⟨?_, apart⟩
      cases ends with
      | inl guarded =>
          apply guarded.mono
          intro name within file holds
          exact holds_append holds
      | inr made =>
          obtain ⟨file, makes, guarded⟩ := made
          apply guarded.mono
          intro name within found member
          rw [isPath within, allow, Function.update_self] at member
          cases member with
          | inl isNew =>
              rw [isNew]
              exact holds_of_makes makes (List.mem_append_right _ (List.mem_singleton_self _))
          | inr before => exact holds_append before

/-- Wherever the commands were interrupted, the store is that of the last save that succeeded
or of one that was started since, and it is readable for its user only. -/
theorem saved_always (saves : List Save) :
    Always step (fun history => Holds history.possible (history.disk.read configPath)) fresh
      saves := by
  have sound (history : SaveHistory) (inv : Inv history) :
      Holds history.possible (history.disk.read configPath) :=
    inv.1.read_mem (Set.mem_singleton configPath)
  have preserved : ∀ history save, Inv history → True → Inv (step history save) :=
    fun history save inv _ => inv_step history save inv
  exact always_of_invariant sound preserved saves fresh inv_fresh (everyStep_true saves fresh)

end SaveHistory

end Varmlen.Cli
