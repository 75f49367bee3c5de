import Mathlib.Algebra.Group.Nat.Defs
import Varmlen.Foundation.Checks
import Varmlen.Foundation.Files
import Varmlen.Foundation.TextParts

/-!
# The log of Xray

What Xray writes is appended to a file that is rotated before it grows too large: the
older parts of the log move to the files `.1`, `.2` and `.3`, and what was in the last of
these is lost (`daemon/src/log_store.rs`).
-/

namespace Varmlen.Daemon

open Foundation.Checks Foundation.Files Foundation.Text

def maxLogBytes : Nat := 10 * 1024 * 1024

def rotatedLogs : Nat := 3

structure LogStore where
  path : String
  deriving DecidableEq, Repr

namespace LogStore

def forOwner (ownerUid : Nat) : LogStore where
  path := "/run/varmlen/xray-" ++ toString ownerUid ++ ".log"

def rotatedPath (store : LogStore) (index : Nat) : String :=
  if index = 0 then store.path else store.path ++ "." ++ toString index

def renameIfExists (source target : String) (files : Directory) : Except FileError Directory :=
  ifFound files (rename files source target)

def rotate (store : LogStore) (files : Directory) : Except FileError Directory := do
  let oldest := store.rotatedPath rotatedLogs
  let files ← ifFound files (removeFile files oldest)
  let files ← (List.range' 1 (rotatedLogs - 1)).reverse.foldlM
    (fun files index =>
      renameIfExists (store.rotatedPath index) (store.rotatedPath (index + 1)) files)
    files
  renameIfExists store.path (store.rotatedPath 1) files

/-- Addition of 64-bit numbers that stops at the largest. -/
def saturatingAdd (left right : Nat) : Nat := min (left + right) (2 ^ 64 - 1)

def append (store : LogStore) (files : Directory) (bytes : Bytes) : Except FileError Directory :=
  if bytes.isEmpty then .ok files
  else do
    let currentLen := (content files store.path).length
    let files ← (if maxLogBytes < saturatingAdd currentLen bytes.length then rotate store files
      else .ok files)
    let start := bytes.length - maxLogBytes
    return appendTo files store.path (bytes.drop start)

/-- What is left of the log, from its oldest part on. -/
def history (store : LogStore) (files : Directory) : Bytes :=
  (List.range (rotatedLogs + 1)).reverse.flatMap fun index =>
    content files (store.rotatedPath index)

/-- Different numbers make different names. -/
theorem rotatedPath_injective (store : LogStore) : Function.Injective store.rotatedPath := by
  intro first second same
  have longer (index : Nat) : store.path ++ "." ++ toString index ≠ store.path := by
    intro equal
    have lengths := congrArg String.length equal
    have dot : ".".length = 1 := rfl
    rw [String.length_append, String.length_append, dot] at lengths
    omega
  rw [rotatedPath, rotatedPath] at same
  split at same
  next isFirst =>
    split at same
    next isSecond => rw [isFirst, isSecond]
    next => exact absurd same.symm (longer second)
  next =>
    split at same
    next => exact absurd same (longer first)
    next =>
      rw [String.append_right_inj] at same
      exact toString_injective same

/-- What a rotation does to the files: each moves on by one place. -/
structure Rotated (store : LogStore) (files rotated : Directory) : Prop where
  current : rotated store.path = none
  shifted : ∀ index < rotatedLogs,
    rotated (store.rotatedPath (index + 1)) = files (store.rotatedPath index)
  others : ∀ name, (∀ index ≤ rotatedLogs, name ≠ store.rotatedPath index) →
    rotated name = files name

theorem Rotated.content_current {store : LogStore} {files rotated : Directory}
    (moved : Rotated store files rotated) : content rotated store.path = [] := by
  rw [content, moved.current, Option.getD_none]

theorem rotate_eq_ok (store : LogStore) (files : Directory) :
    ∃ rotated, rotate store files = .ok rotated ∧ Rotated store files rotated := by
  have apart {first second : Nat} (different : first ≠ second) :
      store.rotatedPath first ≠ store.rotatedPath second :=
    (rotatedPath_injective store).ne different
  have current : store.path = store.rotatedPath 0 := rfl
  let removed := set files (store.rotatedPath 3) none
  let second := move removed (store.rotatedPath 2) (store.rotatedPath 3)
  let first := move second (store.rotatedPath 1) (store.rotatedPath 2)
  let last := move first (store.rotatedPath 0) (store.rotatedPath 1)
  -- each rename finds its target free, because the file there has moved on before
  have freeThird : removed (store.rotatedPath 3) = none := if_pos rfl
  have freeSecond : second (store.rotatedPath 2) = none := move_source (apart (by decide))
  have freeFirst : first (store.rotatedPath 1) = none := move_source (apart (by decide))
  have loop : [2, 1].foldlM (fun files index =>
      renameIfExists (store.rotatedPath index) (store.rotatedPath (index + 1)) files) removed =
        .ok first :=
    bind_eq_ok.2 ⟨second, ifFound_rename freeThird,
      bind_eq_ok.2 ⟨first, ifFound_rename freeSecond, rfl⟩⟩
  refine ⟨last, bind_eq_ok.2 ⟨removed, ifFound_removeFile _ _,
    bind_eq_ok.2 ⟨first, loop, ifFound_rename freeFirst⟩⟩, ?_, ?_, ?_⟩
  · exact move_source (apart (by decide))
  · intro index inside
    have cases : index = 0 ∨ index = 1 ∨ index = 2 := by
      rw [rotatedLogs] at inside
      omega
    rcases cases with rfl | rfl | rfl
    · simp [last, first, second, removed, move_of_ne, set_of_ne, apart]
    · simp [last, first, second, removed, move_of_ne, set_of_ne, apart]
    · simp [last, first, second, removed, move_of_ne, set_of_ne, apart]
  · intro name other
    have outside (index : Nat) (inside : index ≤ 3) : name ≠ store.rotatedPath index :=
      other index inside
    simp [last, first, second, removed, move_of_ne, set_of_ne, outside]

/-! ## The history -/

/-- What the files keep of the bytes that were appended. -/
structure Keeps (store : LogStore) (appended : Bytes) (files : Directory) : Prop where
  bounded : ∀ index ≤ rotatedLogs,
    (content files (store.rotatedPath index)).length ≤ maxLogBytes
  noOther : ∀ name, files name ≠ none → ∃ index ≤ rotatedLogs, name = store.rotatedPath index
  gapFree : store.history files <:+ appended

section History

variable {store : LogStore} {files rotated : Directory} {appended chunk : Bytes}

theorem history_eq (store : LogStore) (files : Directory) :
    store.history files = content files (store.rotatedPath 3) ++
      (content files (store.rotatedPath 2) ++
        (content files (store.rotatedPath 1) ++ content files store.path)) := by
  simp [history, rotatedLogs, List.range, List.range.loop, rotatedPath]

theorem keeps_empty (store : LogStore) : Keeps store [] empty where
  bounded _ _ := Nat.zero_le _
  noOther _ there := absurd rfl there
  gapFree := by
    rw [history_eq]
    exact List.suffix_rfl

theorem rotatedPath_succ_ne (index : Nat) : store.rotatedPath (index + 1) ≠ store.path :=
  (rotatedPath_injective store).ne (Nat.succ_ne_zero index)

/-- Only the current log changes when bytes are written at its end. -/
theorem history_appendTo :
    store.history (appendTo files store.path chunk) = store.history files ++ chunk := by
  rw [history_eq, history_eq, content_appendTo_self,
    content_appendTo_of_ne _ _ (rotatedPath_succ_ne 0),
    content_appendTo_of_ne _ _ (rotatedPath_succ_ne 1),
    content_appendTo_of_ne _ _ (rotatedPath_succ_ne 2)]
  simp only [List.append_assoc]

/-- Bytes that fit in the current log go to its end. -/
theorem Keeps.written (keeps : Keeps store appended files)
    (fits : (content files store.path).length + chunk.length ≤ maxLogBytes) :
    Keeps store (appended ++ chunk) (appendTo files store.path chunk) where
  bounded index inside := by
    by_cases current : store.rotatedPath index = store.path
    · rw [current, content_appendTo_self, List.length_append]
      exact fits
    · rw [content_appendTo_of_ne _ _ current]
      exact keeps.bounded index inside
  noOther name there := by
    by_cases current : name = store.path
    · exact ⟨0, Nat.zero_le _, current⟩
    · rw [appendTo, set_of_ne _ _ current] at there
      exact keeps.noOther name there
  gapFree := by
    rcases keeps.gapFree with ⟨lost, whole⟩
    exact ⟨lost, by rw [history_appendTo, ← List.append_assoc, whole]⟩

/-- A rotation loses the oldest part and nothing else. -/
theorem Keeps.shifted (keeps : Keeps store appended files)
    (moved : Rotated store files rotated) : Keeps store appended rotated where
  bounded index inside := by
    cases index with
    | zero =>
        rw [content, show store.rotatedPath 0 = store.path from rfl, moved.current]
        exact Nat.zero_le _
    | succ index =>
        rw [content, moved.shifted index inside]
        exact keeps.bounded index (Nat.le_of_succ_le inside)
  noOther name there := by
    by_contra absent
    have other : ∀ index ≤ rotatedLogs, name ≠ store.rotatedPath index :=
      fun index inside named => absent ⟨index, inside, named⟩
    rw [moved.others name other] at there
    exact absent (keeps.noOther name there)
  gapFree := by
    have shift (index : Nat) (inside : index < rotatedLogs) :
        content rotated (store.rotatedPath (index + 1)) =
          content files (store.rotatedPath index) :=
      congrArg (Option.getD · []) (moved.shifted index inside)
    have oldest : store.history files =
        content files (store.rotatedPath 3) ++ store.history rotated := by
      rw [history_eq, history_eq, shift 0 (by decide), shift 1 (by decide),
        shift 2 (by decide), moved.content_current, List.append_nil]
      rfl
    exact (oldest ▸ List.suffix_append _ _).trans keeps.gapFree

/-- One call: the bytes are added to what is kept. -/
theorem append_keeps (keeps : Keeps store appended files)
    (small : chunk.length ≤ maxLogBytes) :
    ∃ changed, append store files chunk = .ok changed ∧
      Keeps store (appended ++ chunk) changed := by
  rw [append]
  cases chunk with
  | nil => exact ⟨files, if_pos rfl, by rwa [List.append_nil]⟩
  | cons byte rest =>
      have start : (byte :: rest).length - maxLogBytes = 0 := Nat.sub_eq_zero_of_le small
      rw [if_neg (by simp)]
      by_cases large :
          maxLogBytes < saturatingAdd (content files store.path).length (byte :: rest).length
      · rcases rotate_eq_ok store files with ⟨rotated, done, moved⟩
        have written : Keeps store _ (appendTo rotated store.path (byte :: rest)) :=
          (keeps.shifted moved).written (by simpa [moved.content_current] using small)
        refine ⟨_, bind_eq_ok.2 ⟨rotated, by rw [if_pos large, done], rfl⟩, ?_⟩
        rwa [start, List.drop_zero]
      · have fits : (content files store.path).length + (byte :: rest).length ≤ maxLogBytes := by
          have bound : maxLogBytes < 2 ^ 64 - 1 := by decide
          rw [saturatingAdd] at large
          omega
        refine ⟨_, bind_eq_ok.2 ⟨files, if_neg large, rfl⟩, ?_⟩
        rw [start, List.drop_zero]
        exact keeps.written fits

theorem appends_keep (chunks : List Bytes) (keeps : Keeps store appended files)
    (small : ∀ chunk ∈ chunks, chunk.length ≤ maxLogBytes) :
    ∃ changed, chunks.foldlM (append store) files = .ok changed ∧
      Keeps store (appended ++ chunks.flatten) changed := by
  induction chunks generalizing appended files with
  | nil => exact ⟨files, rfl, by rwa [List.flatten_nil, List.append_nil]⟩
  | cons chunk rest ih =>
      rw [List.forall_mem_cons] at small
      rcases append_keeps keeps small.1 with ⟨changed, first, kept⟩
      rcases ih kept small.2 with ⟨last, others, keptLast⟩
      refine ⟨last, bind_eq_ok.2 ⟨changed, first, others⟩, ?_⟩
      rwa [List.flatten_cons, ← List.append_assoc]

end History

/-- Starting without files, any calls with bytes that fit in a file succeed; the files are
bounded, and what they hold is the end of all that was appended. -/
theorem history_bounded_gapFree (store : LogStore) (chunks : List Bytes)
    (small : ∀ chunk ∈ chunks, chunk.length ≤ maxLogBytes) :
    ∃ files, chunks.foldlM (append store) empty = .ok files ∧
      Keeps store chunks.flatten files :=
  appends_keep chunks (keeps_empty store) small

theorem history_of_two_lines :
    ∃ files, [[104, 105, 10], [98, 121, 101, 10]].foldlM (append (forOwner 1000)) empty =
        .ok files ∧
      Keeps (forOwner 1000) [104, 105, 10, 98, 121, 101, 10] files :=
  history_bounded_gapFree (forOwner 1000) [[104, 105, 10], [98, 121, 101, 10]] (by decide)

end LogStore

end Varmlen.Daemon
