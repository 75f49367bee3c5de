import Varmlen.Daemon.LogStore
import Varmlen.Foundation.Lines
import Varmlen.Foundation.Utf8Lossy

/-!
# The end of the log

What of the log the daemon shows (`tail` in `daemon/src/log_store.rs`): the bytes of a
window at its end, without the line that the window begins inside of.  The byte before the
window is not looked at, so a first line that is complete is taken for the rest of one.
-/

namespace Varmlen.Daemon

open Foundation.Files Foundation.Lines Foundation.Utf8

def maxLogTailBytes : Nat := 256 * 1024

def newline : UInt8 := 10

namespace LogStore

/-- `max_bytes.min(MAX_LOG_TAIL_BYTES)`. -/
def tailLimit (maxBytes : Nat) : Nat := min maxBytes maxLogTailBytes

/-- Where the window begins. -/
def tailStart (log : Bytes) (maxBytes : Nat) : Nat := log.length - tailLimit maxBytes

/-- The bytes that are kept. -/
def tailBytes (log : Bytes) (maxBytes : Nat) : Bytes :=
  let start := tailStart log maxBytes
  let bytes := log.drop start
  if 0 < start then
    match bytes.idxOf? newline with
    | some newline => bytes.drop (newline + 1)
    | none => bytes
  else bytes

def tail (store : LogStore) (files : Directory) (maxBytes : Nat) : Except FileError String :=
  match files store.path with
  | none => .ok ""
  | some log => .ok (fromUtf8Lossy (tailBytes log maxBytes))

/-- A log that is not there is an empty one. -/
theorem tail_eq (store : LogStore) (files : Directory) (maxBytes : Nat) :
    store.tail files maxBytes =
      .ok (fromUtf8Lossy (tailBytes (content files store.path) maxBytes)) := by
  rw [tail, content]
  cases files store.path with
  | none => simp [tailBytes, tailStart, fromUtf8Lossy, decode]
  | some log => rfl

/-- All the last lines that fit are kept, as soon as the very last one does. -/
structure KeepsLines (log : Bytes) (maxBytes : Nat) : Prop where
  bounded : (tailBytes log maxBytes).length ≤ tailLimit maxBytes
  complete : (lastLine newline log).length ≤ tailLimit maxBytes →
    LongestLines newline (tailLimit maxBytes) log (tailBytes log maxBytes)

/-- The log does not fit, and the part of it that would begins directly after a newline and
holds one. -/
structure BeginsWithLine (log : Bytes) (maxBytes : Nat) : Prop where
  cut : tailLimit maxBytes < log.length
  before : log[log.length - tailLimit maxBytes - 1]? = some newline
  ended : newline ∈ log.drop (log.length - tailLimit maxBytes)

section Window

variable {log : Bytes} {maxBytes : Nat}

theorem tailBytes_of_whole (whole : tailStart log maxBytes = 0) : tailBytes log maxBytes = log := by
  rw [tailBytes, whole]
  rfl

theorem tailBytes_of_unended (cut : 0 < tailStart log maxBytes)
    (unended : newline ∉ log.drop (tailStart log maxBytes)) :
    tailBytes log maxBytes = log.drop (tailStart log maxBytes) := by
  rw [tailBytes, if_pos cut, List.idxOf?_eq_none_iff.2 unended]

/-- A window with a newline is kept after the first one. -/
theorem tailBytes_of_ended (cut : 0 < tailStart log maxBytes)
    (ended : newline ∈ log.drop (tailStart log maxBytes)) :
    ∃ before, log.drop (tailStart log maxBytes) = before ++ newline :: tailBytes log maxBytes ∧
      newline ∉ before := by
  cases found : (log.drop (tailStart log maxBytes)).idxOf? newline with
  | none => exact absurd ended (List.idxOf?_eq_none_iff.1 found)
  | some index =>
      have kept : tailBytes log maxBytes =
          (log.drop (tailStart log maxBytes)).drop (index + 1) := by
        rw [tailBytes, if_pos cut, found]
      rw [kept]
      generalize log.drop (tailStart log maxBytes) = window at found ⊢
      rcases List.idxOf?_eq_some_iff.1 found with ⟨inside, isNewline, earlier⟩
      refine ⟨window.take index, ?_, ?_⟩
      · rw [← isNewline, List.cons_getElem_drop_succ, List.take_append_drop]
      · intro member
        rcases List.getElem_of_mem member with ⟨place, within, same⟩
        rw [List.getElem_take] at same
        rw [List.length_take] at within
        exact earlier place (by omega) same

/-- The text before the window and the window. -/
theorem take_append_window (log : Bytes) (maxBytes : Nat) :
    log.take (tailStart log maxBytes) ++ log.drop (tailStart log maxBytes) = log :=
  List.take_append_drop _ _

theorem length_window (cut : 0 < tailStart log maxBytes) :
    (log.drop (tailStart log maxBytes)).length = tailLimit maxBytes := by
  rw [tailStart] at cut ⊢
  rw [List.length_drop]
  omega

theorem atLineStart_iff (cut : 0 < tailStart log maxBytes) :
    AtLineStart newline (log.take (tailStart log maxBytes)) ↔
      log[tailStart log maxBytes - 1]? = some newline := by
  have inside : tailStart log maxBytes ≤ log.length := Nat.sub_le _ _
  have nonempty : log.take (tailStart log maxBytes) ≠ [] := by
    rw [← List.length_pos_iff, List.length_take]
    omega
  have last : (log.take (tailStart log maxBytes)).getLast? = log[tailStart log maxBytes - 1]? := by
    rw [List.getLast?_eq_getElem?, List.length_take_of_le inside, List.getElem?_take_of_lt]
    omega
  rw [AtLineStart, last]
  exact or_iff_right nonempty

theorem tailBytes_bounded (log : Bytes) (maxBytes : Nat) :
    (tailBytes log maxBytes).length ≤ tailLimit maxBytes := by
  by_cases cut : 0 < tailStart log maxBytes
  · have window := length_window cut
    by_cases ended : newline ∈ log.drop (tailStart log maxBytes)
    · rcases tailBytes_of_ended cut ended with ⟨before, split, _⟩
      rw [split, List.length_append, List.length_cons] at window
      omega
    · rw [tailBytes_of_unended cut ended, window]
  · rw [tailBytes_of_whole (Nat.eq_zero_of_not_pos cut)]
    rw [tailStart] at cut
    omega

/-- A complete line at the start of the window is lost. -/
theorem BeginsWithLine.not_keeps (begins : BeginsWithLine log maxBytes) :
    ¬KeepsLines log maxBytes := by
  intro keeps
  have cut : 0 < tailStart log maxBytes := Nat.sub_pos_of_lt begins.cut
  have window := length_window cut
  have starts := (atLineStart_iff cut).2 begins.before
  have whole : WholeLines newline log (log.drop (tailStart log maxBytes)) :=
    ⟨_, (take_append_window log maxBytes).symm, starts⟩
  have nonempty : log.drop (tailStart log maxBytes) ≠ [] := List.ne_nil_of_mem begins.ended
  have lastFits : (lastLine newline log).length ≤ tailLimit maxBytes :=
    window ▸ length_lastLine_le whole nonempty
  have kept := (keeps.complete lastFits).longest _ whole (Nat.le_of_eq window)
  rcases tailBytes_of_ended cut begins.ended with ⟨before, split, _⟩
  rw [split, List.length_append, List.length_cons] at kept
  omega

/-- Otherwise the lines that fit are kept. -/
theorem longestLines_tailBytes (other : ¬BeginsWithLine log maxBytes)
    (lastFits : (lastLine newline log).length ≤ tailLimit maxBytes) :
    LongestLines newline (tailLimit maxBytes) log (tailBytes log maxBytes) := by
  by_cases cut : 0 < tailStart log maxBytes
  · have window := length_window cut
    have parts := take_append_window log maxBytes
    by_cases starts : AtLineStart newline (log.take (tailStart log maxBytes))
    · -- without a newline, the window is kept as it is
      have unended : newline ∉ log.drop (tailStart log maxBytes) :=
        fun ended => other ⟨Nat.lt_of_sub_pos cut, (atLineStart_iff cut).1 starts, ended⟩
      rw [tailBytes_of_unended cut unended]
      have longest : LongestLines newline _ (_ ++ log.drop (tailStart log maxBytes)) _ :=
        longestLines_window starts
      rwa [parts, window] at longest
    · by_cases ended : newline ∈ log.drop (tailStart log maxBytes)
      · rcases tailBytes_of_ended cut ended with ⟨before, split, first⟩
        have longest := longestLines_after starts split first
        rwa [parts, window] at longest
      · -- a last line that fits would begin in the window
        exfalso
        have whole : WholeLines newline log (lastLine newline log) := wholeLines_lastLine log
        rw [← parts] at whole lastFits
        rcases whole.inside (window ▸ lastFits) with ⟨_, begins⟩ | ⟨before, split⟩
        · exact starts begins
        · exact ended (by rw [split]; simp)
  · have none := Nat.eq_zero_of_not_pos cut
    have all : log.length ≤ tailLimit maxBytes := Nat.le_of_sub_eq_zero none
    rw [tailBytes_of_whole none]
    exact ⟨⟨[], rfl, .inl rfl⟩, all, fun _ ⟨_, text, _⟩ _ => by
      rw [text, List.length_append]
      exact Nat.le_add_left _ _⟩

/-- What is kept begins with a line, unless the window is a part of one. -/
theorem wholeLines_tailBytes (ended : log.length ≤ tailLimit maxBytes ∨
    newline ∈ log.drop (log.length - tailLimit maxBytes)) :
    WholeLines newline log (tailBytes log maxBytes) := by
  by_cases cut : 0 < tailStart log maxBytes
  · have inside : newline ∈ log.drop (tailStart log maxBytes) := by
      apply ended.resolve_left
      exact Nat.not_le.2 (Nat.lt_of_sub_pos cut)
    rcases tailBytes_of_ended cut inside with ⟨before, split, _⟩
    refine ⟨log.take (tailStart log maxBytes) ++ before ++ [newline], ?_, .inr ?_⟩
    · rw [List.append_assoc, List.append_assoc, List.singleton_append, ← split,
        take_append_window]
    · exact List.getLast?_concat
  · rw [tailBytes_of_whole (Nat.eq_zero_of_not_pos cut)]
    exact ⟨[], rfl, .inl rfl⟩

end Window

/-- The lines that fit are kept, unless a complete line is the first one in the window. -/
theorem keepsLines_iff (log : Bytes) (maxBytes : Nat) :
    KeepsLines log maxBytes ↔ ¬BeginsWithLine log maxBytes := by
  constructor
  · intro keeps begins
    exact begins.not_keeps keeps
  · intro other
    exact ⟨tailBytes_bounded log maxBytes, longestLines_tailBytes other⟩

/-- Of `a` and `b` on a line each, two bytes are asked for: the second line would fit. -/
theorem second_line_lost : ¬KeepsLines [97, 10, 98, 10] 2 := by
  intro keeps
  have whole : WholeLines newline [97, 10, 98, 10] [98, 10] := ⟨[97, 10], rfl, .inr rfl⟩
  have kept := (keeps.complete (by decide)).longest _ whole (by decide)
  exact absurd kept (by decide)

/-- Of a log that is a text, what is shown are whole lines of the text. -/
theorem tail_of_text {store : LogStore} {files : Directory} {text : List Char} {maxBytes : Nat}
    (written : content files store.path = encode text)
    (ended : (encode text).length ≤ tailLimit maxBytes ∨
      newline ∈ (encode text).drop ((encode text).length - tailLimit maxBytes)) :
    ∃ lines, store.tail files maxBytes = .ok (String.ofList lines) ∧
      WholeLines '\n' text lines := by
  have read (chars : List Char) : fromUtf8Lossy (encode chars) = String.ofList chars := by
    have decoded : decode none (encode chars ++ []) = chars ++ decode none [] :=
      decode_encode chars
    rw [List.append_nil, decode, List.append_nil] at decoded
    rw [fromUtf8Lossy, decoded]
  rw [tail_eq, written]
  rcases wholeLines_tailBytes ended with ⟨front, parts, none | last⟩
  · rw [none, List.nil_append] at parts
    rw [← parts, read]
    exact ⟨text, rfl, [], rfl, .inl rfl⟩
  · rcases List.getLast?_eq_some_iff.1 last with ⟨before, rfl⟩
    rw [List.append_assoc, List.singleton_append] at parts
    rcases split_of_encode (by decide) parts with ⟨left, char, right, rfl, code, _, kept⟩
    have isNewline : char = '\n' := Char.toNat_inj.1 code
    rw [kept, read, isNewline]
    refine ⟨right, rfl, left ++ ['\n'], ?_, .inr List.getLast?_concat⟩
    rw [List.append_assoc, List.singleton_append]

end LogStore

end Varmlen.Daemon
