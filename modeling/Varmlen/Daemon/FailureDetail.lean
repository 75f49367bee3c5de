import Varmlen.Foundation.TextParts
import Varmlen.Foundation.Utf8

/-!
# Why Xray refused a configuration

The text that the daemon reports of what Xray has written (`daemon/src/system.rs`).  It is
measured in characters and cut in bytes.
-/

namespace Varmlen.Daemon

open Foundation.Text Foundation.Utf8

def maxDetailChars : Nat := 600

/-- A line of the banner that Xray starts with. -/
def isBanner (line : String) : Bool :=
  startsWith line "Xray " || startsWith line "A unified platform" ||
    contains line "Reading config:"

/-- The lines of both streams that say something, without the banner. -/
def explanationLines (stdout stderr : String) : List String :=
  (((lines stderr ++ lines stdout).map trim).filter fun line => line != "").filter
    fun line => !isBanner line

/-- The lines joined into one text. -/
def explanation (stdout stderr : String) : String :=
  String.intercalate " | " (explanationLines stdout stderr)

/-- The text, unless cutting it goes through a character, which panics. -/
def validationFailureDetail (stdout stderr : String) : Option String :=
  if (explanationLines stdout stderr).isEmpty then some "no explanation was written by Xray"
  else
    let detail := (explanation stdout stderr).toList
    if detail.length ≤ maxDetailChars then some (String.ofList detail)
    else
      let keep := detail.length - maxDetailChars
      (dropBytes keep detail).map fun rest => "…" ++ String.ofList rest

/-- The last characters of a text. -/
def lastChars (count : Nat) (chars : List Char) : List Char :=
  chars.drop (chars.length - count)

/-- What the error text promises: there is one, and a long explanation is cut down to its
end. -/
def DetailProduced (stdout stderr : String) : Prop :=
  ∃ text, validationFailureDetail stdout stderr = some text ∧
    (maxDetailChars < (explanation stdout stderr).toList.length →
      text = "…" ++ String.ofList
        (lastChars maxDetailChars (explanation stdout stderr).toList))

/-- The characters that a long explanation loses are ASCII. -/
def LosesAscii (stdout stderr : String) : Prop :=
  let detail := (explanation stdout stderr).toList
  ∀ char ∈ detail.take (detail.length - maxDetailChars), isAscii char = true

section

variable {stdout stderr : String}

/-- A short explanation is reported as it is. -/
theorem validationFailureDetail_short
    (short : (explanation stdout stderr).toList.length ≤ maxDetailChars) :
    ∃ text, validationFailureDetail stdout stderr = some text := by
  rw [validationFailureDetail]
  split
  next => exact ⟨_, rfl⟩
  next => exact ⟨_, if_pos short⟩

/-- A long one is cut, at an offset in bytes that was counted in characters. -/
theorem validationFailureDetail_long
    (long : maxDetailChars < (explanation stdout stderr).toList.length) :
    validationFailureDetail stdout stderr =
      (dropBytes ((explanation stdout stderr).toList.length - maxDetailChars)
        (explanation stdout stderr).toList).map fun rest => "…" ++ String.ofList rest := by
  rw [validationFailureDetail]
  split
  next empty =>
    rw [explanation, List.isEmpty_iff.1 empty] at long
    cases long
  next => exact if_neg (Nat.not_le.2 long)

theorem cut_eq_some_iff {cut : Option (List Char)} {kept : List Char} :
    cut.map (fun rest => "…" ++ String.ofList rest) = some ("…" ++ String.ofList kept) ↔
      cut = some kept := by
  rw [Option.map_eq_some_iff]
  constructor
  · rintro ⟨rest, isCut, same⟩
    rw [String.append_right_inj, String.ofList_inj] at same
    rw [isCut, same]
  · intro isCut
    exact ⟨kept, isCut, rfl⟩

/-- The error text is as promised exactly when no character that it loses takes up more
than one byte. -/
theorem detail_produced_iff (stdout stderr : String) :
    DetailProduced stdout stderr ↔ LosesAscii stdout stderr := by
  rw [LosesAscii, DetailProduced]
  by_cases long : maxDetailChars < (explanation stdout stderr).toList.length
  · rw [← dropBytes_eq_drop_iff (Nat.sub_le _ _), validationFailureDetail_long long]
    simp only [long, true_imp_iff]
    constructor
    · rintro ⟨text, produced, rfl⟩
      exact cut_eq_some_iff.1 produced
    · intro cut
      exact ⟨_, cut_eq_some_iff.2 cut, rfl⟩
  · rw [Nat.not_lt] at long
    rcases validationFailureDetail_short long with ⟨text, produced⟩
    rw [Nat.sub_eq_zero_of_le long, List.take_zero]
    constructor
    · intro _ char member
      cases member
    · intro _
      exact ⟨text, produced, fun longer => absurd longer (Nat.not_lt.2 long)⟩

/-- A line without white space that is none of the banner is reported whole. -/
theorem explanation_single {line : String} (nonempty : line ≠ "")
    (solid : ∀ char ∈ line.toList, isWhitespace char = false) (said : isBanner line = false) :
    explanation line "" = line := by
  have noFeed : ∀ part ∈ [line], '\n' ∉ part.toList := by
    intro part member feed
    rw [List.mem_singleton.1 member] at feed
    cases solid _ feed
  have whole : split '\n' line = [line] := by
    have joined := split_intercalate (List.cons_ne_nil line []) noFeed
    rwa [String.intercalate_singleton] at joined
  have single : lines line = [line] := by
    rw [lines, whole]
    simp [nonempty]
  have none : lines "" = [] := by decide
  rw [explanation, explanationLines, none, single]
  simp [trim_eq_self solid, nonempty, said]

/-- One Cyrillic letter before the last 600 characters: the cut goes through it. -/
theorem detail_lost_in_cyrillic :
    ¬ DetailProduced (String.ofList ('ж' :: List.replicate 600 'x')) "" := by
  let line := String.ofList ('ж' :: List.replicate 600 'x')
  have chars : line.toList = 'ж' :: List.replicate 600 'x' := String.toList_ofList
  have unread : ¬ "Reading config:".toList <:+: line.toList := by
    intro found
    have member : 'R' ∈ line.toList := found.subset (.head _)
    rw [chars, List.mem_cons, List.mem_replicate] at member
    rcases member with same | ⟨_, same⟩
    · cases same
    · cases same
  have said : isBanner line = false := by
    rw [isBanner, startsWith, startsWith, chars, contains, decide_eq_false unread]
    rfl
  have explained : (explanation line "").toList = 'ж' :: List.replicate 600 'x' := by
    have nonempty : line ≠ "" := by
      intro empty
      rw [empty] at chars
      cases chars
    have solid : ∀ char ∈ line.toList, isWhitespace char = false := by
      intro char member
      rw [chars, List.mem_cons, List.mem_replicate] at member
      rcases member with rfl | ⟨_, rfl⟩
      · decide
      · decide
    rw [explanation_single nonempty solid said, chars]
  have length : (explanation line "").toList.length = 601 := by
    rw [explained, List.length_cons, List.length_replicate]
  rintro ⟨text, produced, _⟩
  rw [validationFailureDetail_long (by rw [length]; decide), length, explained] at produced
  have through : dropBytes (601 - maxDetailChars) ('ж' :: List.replicate 600 'x') = none :=
    if_neg (by decide)
  rw [through] at produced
  cases produced

end

end Varmlen.Daemon
