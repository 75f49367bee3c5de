import Mathlib.Data.List.Nodup
import Mathlib.Data.List.Range
import Mathlib.Data.List.TakeWhile

/-!
# Rows of a table

A table is a list of rows, and a row is named by its position.  The rows of one
owner are found by a predicate; they may be listed, searched for the first one,
and replaced as a block.
-/

namespace Foundation.Rows

variable {Row : Type} {predicate other owned : Row → Bool} {rows fresh : List Row}

/-! ## Positions -/

/-- Where the rows that satisfy the predicate stand, in order. -/
def positions (predicate : Row → Bool) (rows : List Row) : List Nat :=
  (rows.zipIdx.filter fun row => predicate row.1).map Prod.snd

theorem mem_positions {index : Nat} :
    index ∈ positions predicate rows ↔
      ∃ row, rows[index]? = some row ∧ predicate row = true := by
  simp only [positions, List.mem_map, List.mem_filter, List.mk_mem_zipIdx_iff_getElem?,
    Prod.exists, exists_eq_right]

theorem positions_eq_nil :
    positions predicate rows = [] ↔ ∀ row ∈ rows, predicate row = false := by
  rw [positions, List.map_eq_nil_iff, List.filter_eq_nil_iff]
  constructor
  · intro rejected row member
    rcases List.getElem?_of_mem member with ⟨index, found⟩
    simpa using rejected (row, index) (List.mk_mem_zipIdx_iff_getElem?.2 found)
  · intro rejected row member
    have listed := List.mem_of_getElem? (List.mk_mem_zipIdx_iff_getElem?.1 member)
    simp [rejected row.1 listed]

theorem positions_nodup : (positions predicate rows).Nodup := by
  apply List.Nodup.sublist (List.Sublist.map _ List.filter_sublist)
  rw [List.zipIdx_map_snd]
  exact List.nodup_range'

/-- The first position among the listed ones that a second predicate accepts. -/
theorem find?_positions :
    (positions predicate rows).find? (fun index => (rows[index]?).any other) =
      rows.findIdx? fun row => predicate row && other row := by
  rw [List.findIdx?_eq_fst_find?_zipIdx, positions, List.find?_map, List.find?_filter]
  rw [← List.head?_filter, ← List.head?_filter]
  congr 2
  apply List.filter_congr
  rintro ⟨row, index⟩ member
  rw [List.mk_mem_zipIdx_iff_getElem?] at member
  simp [member]

theorem head?_positions : (positions predicate rows).head? = rows.findIdx? predicate := by
  rw [List.findIdx?_eq_fst_find?_zipIdx, positions, List.head?_map, List.head?_filter]

/-- A narrower search that accepts the first row found finds the same row. -/
theorem findIdx?_of_first {first : Row}
    (narrow : ∀ row, other row = true → predicate row = true)
    (found : rows.find? predicate = some first) (accepted : other first = true) :
    rows.findIdx? other = rows.findIdx? predicate := by
  rw [List.find?_eq_bind_findIdx?_getElem?] at found
  rcases Option.bind_eq_some_iff.1 found with ⟨index, position, located⟩
  rw [position]
  rcases List.findIdx?_eq_some_iff_getElem.1 position with ⟨inRange, _, before⟩
  rw [List.getElem?_eq_getElem inRange, Option.some.injEq] at located
  rw [List.findIdx?_eq_some_iff_getElem]
  refine ⟨inRange, located ▸ accepted, ?_⟩
  intro earlier isBefore holds
  exact before earlier isBefore (narrow _ holds)

/-- A change that keeps what is read of the row changes nothing that is read. -/
theorem map_modify_of_same {Read : Type} {read : Row → Read} {change : Row → Row}
    {index : Nat} (same : ∀ row, rows[index]? = some row → read (change row) = read row) :
    (rows.modify index change).map read = rows.map read := by
  induction rows generalizing index with
  | nil => simp
  | cons row rest ih =>
      cases index with
      | zero => simp [same row rfl]
      | succ index =>
          rw [List.modify_succ_cons, List.map_cons, List.map_cons, ih same]

/-- A change of a row that is not looked at, before or after, is not seen. -/
theorem filter_modify_of_outside {change : Row → Row} {index : Nat}
    (outside : ∀ row, rows[index]? = some row →
      predicate row = false ∧ predicate (change row) = false) :
    (rows.modify index change).filter predicate = rows.filter predicate := by
  induction rows generalizing index with
  | nil => simp
  | cons row rest ih =>
      cases index with
      | zero =>
          rcases outside row rfl with ⟨before, after⟩
          simp [before, after]
      | succ index =>
          rw [List.modify_succ_cons, List.filter_cons, List.filter_cons, ih outside]

/-- Changing the first row with a key changes the one row that has it. -/
theorem modify_findIdx?_of_nodup {Key : Type} [DecidableEq Key] {key : Row → Key}
    {wanted : Key} {index : Nat} (change : Row → Row) (distinct : (rows.map key).Nodup)
    (found : rows.findIdx? (fun row => key row == wanted) = some index) :
    rows.modify index change =
      rows.map fun row => if key row = wanted then change row else row := by
  induction rows generalizing index with
  | nil => cases found
  | cons row rows ih =>
      rcases List.nodup_cons.1 distinct with ⟨notBehind, distinct⟩
      rw [List.findIdx?_cons] at found
      by_cases here : key row = wanted
      · simp only [here, beq_self_eq_true, if_true, Option.some.injEq] at found
        subst found
        have others : ∀ other ∈ rows, key other ≠ wanted := by
          intro other member same
          exact notBehind (List.mem_map.2 ⟨other, member, same.trans here.symm⟩)
        have unchanged : rows.map (fun row => if key row = wanted then change row else row) =
            rows.map id :=
          List.map_congr_left fun other member => if_neg (others other member)
        simp [here, unchanged]
      · have notHere : (key row == wanted) = false := by simpa using here
        rw [notHere, if_neg (by simp), Option.map_eq_some_iff] at found
        rcases found with ⟨behind, found, rfl⟩
        simp [here, ih distinct found]

/-! ## Blocks -/

/-- The rows that satisfy the predicate stand together: whatever is between two of
them is one of them. -/
def Contiguous (predicate : Row → Bool) (rows : List Row) : Prop :=
  ∀ first middle last, [first, middle, last].Sublist rows →
    predicate first = true → predicate last = true → predicate middle = true

theorem Contiguous.nil : Contiguous predicate [] := by
  intro first middle last inside
  cases inside

/-- Only what the predicate says of each row matters. -/
theorem Contiguous.of_map_eq {changed : List Row} (contiguous : Contiguous predicate rows)
    (same : changed.map predicate = rows.map predicate) : Contiguous predicate changed := by
  intro first middle last inside firstIn lastIn
  have mapped := inside.map predicate
  rw [same, List.sublist_map_iff] at mapped
  rcases mapped with ⟨found, foundInside, values⟩
  rcases List.map_eq_cons_iff.1 values.symm with ⟨first', found, rfl, firstSame, values⟩
  rcases List.map_eq_cons_iff.1 values with ⟨middle', found, rfl, middleSame, values⟩
  rcases List.map_eq_cons_iff.1 values with ⟨last', found, rfl, lastSame, values⟩
  rw [List.map_eq_nil_iff.1 values] at foundInside
  rw [← middleSame]
  exact contiguous first' middle' last' foundInside (firstSame.trans firstIn)
    (lastSame.trans lastIn)

theorem Contiguous.append {after : List Row} (contiguous : Contiguous predicate rows)
    (outside : ∀ row ∈ after, predicate row = false) :
    Contiguous predicate (rows ++ after) := by
  intro first middle last inside firstIn lastIn
  rcases List.sublist_append_iff.1 inside with ⟨left, right, parts, leftInside, rightInside⟩
  cases right using List.reverseRecOn with
  | nil =>
      rw [List.append_nil] at parts
      exact contiguous first middle last (parts ▸ leftInside) firstIn lastIn
  | append_singleton right end_ =>
      have ends := congrArg List.getLast? parts
      simp only [← List.append_assoc, List.getLast?_concat] at ends
      have isLast : last = end_ := by simpa using ends
      rw [isLast, outside end_ (rightInside.subset (by simp))] at lastIn
      cases lastIn

theorem Contiguous.prepend {before : List Row} (contiguous : Contiguous predicate rows)
    (outside : ∀ row ∈ before, predicate row = false) :
    Contiguous predicate (before ++ rows) := by
  intro first middle last inside firstIn lastIn
  rcases List.sublist_append_iff.1 inside with ⟨left, right, parts, leftInside, rightInside⟩
  cases left with
  | nil => exact contiguous first middle last (parts ▸ rightInside) firstIn lastIn
  | cons start left =>
      have isFirst : first = start := (List.cons.inj parts).1
      rw [isFirst, outside start (leftInside.subset (.head _))] at firstIn
      cases firstIn

theorem contiguous_of_forall (inside : ∀ row ∈ rows, predicate row = true) :
    Contiguous predicate rows :=
  fun _ middle _ three _ _ => inside middle (three.subset (by simp))

theorem Contiguous.sublist {smaller : List Row} (contiguous : Contiguous predicate rows)
    (smallerRows : smaller.Sublist rows) : Contiguous predicate smaller :=
  fun first middle last inside => contiguous first middle last (inside.trans smallerRows)

/-- A block of rows with nothing of it before or after. -/
structure Block (predicate : Row → Bool) (rows before block after : List Row) : Prop where
  split : rows = before ++ block ++ after
  outsideBefore : ∀ row ∈ before, predicate row = false
  inside : ∀ row ∈ block, predicate row = true
  outsideAfter : ∀ row ∈ after, predicate row = false

theorem Block.mem {before block after : List Row} {row : Row}
    (isBlock : Block predicate rows before block after) (member : row ∈ block) :
    row ∈ rows := by
  rw [isBlock.split]
  exact List.mem_append_left _ (List.mem_append_right _ member)

private theorem head_dropWhile_false {head : Row} {tail : List Row}
    (dropped : rows.dropWhile predicate = head :: tail) : predicate head = false := by
  have first := List.head?_dropWhile_not predicate rows
  rw [dropped] at first
  exact first

/-- Rows that stand together form one block. -/
theorem Contiguous.block (contiguous : Contiguous predicate rows) :
    ∃ before block after, Block predicate rows before block after := by
  let rest := rows.dropWhile (!predicate ·)
  refine ⟨rows.takeWhile (!predicate ·), rest.takeWhile predicate, rest.dropWhile predicate,
    ?_, ?_, ?_, ?_⟩
  · rw [List.append_assoc, List.takeWhile_append_dropWhile, List.takeWhile_append_dropWhile]
  · intro row member
    simpa using List.mem_takeWhile_imp member
  · intro row member
    exact List.mem_takeWhile_imp member
  · intro row member
    by_contra inside
    rw [Bool.not_eq_false] at inside
    -- The block is not empty, so the row would stand past a row that is not in it.
    cases remaining : rest with
    | nil => simp [remaining] at member
    | cons first tail =>
        have firstInside : predicate first = true := by
          simpa using head_dropWhile_false remaining
        cases later : rest.dropWhile predicate with
        | nil => simp [later] at member
        | cons middle behind =>
            have middleOutside := head_dropWhile_false later
            have behindMiddle : row ∈ behind := by
              rw [later] at member
              cases member with
              | head => rw [middleOutside] at inside; cases inside
              | tail _ member => exact member
            have sandwiched : [first, middle, row].Sublist rest := by
              have parts : rest = rest.takeWhile predicate ++ middle :: behind := by
                rw [← later, List.takeWhile_append_dropWhile]
              have firstTaken : [first].Sublist (rest.takeWhile predicate) := by
                rw [remaining, List.takeWhile_cons_of_pos firstInside]
                exact List.singleton_sublist.2 (.head _)
              rw [parts]
              exact firstTaken.append ((List.singleton_sublist.2 behindMiddle).cons_cons middle)
            have middleInside := contiguous first middle row
              (sandwiched.trans (List.dropWhile_sublist _)) firstInside inside
            rw [middleOutside] at middleInside
            cases middleInside

/-! ## Replacing a block -/

/-- Put fresh rows in the place of the owned ones: all owned rows go, and the fresh
ones are spliced in where the first of them stood, or at the end. -/
def replaceBlock (owned : Row → Bool) (fresh rows : List Row) : List Row :=
  let position := (rows.findIdx? owned).getD rows.length
  let others := rows.filter (!owned ·)
  others.take position ++ fresh ++ others.drop position

theorem replaceBlock_eq :
    replaceBlock owned fresh rows =
      rows.takeWhile (!owned ·) ++ fresh ++ (rows.dropWhile (!owned ·)).filter (!owned ·) := by
  induction rows with
  | nil => simp [replaceBlock]
  | cons row rows ih =>
      cases isOwned : owned row with
      | true => simp [replaceBlock, List.findIdx?_cons, isOwned]
      | false =>
          have position : ((row :: rows).findIdx? owned).getD (row :: rows).length =
              (rows.findIdx? owned).getD rows.length + 1 := by
            rw [List.findIdx?_cons, isOwned]
            cases rows.findIdx? owned <;> simp
          rw [replaceBlock, position]
          simpa [isOwned, replaceBlock] using ih

theorem mem_replaceBlock {row : Row} :
    row ∈ replaceBlock owned fresh rows ↔
      row ∈ fresh ∨ (row ∈ rows ∧ owned row = false) := by
  have others : row ∈ rows ∧ owned row = false ↔ row ∈ rows.filter (!owned ·) := by
    simp
  rw [others, ← List.take_append_drop ((rows.findIdx? owned).getD rows.length)
    (rows.filter (!owned ·))]
  simp only [replaceBlock, List.mem_append]
  tauto

section Replace

variable (freshOwned : ∀ row ∈ fresh, owned row = true)

include freshOwned

/-- Rows of other owners stay as they are and in their order. -/
theorem filter_replaceBlock_of_disjoint
    (disjoint : ∀ row, other row = true → owned row = false) :
    (replaceBlock owned fresh rows).filter other = rows.filter other := by
  have noFresh : fresh.filter other = [] := by
    rw [List.filter_eq_nil_iff]
    intro row member otherRow
    have notOwned := disjoint row otherRow
    rw [freshOwned row member] at notOwned
    cases notOwned
  have filtered : ∀ list : List Row,
      (list.filter (!owned ·)).filter other = list.filter other := by
    intro list
    rw [List.filter_filter]
    apply List.filter_congr
    intro row _
    cases otherRow : other row with
    | false => rfl
    | true => simp [disjoint row otherRow]
  rw [replaceBlock_eq, List.filter_append, List.filter_append, noFresh, filtered,
    List.append_nil, ← List.filter_append, List.takeWhile_append_dropWhile]

/-- The owned rows are the fresh ones. -/
theorem filter_replaceBlock_owned :
    (replaceBlock owned fresh rows).filter owned = fresh := by
  have before : (rows.takeWhile (!owned ·)).filter owned = [] := by
    rw [List.filter_eq_nil_iff]
    intro row member
    simpa using List.mem_takeWhile_imp member
  rw [replaceBlock_eq, List.filter_append, List.filter_append, before,
    List.filter_eq_self.2 freshOwned, List.filter_filter]
  simp

/-- The owned rows of the result stand together. -/
theorem contiguous_replaceBlock_owned :
    Contiguous owned (replaceBlock owned fresh rows) := by
  rw [replaceBlock_eq]
  apply Contiguous.append
  · apply Contiguous.prepend (contiguous_of_forall freshOwned)
    intro row member
    simpa using List.mem_takeWhile_imp member
  · intro row member
    simpa using List.of_mem_filter member

/-- Rows that stand together and have another owner still do. -/
theorem contiguous_replaceBlock_of_disjoint
    (disjoint : ∀ row, other row = true → owned row = false)
    (contiguous : Contiguous other rows) :
    Contiguous other (replaceBlock owned fresh rows) := by
  have notOther : ∀ row, owned row = true → other row = false := by
    intro row isOwned
    by_contra otherRow
    rw [Bool.not_eq_false] at otherRow
    rw [disjoint row otherRow] at isOwned
    cases isOwned
  have freshOutside : ∀ row ∈ fresh, other row = false :=
    fun row member => notOther row (freshOwned row member)
  have whole := List.takeWhile_append_dropWhile (p := (!owned ·)) (l := rows)
  rw [replaceBlock_eq]
  generalize rows.takeWhile (!owned ·) = before at *
  cases rest : rows.dropWhile (!owned ·) with
  | nil =>
      rw [rest, List.append_nil] at whole
      rw [List.filter_nil, List.append_nil]
      exact (whole ▸ contiguous).append freshOutside
  | cons first behind =>
      have firstOwned : owned first = true := by simpa using head_dropWhile_false rest
      rw [rest] at whole
      rw [List.filter_cons_of_neg (by simp [firstOwned])]
      have afterRows : (behind.filter (!owned ·)).Sublist rows := by
        rw [← whole]
        exact List.filter_sublist.trans ((List.sublist_cons_self _ _).trans
          (List.sublist_append_right _ _))
      -- The first owned row separates what is before it from what is after it, so the
      -- other owner has rows on one side only.
      by_cases left : ∃ row ∈ before, other row = true
      · rcases left with ⟨row, member, otherRow⟩
        rw [List.append_assoc]
        apply Contiguous.append
        · exact contiguous.sublist (whole ▸ List.sublist_append_left _ _)
        · intro last lastMember
          cases List.mem_append.1 lastMember with
          | inl lastFresh => exact freshOutside last lastFresh
          | inr lastBehind =>
              by_contra lastOther
              rw [Bool.not_eq_false] at lastOther
              have three : [row, first, last].Sublist rows := by
                rw [← whole]
                exact (List.singleton_sublist.2 member).append
                  ((List.singleton_sublist.2 (List.mem_of_mem_filter lastBehind)).cons_cons
                    first)
              have firstOther := contiguous row first last three otherRow lastOther
              rw [notOther first firstOwned] at firstOther
              cases firstOther
      · apply (contiguous.sublist afterRows).prepend
        intro row member
        cases List.mem_append.1 member with
        | inl rowBefore => simpa using fun otherRow => left ⟨row, rowBefore, otherRow⟩
        | inr rowFresh => exact freshOutside row rowFresh

end Replace

/-- A block that is not empty is replaced in its place. -/
theorem Block.replaceBlock {before block after : List Row}
    (isBlock : Block owned rows before block after) (nonempty : block ≠ []) :
    replaceBlock owned fresh rows = before ++ fresh ++ after := by
  have beforeKept : ∀ row ∈ before, (!owned row) = true := by
    simpa using isBlock.outsideBefore
  have blockDropped : block.filter (!owned ·) = [] := by
    simpa using isBlock.inside
  have afterKept : after.filter (!owned ·) = after := by
    simpa using isBlock.outsideAfter
  rcases List.exists_cons_of_ne_nil nonempty with ⟨first, block, rfl⟩
  have firstOwned := isBlock.inside first (.head _)
  have stops : (!owned first) = false := by simp [firstOwned]
  rw [replaceBlock_eq, isBlock.split, List.append_assoc before,
    List.takeWhile_append_of_pos beforeKept, List.dropWhile_append_of_pos beforeKept,
    List.cons_append, List.takeWhile_cons_of_neg (by simp [stops]),
    List.dropWhile_cons_of_neg (by simp [stops]), List.append_nil, ← List.cons_append,
    List.filter_append, blockDropped, afterKept, List.nil_append]

/-- Fresh rows stand where a block stood: the rows before it keep their positions, and
the rows after it move by the difference of the lengths. -/
structure InPlace (before block fresh after rows changed : List Row) : Prop where
  split : rows = before ++ block ++ after
  splitChanged : changed = before ++ fresh ++ after
  keepsPosition : ∀ index < before.length, changed[index]? = rows[index]?
  shifts : ∀ index, before.length + block.length ≤ index →
    changed[index - block.length + fresh.length]? = rows[index]?

theorem Block.inPlace {before block after : List Row}
    (isBlock : Block owned rows before block after) (nonempty : block ≠ []) :
    InPlace before block fresh after rows (Rows.replaceBlock owned fresh rows) := by
  have splitChanged : Rows.replaceBlock owned fresh rows = before ++ fresh ++ after :=
    isBlock.replaceBlock nonempty
  refine ⟨isBlock.split, splitChanged, ?_, ?_⟩
  · intro index inBefore
    rw [splitChanged, isBlock.split, List.append_assoc, List.append_assoc,
      List.getElem?_append_left inBefore, List.getElem?_append_left inBefore]
  · intro index behind
    have oldBehind : (before ++ block).length ≤ index := by simpa using behind
    have newBehind : (before ++ fresh).length ≤ index - block.length + fresh.length := by
      rw [List.length_append]
      omega
    rw [splitChanged, isBlock.split, List.getElem?_append_right oldBehind,
      List.getElem?_append_right newBehind, List.length_append, List.length_append]
    congr 1
    omega

end Foundation.Rows
