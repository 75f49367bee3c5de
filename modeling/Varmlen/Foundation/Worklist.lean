import Mathlib.Data.List.Nodup
import Mathlib.Logic.Relation

/-!
# Everything below a node

A worklist that collects what can be reached from a node over the children that a function
lists.  Nodes that were found are not queued again, so the collection ends however the
nodes refer to one another.
-/

namespace Foundation.Worklist

variable {Node : Type} [DecidableEq Node]

/-- What was found, and what of it still waits; the last one waits the shortest. -/
structure Search (Node : Type) where
  found : List Node
  waiting : List Node

/-- Note a child, unless it is known. -/
def Search.note (search : Search Node) (child : Node) : Search Node :=
  if child ∈ search.found then search
  else ⟨search.found ++ [child], search.waiting ++ [child]⟩

/-- Note the children of the node that has waited the shortest. -/
def Search.step (children : Node → List Node) (search : Search Node) : Search Node :=
  match search.waiting.getLast? with
  | none => search
  | some node =>
      (children node).foldl Search.note ⟨search.found, search.waiting.dropLast⟩

/-- So many steps. -/
def Search.run (children : Node → List Node) : Nat → Search Node → Search Node
  | 0, search => search
  | fuel + 1, search => run children fuel (search.step children)

/-- The nodes that the worklist collects in so many steps. -/
def collect (children : Node → List Node) (fuel : Nat) (root : Node) : List Node :=
  (Search.run children fuel ⟨[root], [root]⟩).found

/-- What was found when nothing waits any more; `none` if the steps run out before. -/
def collected (children : Node → List Node) (fuel : Nat) (root : Node) : Option (List Node) :=
  let search := Search.run children fuel ⟨[root], [root]⟩
  if search.waiting = [] then some search.found else none

section Notes

variable {search : Search Node} {node : Node}

theorem mem_found_foldl (kids : List Node) (search : Search Node) :
    node ∈ (kids.foldl Search.note search).found ↔ node ∈ search.found ∨ node ∈ kids := by
  induction kids generalizing search with
  | nil => simp
  | cons first rest ih =>
      rw [List.foldl_cons, ih, Search.note]
      split
      next known =>
        rw [List.mem_cons]
        constructor
        · rintro (found | later)
          · exact .inl found
          · exact .inr (.inr later)
        · rintro (found | rfl | later)
          · exact .inl found
          · exact .inl known
          · exact .inr later
      next =>
        rw [List.mem_append, List.mem_singleton, List.mem_cons, or_assoc]

/-- What waits is what waited and what is new. -/
theorem mem_waiting_foldl (kids : List Node) (search : Search Node) :
    node ∈ (kids.foldl Search.note search).waiting ↔
      node ∈ search.waiting ∨ node ∈ kids ∧ node ∉ search.found := by
  induction kids generalizing search with
  | nil => simp
  | cons first rest ih =>
      rw [List.foldl_cons, ih, Search.note]
      split
      next known =>
        by_cases same : node = first
        · subst same
          simp [known]
        · simp [same]
      next unknown =>
        by_cases same : node = first
        · subst same
          simp [unknown]
        · simp [same]

theorem nodup_note (unique : search.found.Nodup) : (search.note node).found.Nodup := by
  rw [Search.note]
  split
  next => exact unique
  next unknown =>
    rw [← List.concat_eq_append]
    exact unique.concat unknown

theorem nodup_foldl (kids : List Node) (unique : search.found.Nodup) :
    (kids.foldl Search.note search).found.Nodup := by
  induction kids generalizing search with
  | nil => exact unique
  | cons first rest ih =>
      rw [List.foldl_cons]
      exact ih (nodup_note unique)

end Notes

section Runs

variable {children : Node → List Node} {search : Search Node} {root node : Node}

/-- One node is a child of another. -/
def Child (children : Node → List Node) (parent child : Node) : Prop := child ∈ children parent

/-- A search stays below its root, and only waiting nodes may have unknown children. -/
structure Searches (children : Node → List Node) (root : Node) (search : Search Node) :
    Prop where
  rooted : root ∈ search.found
  below : ∀ node ∈ search.found, Relation.ReflTransGen (Child children) root node
  known : ∀ node ∈ search.waiting, node ∈ search.found
  closed : ∀ node ∈ search.found, node ∉ search.waiting →
    ∀ child ∈ children node, child ∈ search.found

omit [DecidableEq Node] in
theorem searches_initial : Searches children root ⟨[root], [root]⟩ where
  rooted := .head _
  below node member := by
    rw [List.mem_singleton.1 member]
  known _ waits := waits
  closed node found quiet := absurd found quiet

theorem Searches.step (searches : Searches children root search) :
    Searches children root (search.step children) := by
  rw [Search.step]
  split
  next => exact searches
  next node last =>
    have waits : node ∈ search.waiting := List.mem_of_getLast? last
    constructor
    · exact (mem_found_foldl _ _).2 (.inl searches.rooted)
    · intro other member
      rcases (mem_found_foldl _ _).1 member with found | isChild
      · exact searches.below other found
      · exact (searches.below node (searches.known node waits)).tail isChild
    · intro other member
      rw [mem_found_foldl]
      rcases (mem_waiting_foldl _ _).1 member with early | ⟨isChild, _⟩
      · exact .inl (searches.known other (List.dropLast_subset _ early))
      · exact .inr isChild
    · intro other found quiet child isChild
      rw [mem_waiting_foldl, not_or, not_and, Decidable.not_not] at quiet
      rw [mem_found_foldl] at found ⊢
      have wasFound : other ∈ search.found := found.elim id quiet.2
      by_cases same : other = node
      · exact .inr (same ▸ isChild)
      · left
        refine searches.closed other wasFound ?_ child isChild
        intro waited
        rw [← List.dropLast_append_getLast? node last] at waited
        rcases List.mem_append.1 waited with early | isLast
        · exact quiet.1 early
        · exact same (List.mem_singleton.1 isLast)

theorem Searches.run (searches : Searches children root search) (fuel : Nat) :
    Searches children root (search.run children fuel) := by
  induction fuel generalizing search with
  | zero => exact searches
  | succ fuel ih => exact ih searches.step

theorem nodup_step (unique : search.found.Nodup) : (search.step children).found.Nodup := by
  rw [Search.step]
  split
  next => exact unique
  next => exact nodup_foldl _ unique

/-- No node is found twice. -/
theorem nodup_run (fuel : Nat) (unique : search.found.Nodup) :
    (search.run children fuel).found.Nodup := by
  induction fuel generalizing search with
  | zero => exact unique
  | succ fuel ih => exact ih (nodup_step unique)

theorem nodup_collect (fuel : Nat) : (collect children fuel root).Nodup :=
  nodup_run fuel (List.nodup_singleton root)

omit [DecidableEq Node] in
/-- When nothing waits, everything below the root was found. -/
theorem Searches.complete (searches : Searches children root search)
    (done : search.waiting = []) (below : Relation.ReflTransGen (Child children) root node) :
    node ∈ search.found := by
  induction below with
  | refl => exact searches.rooted
  | tail _ isChild ih =>
      exact searches.closed _ ih (by rw [done]; exact List.not_mem_nil) _ isChild

/-! ### Its end -/

/-- The steps that a search may still take. -/
def remaining (domain : List Node) (search : Search Node) : Nat :=
  search.waiting.length + (domain.filter (· ∉ search.found)).length

theorem remaining_note {domain : List Node} (inside : node ∈ domain) :
    remaining domain (search.note node) ≤ remaining domain search := by
  rw [Search.note]
  split
  next => exact Nat.le_refl _
  next unknown =>
    have fewer : (domain.filter (· ∉ search.found ++ [node])).length <
        (domain.filter (· ∉ search.found)).length := by
      have isFilter : domain.filter (· ∉ search.found ++ [node]) =
          (domain.filter (· ∉ search.found)).filter (· ≠ node) := by
        rw [List.filter_filter]
        congr 1
        funext other
        simp [and_comm]
      rw [isFilter, List.length_filter_lt_length_iff_exists]
      exact ⟨node, List.mem_filter.2 ⟨inside, by simpa using unknown⟩, by simp⟩
    rw [remaining, remaining, List.length_append, List.length_singleton]
    dsimp only
    omega

theorem remaining_foldl {domain : List Node} (kids : List Node) (search : Search Node)
    (inside : ∀ node ∈ kids, node ∈ domain) :
    remaining domain (kids.foldl Search.note search) ≤ remaining domain search := by
  induction kids generalizing search with
  | nil => exact Nat.le_refl _
  | cons first rest ih =>
      rw [List.forall_mem_cons] at inside
      exact Nat.le_trans (ih _ inside.2) (remaining_note inside.1)

theorem remaining_step {domain : List Node}
    (inside : ∀ parent, ∀ child ∈ children parent, child ∈ domain)
    (waits : search.waiting ≠ []) :
    remaining domain (search.step children) < remaining domain search := by
  rw [Search.step]
  split
  next none => exact absurd (List.getLast?_eq_none_iff.1 none) waits
  next node last =>
    have shorter : search.waiting.dropLast.length < search.waiting.length := by
      rw [List.length_dropLast]
      exact Nat.sub_lt (List.length_pos_iff.2 waits) Nat.one_pos
    calc remaining domain ((children node).foldl Search.note
            ⟨search.found, search.waiting.dropLast⟩)
        ≤ remaining domain ⟨search.found, search.waiting.dropLast⟩ :=
          remaining_foldl _ _ (inside node)
      _ < remaining domain search := Nat.add_lt_add_right shorter _

theorem run_of_quiet (quiet : search.waiting = []) (fuel : Nat) :
    search.run children fuel = search := by
  induction fuel with
  | zero => rfl
  | succ fuel ih =>
      have still : search.step children = search := by
        rw [Search.step, quiet]
        rfl
      rw [Search.run, still, ih]

theorem waiting_run {domain : List Node} {fuel : Nat}
    (inside : ∀ parent, ∀ child ∈ children parent, child ∈ domain)
    (enough : remaining domain search ≤ fuel) : (search.run children fuel).waiting = [] := by
  induction fuel generalizing search with
  | zero =>
      rw [remaining] at enough
      have none : search.waiting.length = 0 := by omega
      exact List.length_eq_zero_iff.1 none
  | succ fuel ih =>
      by_cases quiet : search.waiting = []
      · rw [run_of_quiet quiet, quiet]
      · have fewer := remaining_step inside quiet
        exact ih (by omega)

theorem run_add (first more : Nat) (search : Search Node) :
    search.run children (first + more) = (search.run children first).run children more := by
  induction first generalizing search with
  | zero => rw [Nat.zero_add, Search.run]
  | succ first ih => rw [Nat.succ_add, Search.run, ih, Search.run]

/-- A step for each node that anything refers to, and one for the root, are enough. -/
theorem waiting_initial {domain : List Node}
    (inside : ∀ parent, ∀ child ∈ children parent, child ∈ domain) (root : Node) :
    (Search.run children (domain.length + 1) ⟨[root], [root]⟩).waiting = [] := by
  apply waiting_run inside
  have bounded := List.length_filter_le (· ∉ [root]) domain
  rw [remaining, List.length_singleton]
  dsimp only
  omega

/-- Once the steps are enough, more of them find nothing else. -/
theorem collected_eq {domain : List Node} {fuel : Nat}
    (inside : ∀ parent, ∀ child ∈ children parent, child ∈ domain)
    (enough : domain.length + 1 ≤ fuel) :
    collected children fuel root = some (collect children (domain.length + 1) root) := by
  have quiet := waiting_initial inside root
  have still : Search.run children fuel ⟨[root], [root]⟩ =
      Search.run children (domain.length + 1) ⟨[root], [root]⟩ := by
    rw [← Nat.add_sub_of_le enough, run_add, run_of_quiet quiet]
  rw [collected, still, collect]
  exact if_pos quiet

/-- With a step for each node that anything refers to, everything below the root is
collected, and nothing else. -/
theorem mem_collect {domain : List Node}
    (inside : ∀ parent, ∀ child ∈ children parent, child ∈ domain) :
    node ∈ collect children (domain.length + 1) root ↔
      Relation.ReflTransGen (Child children) root node := by
  have searches : Searches children root _ := searches_initial.run (domain.length + 1)
  constructor
  · exact searches.below node
  · exact searches.complete (waiting_initial inside root)

end Runs

end Foundation.Worklist
