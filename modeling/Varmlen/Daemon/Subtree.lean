import Varmlen.Daemon.Evictions

/-!
# The processes below a process

The map from processes to their children and the loop that collects a process with
everything below it (`process_tree` and `subtree` in `daemon/src/split/system.rs`).  The
entries of `/proc` are read one after another while processes come and go, so the map need
not be a tree; the loop ends on every map.
-/

namespace Varmlen.Daemon

open Foundation

/-- Processes with the children that were seen of them. -/
abbrev ChildMap := AList fun _ : Nat => List Nat

namespace ChildMap

/-- The children of a process; one that is not in the map has none. -/
def children (tree : ChildMap) (pid : Nat) : List Nat := (tree.lookup pid).getD []

/-- `tree.entry(ppid).or_default().push(pid)`. -/
def push (tree : ChildMap) (ppid pid : Nat) : ChildMap :=
  tree.insert ppid (tree.children ppid ++ [pid])

/-- Add one entry of `/proc`. -/
def addProcess (ownerUid : Nat) (tree : ChildMap) (process : Process) : ChildMap :=
  if process.uid = some ownerUid then
    match process.ppid with
    | some ppid => tree.push ppid process.pid
    | none => tree
  else tree

/-- Every process of the user, mapped to its children. -/
def processTree (ownerUid : Nat) (processes : List Process) : ChildMap :=
  processes.foldl (addProcess ownerUid) ∅

/-- A process and everything below it; `none` if the loop takes more steps. -/
def subtree (tree : ChildMap) (steps root : Nat) : Option (List Nat) :=
  Worklist.collected tree.children steps root

/-- The map lists one process among the children of another. -/
def Lists (tree : ChildMap) (parent child : Nat) : Prop :=
  ∃ kids, tree.lookup parent = some kids ∧ child ∈ kids

/-- All children in the map. -/
def listed (tree : ChildMap) : List Nat := tree.entries.flatMap Sigma.snd

section Search

variable {tree : ChildMap} {parent child : Nat}

theorem mem_children : child ∈ tree.children parent ↔ tree.Lists parent child := by
  rw [children, Lists]
  cases tree.lookup parent with
  | none => simp
  | some kids => simp

theorem Lists.mem_listed (lists : tree.Lists parent child) : child ∈ tree.listed := by
  rcases lists with ⟨kids, entry, member⟩
  exact List.mem_flatMap.2 ⟨⟨parent, kids⟩, AList.mem_lookup_iff.1 entry, member⟩

/-- On every map the loop ends, after a step for the root and at most one for each listed
child, and has collected once each what can be reached from the root. -/
theorem subtree_complete (tree : ChildMap) (root : Nat) :
    ∃ found, (∀ steps, tree.listed.length + 1 ≤ steps → tree.subtree steps root = some found) ∧
      found.Nodup ∧ ∀ pid, pid ∈ found ↔ Relation.ReflTransGen tree.Lists root pid := by
  have inside : ∀ parent, ∀ child ∈ tree.children parent, child ∈ tree.listed :=
    fun _ _ member => (mem_children.1 member).mem_listed
  have same : Worklist.Child tree.children = tree.Lists := by
    funext parent child
    exact propext mem_children
  refine ⟨Worklist.collect tree.children (tree.listed.length + 1) root, ?_, ?_, ?_⟩
  · intro steps enough
    exact Worklist.collected_eq inside enough
  · exact Worklist.nodup_collect _
  · intro pid
    rw [← same]
    exact Worklist.mem_collect inside

end Search

/-! ## The map that is read -/

section Reading

variable {ownerUid : Nat} {processes : List Process}

theorem children_push (tree : ChildMap) (ppid pid parent : Nat) :
    (tree.push ppid pid).children parent =
      tree.children parent ++ (if parent = ppid then [pid] else []) := by
  by_cases same : parent = ppid
  · rw [if_pos same, same, children, push, AList.lookup_insert, Option.getD_some]
  · rw [if_neg same, List.append_nil, children, push, AList.lookup_insert_ne same, children]

theorem children_addProcess (tree : ChildMap) (process : Process) (parent : Nat) :
    (addProcess ownerUid tree process).children parent =
      tree.children parent ++ Daemon.processTree ownerUid [process] parent := by
  rw [addProcess, Daemon.processTree]
  split
  next owned =>
    split
    next ppid read =>
      rw [children_push, List.filter_singleton, owned, read]
      split
      next same => simp [same]
      next different => simp [Ne.symm different]
    next unread => simp [unread]
  next other => simp [other]

/-- The map holds for each process what a search of the whole table finds for it. -/
theorem children_processTree (parent : Nat) :
    (processTree ownerUid processes).children parent =
      Daemon.processTree ownerUid processes parent := by
  have loop (tree : ChildMap) : (processes.foldl (addProcess ownerUid) tree).children parent =
      tree.children parent ++ Daemon.processTree ownerUid processes parent := by
    induction processes generalizing tree with
    | nil => exact (List.append_nil _).symm
    | cons process rest ih =>
        rw [List.foldl_cons, ih, children_addProcess, List.append_assoc]
        congr 1
        rw [Daemon.processTree, Daemon.processTree, ← List.map_append, ← List.filter_append]
        rfl
  exact loop ∅

/-- A pass takes back what the loop collects on the map that was read. -/
theorem subtree_processTree {steps root : Nat} (enough : processes.length + 1 ≤ steps) :
    (processTree ownerUid processes).subtree steps root =
      some (Daemon.subtree ownerUid processes root) := by
  have same : (processTree ownerUid processes).children =
      Daemon.processTree ownerUid processes := by
    funext parent
    exact children_processTree parent
  have bound : (processes.map Process.pid).length + 1 ≤ steps := by rwa [List.length_map]
  rw [subtree, same, Worklist.collected_eq mem_processTree bound, List.length_map]
  rfl

end Reading

end ChildMap

end Varmlen.Daemon
