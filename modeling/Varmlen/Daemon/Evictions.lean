import Varmlen.Daemon.Reconcile
import Varmlen.Foundation.TextParts

/-!
# Who is left in the bypass group

Which of the processes that the rules name are members after a pass.  One that descends
from a process whose own rule is gone is taken back with it, whether a rule names it or
not.
-/

namespace Varmlen.Daemon

open Foundation Foundation.Effect Foundation.Text

section Pass

variable (ownerUid : Nat) (selectors : List AppSelector) (before : Membership)

/-- A rule names the process. -/
def listed (process : Process) : Bool :=
  process.uid == some ownerUid &&
    (namingSelector selectors (process.snapshot (before.cgroups process.pid))).isSome

/-- The process is moved in. -/
def admitted (process : Process) : Bool :=
  listed ownerUid selectors before process &&
    !isBypass ownerUid (before.cgroups process.pid)

/-- The processes that take room in the record. -/
def newcomers (processes : List Process) : List Process :=
  processes.filter fun process =>
    admitted ownerUid selectors before process && decide (process.pid ∉ before.owned.keys)

/-- There is room in the record when these processes have had their turn. -/
def roomAfter (processes : List Process) : Bool :=
  before.owned.entries.length + (newcomers ownerUid selectors before processes).length <
    maxOwnedPids

/-- The processes whose turn comes before one's own. -/
def earlier (processes : List Process) (pid : Nat) : List Process :=
  processes.takeWhile fun process => process.pid != pid

/-- A process gets a new rule in the record. -/
def Renewed (processes : List Process) (pid : Nat) : Prop :=
  (∃ process ∈ processes, process.pid = pid ∧
      admitted ownerUid selectors before process = true) ∧
    roomAfter ownerUid selectors before (earlier processes pid) = true

/-- A member, or one that becomes one, whose rule in the record is gone from the plan and
is not replaced there. -/
def StaleRoot (processes : List Process) (root : Nat) : Prop :=
  (∃ rule, before.owned.lookup root = some rule ∧ rule ∉ selectors) ∧
    (∃ process ∈ processes, process.pid = root ∧
      (isBypass ownerUid (before.cgroups root) = true ∨
        admitted ownerUid selectors before process = true)) ∧
    ¬Renewed ownerUid selectors before processes root

/-- One process has started another, perhaps through others of the owner's. -/
def Below (processes : List Process) : Nat → Nat → Prop :=
  Relation.ReflTransGen (Worklist.Child (processTree ownerUid processes))

end Pass

/-! ## Texts -/

theorem isBypass_relativePath (ownerUid : Nat) :
    isBypass ownerUid ("/" ++ relativePath ownerUid) = true := by
  rw [isBypass, beq_iff_eq, trimStartMatches, ← String.toList_inj]
  simp [relativePath]

theorem isBypass_tunneledPath (ownerUid : Nat) :
    isBypass ownerUid ("/" ++ tunneledPath ownerUid) = false := by
  rw [isBypass, beq_eq_false_iff_ne]
  intro same
  have chars := congrArg String.toList same
  simp [trimStartMatches, tunneledPath, relativePath] at chars

/-! ## The processes that are moved in -/

section Admitting

variable {ownerUid : Nat} {selectors : List AppSelector} {before after : Membership}
variable {moves : Nat → Bool} {first : List Process} {process : Process}

/-- What the first turns of a pass have done. -/
structure Admits (ownerUid : Nat) (selectors : List AppSelector) (before : Membership)
    (first : List Process) (after : Membership) : Prop where
  cgroups : ∀ pid, after.cgroups pid =
    if ∃ process ∈ first, process.pid = pid ∧
        admitted ownerUid selectors before process = true then
      "/" ++ relativePath ownerUid
    else before.cgroups pid
  room : after.owned.entries.length < maxOwnedPids ↔
    roomAfter ownerUid selectors before first = true
  length : after.owned.entries.length < maxOwnedPids → after.owned.entries.length =
    before.owned.entries.length + (newcomers ownerUid selectors before first).length
  keys : ∀ pid, (∀ process ∈ first, process.pid ≠ pid) →
    (pid ∈ after.owned ↔ pid ∈ before.owned)
  stale : ∀ pid rule, rule ∉ selectors →
    (after.owned.lookup pid = some rule ↔
      before.owned.lookup pid = some rule ∧ ¬Renewed ownerUid selectors before first pid)

theorem admits_nil : Admits ownerUid selectors before [] before where
  cgroups pid := by simp
  room := by simp [roomAfter, newcomers]
  length _ := rfl
  keys _ _ := Iff.rfl
  stale pid rule gone := by simp [Renewed]

theorem newcomers_append (first second : List Process) :
    newcomers ownerUid selectors before (first ++ second) =
      newcomers ownerUid selectors before first ++
        newcomers ownerUid selectors before second :=
  List.filter_append ..

theorem earlier_append_of_mem {pid : Nat} (member : ∃ process ∈ first, process.pid = pid)
    (second : List Process) : earlier (first ++ second) pid = earlier first pid := by
  induction first with
  | nil =>
      rcases member with ⟨_, none, _⟩
      cases none
  | cons head rest ih =>
      by_cases here : head.pid = pid
      · simp [earlier, here]
      · have later : ∃ process ∈ rest, process.pid = pid := by
          rcases member with ⟨process, within, same⟩
          rcases List.mem_cons.1 within with rfl | within
          · exact absurd same here
          · exact ⟨process, within, same⟩
        have tails := ih later
        simp only [earlier] at tails
        simp [earlier, here, tails]

theorem earlier_append_of_notMem {pid : Nat} (absent : ∀ process ∈ first, process.pid ≠ pid)
    (rest : List Process) (here : process.pid = pid) :
    earlier (first ++ process :: rest) pid = first := by
  rw [earlier, List.takeWhile_append_of_pos (by simpa using absent)]
  simp [here]

/-- One more turn renews the rule of the process whose turn it is, if there is room. -/
theorem renewed_append (new : ∀ other ∈ first, other.pid ≠ process.pid) (pid : Nat) :
    Renewed ownerUid selectors before (first ++ [process]) pid ↔
      Renewed ownerUid selectors before first pid ∨
        process.pid = pid ∧ admitted ownerUid selectors before process = true ∧
          roomAfter ownerUid selectors before first = true := by
  by_cases here : process.pid = pid
  · subst here
    have absent : ¬Renewed ownerUid selectors before first process.pid := by
      rintro ⟨⟨other, member, same, _⟩, _⟩
      exact new other member same
    rw [Renewed, earlier_append_of_notMem new [] rfl]
    constructor
    · rintro ⟨⟨other, member, same, isAdmitted⟩, room⟩
      rcases List.mem_append.1 member with early | last
      · exact absurd same (new other early)
      · rw [List.mem_singleton.1 last] at isAdmitted
        exact .inr ⟨rfl, isAdmitted, room⟩
    · rintro (renewed | ⟨_, isAdmitted, room⟩)
      · exact absurd renewed absent
      · exact ⟨⟨process, List.mem_append_right _ (.head _), rfl, isAdmitted⟩, room⟩
  · have same : (∃ other ∈ first ++ [process], other.pid = pid ∧
        admitted ownerUid selectors before other = true) ↔
      ∃ other ∈ first, other.pid = pid ∧
        admitted ownerUid selectors before other = true := by
      simp [or_and_right, exists_or, here]
    rw [Renewed, Renewed, same]
    constructor
    · rintro ⟨⟨other, member, isPid, isAdmitted⟩, room⟩
      rw [earlier_append_of_mem ⟨other, member, isPid⟩] at room
      exact .inl ⟨⟨other, member, isPid, isAdmitted⟩, room⟩
    · rintro (⟨⟨other, member, isPid, isAdmitted⟩, room⟩ | ⟨isProcess, _⟩)
      · rw [← earlier_append_of_mem ⟨other, member, isPid⟩ [process]] at room
        exact ⟨⟨other, member, isPid, isAdmitted⟩, room⟩
      · exact absurd isProcess here

theorem Admits.cgroup (admits : Admits ownerUid selectors before first after)
    (new : ∀ other ∈ first, other.pid ≠ process.pid) :
    after.cgroups process.pid = before.cgroups process.pid := by
  rw [admits.cgroups, if_neg]
  rintro ⟨other, member, same, _⟩
  exact new other member same

/-- A turn that moves nothing changes nothing. -/
theorem Admits.pass (admits : Admits ownerUid selectors before first after)
    (new : ∀ other ∈ first, other.pid ≠ process.pid)
    (stays : admitted ownerUid selectors before process = false) :
    moveIn moves ownerUid selectors process after = (.ok (), after) ∧
      Admits ownerUid selectors before (first ++ [process]) after := by
  have unnamed : newcomers ownerUid selectors before (first ++ [process]) =
      newcomers ownerUid selectors before first := by
    simp [newcomers, stays]
  constructor
  · rw [moveIn, admits.cgroup new]
    simp only [admitted, listed, Bool.and_eq_false_iff, beq_eq_false_iff_ne,
      Bool.not_eq_false', Option.isSome_eq_false_iff, Option.isNone_iff_eq_none] at stays
    rcases stays with (other | none) | inside
    · rw [if_pos (.inl other)]
    · split
      next => rfl
      next =>
        rw [none]
    · rw [if_pos (.inr inside)]
  · constructor
    · intro pid
      rw [admits.cgroups]
      congr 1
      simp only [List.mem_append, List.mem_singleton, or_and_right, exists_or, exists_eq_left,
        stays, Bool.false_eq_true, and_false, or_false]
    · rw [roomAfter, unnamed]
      exact admits.room
    · rw [unnamed]
      exact admits.length
    · intro pid absent
      exact admits.keys pid fun other member => absent other (List.mem_append_left _ member)
    · intro pid rule gone
      rw [admits.stale pid rule gone, renewed_append new]
      simp [stays]

theorem moved_cgroups (admits : Admits ownerUid selectors before first after)
    (moved : admitted ownerUid selectors before process = true) (pid : Nat) :
    (after.moveTo (relativePath ownerUid) process.pid).cgroups pid =
      if ∃ other ∈ first ++ [process], other.pid = pid ∧
          admitted ownerUid selectors before other = true then
        "/" ++ relativePath ownerUid
      else before.cgroups pid := by
  rw [Membership.moveTo]
  dsimp only
  by_cases here : pid = process.pid
  · rw [if_pos here, if_pos ⟨process, List.mem_append_right _ (.head _), here.symm, moved⟩]
  · rw [if_neg here, admits.cgroups]
    congr 1
    simp [or_and_right, exists_or, Ne.symm here]

theorem length_insert (owned : OwnedPids) (pid : Nat) (selector : AppSelector) :
    (owned.insert pid selector).entries.length =
      if pid ∈ owned then owned.entries.length else owned.entries.length + 1 := by
  have keys := congrArg List.length (AList.keys_insert (a := pid) (b := selector) owned)
  have entries (owned : OwnedPids) : owned.keys.length = owned.entries.length :=
    List.length_map _
  rw [List.length_cons, entries] at keys
  by_cases member : pid ∈ owned
  · have positive : 0 < owned.keys.length := List.length_pos_of_mem (AList.mem_keys.1 member)
    rw [if_pos member, keys, List.length_erase_of_mem (AList.mem_keys.1 member), entries]
    rw [entries] at positive
    omega
  · rw [if_neg member, keys, List.erase_of_not_mem (mt AList.mem_keys.2 member), entries]

/-- A rule of the plan is recorded while there is room. -/
theorem Admits.insert {selector : AppSelector}
    (admits : Admits ownerUid selectors before first after)
    (new : ∀ other ∈ first, other.pid ≠ process.pid)
    (moved : admitted ownerUid selectors before process = true) (inPlan : selector ∈ selectors)
    (room : after.owned.entries.length < maxOwnedPids) :
    Admits ownerUid selectors before (first ++ [process])
      { after.moveTo (relativePath ownerUid) process.pid with
        owned := after.owned.insert process.pid selector } := by
  have roomBefore := admits.room.1 room
  have length := admits.length room
  have known : process.pid ∈ after.owned ↔ process.pid ∈ before.owned :=
    admits.keys process.pid new
  have size : (after.owned.insert process.pid selector).entries.length =
      before.owned.entries.length +
        (newcomers ownerUid selectors before (first ++ [process])).length := by
    rw [length_insert, newcomers_append, List.length_append, length]
    by_cases member : process.pid ∈ before.owned
    · simp [newcomers, moved, known.2 member, AList.mem_keys.1 member]
    · simp [newcomers, moved, mt known.1 member, mt AList.mem_keys.2 member, Nat.add_assoc]
  constructor
  · exact moved_cgroups admits moved
  · rw [roomAfter, decide_eq_true_iff]
    exact iff_of_eq (congrArg (· < maxOwnedPids) size)
  · exact fun _ => size
  · intro pid absent
    have different : pid ≠ process.pid :=
      fun same => absent process (List.mem_append_right _ (.head _)) same.symm
    rw [AList.mem_insert, or_iff_right different]
    exact admits.keys pid fun other member => absent other (List.mem_append_left _ member)
  · intro pid rule gone
    rw [renewed_append new]
    by_cases same : pid = process.pid
    · subst same
      refine iff_of_false ?_ fun holds => holds.2 (.inr ⟨rfl, moved, roomBefore⟩)
      intro isRule
      have inserted := AList.lookup_insert (a := process.pid) (b := selector) after.owned
      exact gone (Option.some.inj (inserted.symm.trans isRule) ▸ inPlan)
    · have unchanged : (after.owned.insert process.pid selector).lookup pid =
          after.owned.lookup pid := AList.lookup_insert_ne same
      rw [or_iff_left fun here => same here.1.symm, ← admits.stale pid rule gone]
      exact iff_of_eq (congrArg (· = some rule) unchanged)

/-- A full record stays as it is. -/
theorem Admits.full (admits : Admits ownerUid selectors before first after)
    (new : ∀ other ∈ first, other.pid ≠ process.pid)
    (moved : admitted ownerUid selectors before process = true)
    (full : ¬after.owned.entries.length < maxOwnedPids) :
    Admits ownerUid selectors before (first ++ [process])
      (after.moveTo (relativePath ownerUid) process.pid) := by
  have fullBefore : ¬roomAfter ownerUid selectors before first = true := mt admits.room.2 full
  constructor
  · exact moved_cgroups admits moved
  · refine iff_of_false full ?_
    rw [roomAfter, decide_eq_true_iff] at fullBefore ⊢
    rw [newcomers_append, List.length_append]
    omega
  · exact fun room => absurd room full
  · intro pid absent
    exact admits.keys pid fun other member => absent other (List.mem_append_left _ member)
  · intro pid rule gone
    rw [renewed_append new, or_iff_left fun here => fullBefore here.2.2]
    exact admits.stale pid rule gone

/-- A process that a rule names is moved in, and its rule is recorded if there is room. -/
theorem Admits.moveIn (admits : Admits ownerUid selectors before first after)
    (new : ∀ other ∈ first, other.pid ≠ process.pid) (accepts : moves process.pid = true)
    (moved : admitted ownerUid selectors before process = true) :
    ∃ left, Varmlen.Daemon.moveIn moves ownerUid selectors process after = (.ok (), left) ∧
      Admits ownerUid selectors before (first ++ [process]) left := by
  have parts := moved
  simp only [admitted, listed, Bool.and_eq_true, beq_iff_eq, Bool.not_eq_true',
    Option.isSome_iff_exists] at parts
  rcases parts with ⟨⟨isOwners, selector, names⟩, outside⟩
  refine ⟨(after.moveTo (relativePath ownerUid) process.pid).remember process.pid selector,
    ?_, ?_⟩
  · rw [Varmlen.Daemon.moveIn, admits.cgroup new]
    simp [isOwners, outside, names, accepts]
  · by_cases room : after.owned.entries.length < maxOwnedPids
    · have remembers : (after.moveTo (relativePath ownerUid) process.pid).remember process.pid
          selector = { after.moveTo (relativePath ownerUid) process.pid with
            owned := after.owned.insert process.pid selector } := if_pos room
      rw [remembers]
      exact admits.insert new moved (List.mem_of_find?_eq_some names) room
    · have remembers : (after.moveTo (relativePath ownerUid) process.pid).remember process.pid
          selector = after.moveTo (relativePath ownerUid) process.pid := if_neg room
      rw [remembers]
      exact admits.full new moved room

/-- The first part of a pass moves in what the rules name. -/
theorem run_moveIn (accepts : ∀ pid, moves pid = true) (processes : List Process)
    (distinct : (processes.map Process.pid).Nodup) :
    ∃ after, Script.run (Varmlen.Daemon.moveIn moves ownerUid selectors) processes before =
        (.ok (), after) ∧ Admits ownerUid selectors before processes after := by
  induction processes using List.reverseRecOn with
  | nil => exact ⟨before, rfl, admits_nil⟩
  | append_singleton first process ih =>
      rw [List.map_append, List.nodup_append] at distinct
      rcases distinct with ⟨distinct, _, apart⟩
      rcases ih distinct with ⟨reached, ran, admits⟩
      have new : ∀ other ∈ first, other.pid ≠ process.pid := by
        intro other member
        exact apart other.pid (List.mem_map_of_mem member) process.pid (.head _)
      have turn : ∃ left, Varmlen.Daemon.moveIn moves ownerUid selectors process reached =
          (.ok (), left) ∧ Admits ownerUid selectors before (first ++ [process]) left := by
        cases moved : admitted ownerUid selectors before process with
        | false => exact ⟨reached, admits.pass new moved⟩
        | true => exact admits.moveIn new (accepts process.pid) moved
      rcases turn with ⟨left, turned, admits⟩
      refine ⟨left, ?_, admits⟩
      rw [Script.run_append_eq_ok]
      exact ⟨reached, ran, by rw [Script.run, turned]; rfl⟩

end Admitting

/-! ## The record -/

section Record

variable {ownerUid : Nat} {selectors : List AppSelector} {membership : Membership}
variable {members : List Nat} {processes : List Process} {rule : AppSelector} {pid : Nat}

theorem retain_foldl (pids : List Nat) (membership : Membership) (pid : Nat) :
    (pids.foldl (fun membership pid =>
        if pid ∈ members then membership else membership.forget pid) membership).owned.lookup
          pid =
      if pid ∈ pids ∧ pid ∉ members then none else membership.owned.lookup pid := by
  induction pids generalizing membership with
  | nil => simp
  | cons first rest ih =>
      rw [List.foldl_cons, ih]
      by_cases kept : first ∈ members
      · by_cases same : pid = first
        · subst same
          simp [kept]
        · simp [kept, same]
      · by_cases same : pid = first
        · subst same
          simp [kept, Membership.forget]
        · simp [kept, same, Membership.forget, AList.lookup_erase_ne same]

theorem retain_cgroups (pids : List Nat) (membership : Membership) :
    (pids.foldl (fun membership pid =>
        if pid ∈ members then membership else membership.forget pid) membership).cgroups =
      membership.cgroups := by
  induction pids generalizing membership with
  | nil => rfl
  | cons first rest ih =>
      rw [List.foldl_cons, ih]
      split
      next => rfl
      next => rfl

/-- The record keeps the rules of members. -/
theorem lookup_retainMembers (members : List Nat) (membership : Membership) (pid : Nat) :
    (retainMembers members membership).owned.lookup pid =
      if pid ∈ members then membership.owned.lookup pid else none := by
  rw [retainMembers, retain_foldl]
  by_cases member : pid ∈ members
  · simp [member]
  · by_cases known : pid ∈ membership.owned
    · simp [member, AList.mem_keys.1 known]
    · simp [member, AList.lookup_eq_none.2 known]

theorem attributeTo_cgroups (membership : Membership) (process : Process) :
    (attributeTo selectors membership process).cgroups = membership.cgroups := by
  rw [attributeTo]
  split
  next =>
    rw [Membership.remember]
    split
    next => rfl
    next => rfl
  next => rfl

/-- What is attributed to a member without a rule is a rule of the plan. -/
theorem attribute_foldl (gone : rule ∉ selectors) (unknown : List Process)
    (absent : ∀ process ∈ unknown, membership.owned.lookup process.pid ≠ some rule) :
    (unknown.foldl (attributeTo selectors) membership).owned.lookup pid = some rule ↔
      membership.owned.lookup pid = some rule := by
  induction unknown generalizing membership with
  | nil => exact Iff.rfl
  | cons first rest ih =>
      rw [List.forall_mem_cons] at absent
      have turn (pid : Nat) : (attributeTo selectors membership first).owned.lookup pid =
          some rule ↔ membership.owned.lookup pid = some rule := by
        rw [attributeTo]
        split
        next selector found =>
          rw [Membership.remember]
          split
          next =>
            by_cases same : pid = first.pid
            · subst same
              rw [AList.lookup_insert]
              refine iff_of_false ?_ absent.1
              intro isRule
              exact gone (Option.some.inj isRule ▸ List.mem_of_find?_eq_some found)
            · rw [AList.lookup_insert_ne same]
          next => exact Iff.rfl
        next => exact Iff.rfl
      rw [List.foldl_cons, ih, turn]
      intro process member isRule
      exact absent.2 process member ((turn process.pid).1 isRule)

theorem attribute_foldl_cgroups (unknown : List Process) (membership : Membership) :
    (unknown.foldl (attributeTo selectors) membership).cgroups = membership.cgroups := by
  induction unknown generalizing membership with
  | nil => rfl
  | cons first rest ih => rw [List.foldl_cons, ih, attributeTo_cgroups]

theorem lookup_attributeMembers (gone : rule ∉ selectors) :
    (attributeMembers selectors processes members membership).owned.lookup pid = some rule ↔
      membership.owned.lookup pid = some rule := by
  apply attribute_foldl gone
  intro process member isRule
  have unknown := (List.mem_filter.1 member).2
  rw [Bool.and_eq_true, decide_eq_true_iff, decide_eq_true_iff] at unknown
  have none := AList.lookup_eq_none.2 (mt AList.mem_keys.1 unknown.2)
  rw [none] at isRule
  cases isRule

theorem mem_stalePids {owned : OwnedPids} :
    pid ∈ stalePids selectors owned ↔
      ∃ rule, owned.lookup pid = some rule ∧ rule ∉ selectors := by
  simp only [stalePids, List.mem_map, List.mem_filter, decide_eq_true_iff]
  constructor
  · rintro ⟨⟨_, rule⟩, ⟨entry, gone⟩, rfl⟩
    exact ⟨rule, AList.mem_lookup_iff.2 entry, gone⟩
  · rintro ⟨rule, found, gone⟩
    exact ⟨⟨pid, rule⟩, ⟨AList.mem_lookup_iff.1 found, gone⟩, rfl⟩

end Record

/-! ## Evictions -/

section Evicting

variable {moves : Nat → Bool} {ownerUid : Nat} {selectors : List AppSelector}
variable {processes : List Process} {members : List Nat} {membership : Membership}
variable {process : Process} {root : Nat}

theorem mem_processTree (parent child : Nat)
    (member : child ∈ processTree ownerUid processes parent) :
    child ∈ processes.map Process.pid := by
  rcases List.mem_map.1 member with ⟨process, within, rfl⟩
  exact List.mem_map_of_mem (List.mem_of_mem_filter within)

theorem mem_subtree {pid : Nat} :
    pid ∈ subtree ownerUid processes root ↔ Below ownerUid processes root pid := by
  have collected : pid ∈ Worklist.collect (processTree ownerUid processes)
      ((processes.map Process.pid).length + 1) root ↔ Below ownerUid processes root pid :=
    Worklist.mem_collect mem_processTree
  rwa [List.length_map] at collected

/-- A member of the owner's that is evicted is on the tunneled path, and no other process
is moved. -/
theorem evict_foldl (accepts : ∀ pid, moves pid = true) (listed : process ∈ processes)
    (owners : process.uid = some ownerUid) (evicted : List Nat) (membership : Membership) :
    (evicted.foldl (evict moves ownerUid processes members) membership).cgroups process.pid =
      if process.pid ∈ evicted ∧ process.pid ∈ members then "/" ++ tunneledPath ownerUid
      else membership.cgroups process.pid := by
  induction evicted generalizing membership with
  | nil => simp
  | cons first rest ih =>
      rw [List.foldl_cons, ih]
      have turn : (evict moves ownerUid processes members membership first).cgroups process.pid =
          if process.pid = first ∧ first ∈ members then "/" ++ tunneledPath ownerUid
          else membership.cgroups process.pid := by
        rw [evict, Membership.forget]
        dsimp only
        by_cases member : first ∈ members
        · rw [if_pos member, moveOut]
          by_cases same : process.pid = first
          · have found : (processes.any fun other =>
                decide (other.pid = first ∧ other.uid = some ownerUid)) = true :=
              List.any_eq_true.2 ⟨process, listed, by simp [same, owners]⟩
            rw [if_pos ⟨found, accepts first⟩, if_pos ⟨same, member⟩, Membership.moveTo]
            exact if_pos same
          · have other : ¬(process.pid = first ∧ first ∈ members) := fun both => same both.1
            rw [if_neg other]
            split
            next => exact if_neg same
            next => rfl
        · rw [if_neg member, if_neg fun both => member both.2]
      rw [turn]
      by_cases here : process.pid = first
      · subst here
        by_cases member : process.pid ∈ members
        · simp [member]
        · simp [member]
      · simp [here]

end Evicting

/-! ## A pass -/

/-- Every process of the owner's that a rule names is a member after the pass. -/
def ListedInside (ownerUid : Nat) (selectors : List AppSelector) (table : ProcessTable)
    (before after : Membership) : Prop :=
  ∀ process ∈ table.processes, listed ownerUid selectors before process = true →
    isBypass ownerUid (after.cgroups process.pid) = true

/-- No process that a rule names descends from one whose own rule is gone. -/
def NoneStaleAbove (ownerUid : Nat) (selectors : List AppSelector) (table : ProcessTable)
    (before : Membership) : Prop :=
  ∀ process ∈ table.processes, listed ownerUid selectors before process = true →
    ∀ root, StaleRoot ownerUid selectors before table.processes root →
      ¬Below ownerUid table.processes root process.pid

section Result

variable {moves : Nat → Bool} {ownerUid : Nat} {selectors : List AppSelector}
variable {table : ProcessTable} {before reached after : Membership} {process : Process}

theorem Admits.cgroup_of_mem (admits : Admits ownerUid selectors before table.processes reached)
    (member : process ∈ table.processes) :
    reached.cgroups process.pid =
      if admitted ownerUid selectors before process then "/" ++ relativePath ownerUid
      else before.cgroups process.pid := by
  rw [admits.cgroups]
  congr 1
  rw [eq_iff_iff]
  constructor
  · rintro ⟨other, within, same, isAdmitted⟩
    rwa [List.inj_on_of_nodup_map table.distinct within member same] at isAdmitted
  · exact fun isAdmitted => ⟨process, member, rfl, isAdmitted⟩

/-- A process is a member after the first part of a pass if it was one or is moved in. -/
theorem Admits.mem_memberPids (admits : Admits ownerUid selectors before table.processes reached)
    {pid : Nat} :
    pid ∈ memberPids ownerUid table.processes reached ↔
      ∃ process ∈ table.processes, process.pid = pid ∧
        (isBypass ownerUid (before.cgroups pid) = true ∨
          admitted ownerUid selectors before process = true) := by
  have inside : ∀ process ∈ table.processes,
      (isBypass ownerUid (reached.cgroups process.pid) = true ↔
        isBypass ownerUid (before.cgroups process.pid) = true ∨
          admitted ownerUid selectors before process = true) := by
    intro process member
    rw [admits.cgroup_of_mem member]
    split
    next isAdmitted => exact iff_of_true (isBypass_relativePath ownerUid) (.inr isAdmitted)
    next stays => rw [or_iff_left stays]
  simp only [memberPids, List.mem_map, List.mem_filter]
  constructor
  · rintro ⟨process, ⟨member, isMember⟩, rfl⟩
    exact ⟨process, member, rfl, (inside process member).1 isMember⟩
  · rintro ⟨process, member, rfl, isMember⟩
    exact ⟨process, ⟨member, (inside process member).2 isMember⟩, rfl⟩

/-- The roots that a pass evicts. -/
theorem Admits.stale_iff (admits : Admits ownerUid selectors before table.processes reached)
    (root : Nat) :
    root ∈ stalePids selectors (attributeMembers selectors table.processes
        (memberPids ownerUid table.processes reached)
        (retainMembers (memberPids ownerUid table.processes reached) reached)).owned ↔
      StaleRoot ownerUid selectors before table.processes root := by
  rw [mem_stalePids, StaleRoot, ← admits.mem_memberPids]
  constructor
  · rintro ⟨rule, found, gone⟩
    rw [lookup_attributeMembers gone, lookup_retainMembers] at found
    split at found
    next member =>
      rcases (admits.stale root rule gone).1 found with ⟨known, kept⟩
      exact ⟨⟨rule, known, gone⟩, member, kept⟩
    next => cases found
  · rintro ⟨⟨rule, known, gone⟩, member, kept⟩
    refine ⟨rule, ?_, gone⟩
    rw [lookup_attributeMembers gone, lookup_retainMembers, if_pos member]
    exact (admits.stale root rule gone).2 ⟨known, kept⟩

theorem cgroups_attributeMembers (members : List Nat) (membership : Membership) :
    (attributeMembers selectors table.processes members
      (retainMembers members membership)).cgroups = membership.cgroups := by
  rw [attributeMembers, attribute_foldl_cgroups, retainMembers, retain_cgroups]

/-- After a pass every process that the rules name is a member, unless it descends from one
whose own rule is gone. -/
theorem listedInside_iff (accepts : ∀ pid, moves pid = true) (before : Membership) :
    ∃ after, reconcileWith moves ownerUid selectors table before = (.ok (), after) ∧
      (ListedInside ownerUid selectors table before after ↔
        NoneStaleAbove ownerUid selectors table before) := by
  rcases @run_moveIn ownerUid selectors before moves accepts table.processes table.distinct with
    ⟨reached, ran, admits⟩
  refine ⟨_, by rw [reconcileWith, ran]; rfl, ?_⟩
  rw [ListedInside, NoneStaleAbove]
  refine forall₂_congr fun process member => forall_congr' fun isListed => ?_
  have owners : process.uid = some ownerUid := by
    rw [listed, Bool.and_eq_true, beq_iff_eq] at isListed
    exact isListed.1
  have isMember : process.pid ∈ memberPids ownerUid table.processes reached := by
    rw [admits.mem_memberPids]
    refine ⟨process, member, rfl, ?_⟩
    rw [admitted, isListed, Bool.true_and]
    cases isBypass ownerUid (before.cgroups process.pid) with
    | false => exact .inr rfl
    | true => exact .inl rfl
  have inside : isBypass ownerUid (reached.cgroups process.pid) = true := by
    rcases List.mem_map.1 isMember with ⟨other, within, same⟩
    rw [List.mem_filter, same] at within
    exact within.2
  rw [evictStale, evict_foldl accepts member owners, cgroups_attributeMembers]
  have isEvicted : process.pid ∈ (stalePids selectors (attributeMembers selectors table.processes
      (memberPids ownerUid table.processes reached)
      (retainMembers (memberPids ownerUid table.processes reached) reached)).owned).flatMap
        (subtree ownerUid table.processes) ↔
      ∃ root, StaleRoot ownerUid selectors before table.processes root ∧
        Below ownerUid table.processes root process.pid := by
    rw [List.mem_flatMap]
    exact exists_congr fun root => and_congr (admits.stale_iff root) mem_subtree
  by_cases evicted : ∃ root, StaleRoot ownerUid selectors before table.processes root ∧
      Below ownerUid table.processes root process.pid
  · rw [if_pos ⟨isEvicted.2 evicted, isMember⟩, isBypass_tunneledPath]
    rcases evicted with ⟨root, stale, below⟩
    exact iff_of_false Bool.false_ne_true fun none => none root stale below
  · rw [if_neg fun both => evicted (isEvicted.1 both.1)]
    exact iff_of_true inside fun root stale below => evicted ⟨root, stale, below⟩

end Result

/-! ## A browser and its helper -/

/-- A browser whose rule is no longer in the plan, and the game that it has started. -/
def launched : ProcessTable where
  processes :=
    [⟨10, some 1000, some 1, "firefox", .ofText "/usr/bin/firefox", "firefox", ["firefox"]⟩,
      ⟨11, some 1000, some 10, "game", .ofText "/opt/game", "game", ["game"]⟩]
  distinct := by decide

/-- The browser was moved in for its name. -/
def launchedBefore : Membership where
  cgroups pid :=
    if pid = 10 then "/varmlen/user-1000/bypass" else "/user.slice/app.slice/app-game.scope"
  owned := AList.singleton 10 (.processName "firefox")

/-- The game is named and is no member after the pass. -/
theorem launched_not_inside :
    ¬ListedInside 1000 [.processName "game"] launched launchedBefore
      (reconcileWith (fun _ => true) 1000 [.processName "game"] launched launchedBefore).2 := by
  unfold ListedInside
  decide +kernel

theorem listedInside_iff_launched :
    ∃ after, reconcileWith (fun _ => true) 1000 [.processName "game"] launched launchedBefore =
        (.ok (), after) ∧
      (ListedInside 1000 [.processName "game"] launched launchedBefore after ↔
        NoneStaleAbove 1000 [.processName "game"] launched launchedBefore) :=
  listedInside_iff (fun _ => rfl) launchedBefore

end Varmlen.Daemon
