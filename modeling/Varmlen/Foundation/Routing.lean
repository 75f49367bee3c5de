import Mathlib.Data.List.Basic

/-!
# Policy routing

The rules and routes of a machine and what the command lines of `ip` do to them.  Rules
stand in a list, and one of them may stand there twice; of a table's routes only one goes
to a destination.
-/

namespace Foundation.Routing

inductive Family where
  | v4
  | v6
  deriving DecidableEq, Repr

/-- Packets with a mark look their route up in a table.  A rule without a priority gets
one of its own. -/
structure PolicyRule where
  family : Family
  priority : Option String
  fwmark : String
  lookup : String
  deriving DecidableEq, Repr

structure RouteKey where
  family : Family
  table : String
  destination : String
  deriving DecidableEq, Repr

inductive RouteKind where
  | unicast
  | throw
  | blackhole
  deriving DecidableEq, Repr

structure Route where
  kind : RouteKind
  via : Option String
  dev : Option String
  deriving DecidableEq, Repr

structure Network where
  rules : List PolicyRule
  routes : RouteKey → Option Route

/-! ## Command lines -/

inductive Command where
  | addRule (rule : PolicyRule)
  /-- Delete the first rule with the given properties. -/
  | deleteRule (family : Family) (priority : Option String) (fwmark : String)
      (lookup : Option String)
  | replaceRoute (key : RouteKey) (route : Route)
  | deleteRoute (key : RouteKey) (dev : Option String)
  | flushTable (family : Family) (table : String)
  /-- A command about devices and their addresses. -/
  | device
  deriving DecidableEq, Repr

/-- The value that follows a name in a list of options. -/
def option (name : String) : List String → Option String
  | key :: value :: rest => if key = name then some value else option name rest
  | _ => none

/-- The kind of a route, which is written before its destination. -/
def routeKind : List String → RouteKind × List String
  | "throw" :: words => (.throw, words)
  | "blackhole" :: words => (.blackhole, words)
  | words => (.unicast, words)

/-- The route that its kind and the words after it stand for. -/
def readRoute (family : Family) (kind : RouteKind) : List String → Option (RouteKey × Route)
  | [] => none
  | destination :: options =>
      some (⟨family, (option "table" options).getD "main", destination⟩,
        ⟨kind, option "via" options, option "dev" options⟩)

def readIn (family : Family) : List String → Option Command
  | "rule" :: "add" :: options => do
      let fwmark ← option "fwmark" options
      let lookup ← option "lookup" options
      return .addRule ⟨family, option "priority" options, fwmark, lookup⟩
  | "rule" :: "del" :: options => do
      let fwmark ← option "fwmark" options
      return .deleteRule family (option "priority" options) fwmark (option "lookup" options)
  | "route" :: "flush" :: options => do
      let table ← option "table" options
      return .flushTable family table
  | "route" :: "replace" :: words => do
      let (key, route) ← readRoute family (routeKind words).1 (routeKind words).2
      return .replaceRoute key route
  | "route" :: "del" :: words => do
      let (key, route) ← readRoute family .unicast words
      return .deleteRoute key route.dev
  | "link" :: _ => some .device
  | "addr" :: _ => some .device
  | "tuntap" :: _ => some .device
  | _ => none

/-- The command of a command line, IPv4 unless it says otherwise. -/
def readCommand : List String → Option Command
  | "-4" :: words => readIn .v4 words
  | "-6" :: words => readIn .v6 words
  | words => readIn .v4 words

/-! ## Execution -/

/-- The rule is one that a deletion asks for. -/
def PolicyRule.selected (family : Family) (priority : Option String) (fwmark : String)
    (lookup : Option String) (rule : PolicyRule) : Bool :=
  rule.family = family && priority.all (rule.priority = some ·) && rule.fwmark = fwmark &&
    lookup.all (rule.lookup = ·)

/-- Put a route in place, or take it away. -/
def Network.setRoute (network : Network) (key : RouteKey) (route : Option Route) : Network :=
  { network with routes := fun other => if other = key then route else network.routes other }

@[simp] theorem Network.setRoute_rules (network : Network) (key : RouteKey)
    (route : Option Route) : (network.setRoute key route).rules = network.rules := rfl

theorem Network.routes_setRoute (network : Network) (key other : RouteKey)
    (route : Option Route) :
    (network.setRoute key route).routes other =
      if other = key then route else network.routes other := rfl

/-- The network after a command, unless the command is refused. -/
def execute (network : Network) : Command → Option Network
  | .addRule rule =>
      if rule.priority.isSome && network.rules.contains rule then none
      else some { network with rules := network.rules ++ [rule] }
  | .deleteRule family priority fwmark lookup =>
      if network.rules.any (PolicyRule.selected family priority fwmark lookup) then
        some { network with
          rules := network.rules.eraseP (PolicyRule.selected family priority fwmark lookup) }
      else none
  | .replaceRoute key route => some (network.setRoute key (some route))
  | .deleteRoute key dev =>
      match network.routes key with
      | none => none
      | some route =>
          if dev.all (route.dev = some ·) then some (network.setRoute key none) else none
  | .flushTable family table =>
      some { network with
        routes := fun key =>
          if key.family = family ∧ key.table = table then none else network.routes key }
  | .device => some network

/-- Run a command line. -/
def run (arguments : List String) (network : Network) : Option Network :=
  (readCommand arguments).bind (execute network)

/-- Run a command line and go on whether it is refused or not. -/
def runQuiet (network : Network) (arguments : List String) : Network :=
  (run arguments network).getD network

/-- Carry a command out if it is accepted. -/
def executeQuiet (network : Network) (command : Command) : Network :=
  (execute network command).getD network

/-- Command lines do what their commands do. -/
theorem foldl_runQuiet (lines : List (List String)) (network : Network) :
    lines.foldl runQuiet network = (lines.filterMap readCommand).foldl executeQuiet network := by
  rw [List.foldl_filterMap]
  congr 1
  funext network arguments
  rw [runQuiet, run]
  cases readCommand arguments with
  | none => rfl
  | some command => rfl

/-- A command line that is refused does the same whenever it is repeated: nothing. -/
theorem foldl_replicate_of_refused {arguments : List String} {network : Network}
    (refused : run arguments network = none) (count : Nat) :
    (List.replicate count arguments).foldl runQuiet network = network := by
  induction count with
  | zero => rfl
  | succ count ih =>
      rw [List.replicate_succ, List.foldl_cons, runQuiet, refused]
      exact ih

theorem routeKind_of_destination {destination : String} (words : List String)
    (notThrow : destination ≠ "throw") (notBlackhole : destination ≠ "blackhole") :
    routeKind (destination :: words) = (.unicast, destination :: words) := by
  rw [routeKind]
  · intro _ same
    exact notThrow (List.head_eq_of_cons_eq same)
  · intro _ same
    exact notBlackhole (List.head_eq_of_cons_eq same)

/-! ## Runs of commands -/

section Runs

variable {network after : Network} {commands : List Command} {command : Command}
variable {key : RouteKey} {route : Route}

/-- The command takes the route with this key away. -/
def Command.drops (key : RouteKey) : Command → Bool
  | .deleteRoute other _ => other = key
  | .flushTable family table => key.family = family && key.table = table
  | _ => false

/-- The rule that the command adds. -/
def Command.added : Command → Option PolicyRule
  | .addRule rule => some rule
  | _ => none

/-- The command is refused by no network. -/
def Command.sure : Command → Bool
  | .addRule rule => rule.priority.isNone
  | .replaceRoute _ _ => true
  | .device => true
  | _ => false

theorem execute_of_sure (isSure : command.sure = true) (network : Network) :
    ∃ after, execute network command = some after := by
  cases command with
  | addRule rule =>
      rw [Command.sure, Option.isNone_iff_eq_none] at isSure
      simp [execute, isSure]
  | deleteRule family priority fwmark lookup => cases isSure
  | replaceRoute key route => exact ⟨_, rfl⟩
  | deleteRoute key dev => cases isSure
  | flushTable family table => cases isSure
  | device => exact ⟨_, rfl⟩

theorem routes_executeQuiet (network : Network) (command : Command) (key : RouteKey) :
    (executeQuiet network command).routes key = network.routes key ∨
      command.drops key = true ∧ (executeQuiet network command).routes key = none ∨
      ∃ route, command = .replaceRoute key route ∧
        (executeQuiet network command).routes key = some route := by
  cases command with
  | addRule rule =>
      left
      rw [executeQuiet, execute]
      split <;> rfl
  | deleteRule family priority fwmark lookup =>
      left
      rw [executeQuiet, execute]
      split <;> rfl
  | replaceRoute other route =>
      by_cases same : key = other
      · subst same
        exact .inr (.inr ⟨route, rfl, if_pos rfl⟩)
      · exact .inl (if_neg same)
  | deleteRoute other dev =>
      rw [executeQuiet, execute]
      cases network.routes other with
      | none => exact .inl rfl
      | some route =>
          dsimp only
          split
          next =>
            by_cases same : key = other
            · subst same
              exact .inr (.inl ⟨decide_eq_true rfl, if_pos rfl⟩)
            · exact .inl (if_neg same)
          next => exact .inl rfl
  | flushTable family table =>
      by_cases inside : key.family = family ∧ key.table = table
      · exact .inr (.inl ⟨by simpa [Command.drops] using inside, if_pos inside⟩)
      · exact .inl (if_neg inside)
  | device => exact .inl rfl

/-- A route that stands after a run stood there before or was put there. -/
theorem routes_foldl (commands : List Command) (network : Network)
    (stands : (commands.foldl executeQuiet network).routes key = some route) :
    network.routes key = some route ∨ .replaceRoute key route ∈ commands := by
  induction commands generalizing network with
  | nil => exact .inl stands
  | cons command rest ih =>
      rcases ih _ stands with before | put
      · rcases routes_executeQuiet network command key with same | ⟨_, gone⟩ | ⟨laid, put, found⟩
        · exact .inl (same ▸ before)
        · rw [gone] at before
          cases before
        · rw [found] at before
          cases before
          exact .inr (put ▸ .head _)
      · exact .inr (.tail _ put)

/-- A route that no command takes away stays. -/
theorem isSome_routes_foldl (stands : (network.routes key).isSome)
    (kept : ∀ command ∈ commands, command.drops key = false) :
    ((commands.foldl executeQuiet network).routes key).isSome := by
  induction commands generalizing network with
  | nil => exact stands
  | cons command rest ih =>
      rw [List.forall_mem_cons] at kept
      refine ih ?_ kept.2
      rcases routes_executeQuiet network command key with same | ⟨dropped, _⟩ | ⟨_, _, found⟩
      · rwa [same]
      · rw [kept.1] at dropped
        cases dropped
      · rw [found]
        rfl

theorem routes_deleteRoute {dev : Option String}
    (fits : ∀ route, network.routes key = some route → dev.all (route.dev = some ·) = true) :
    (executeQuiet network (.deleteRoute key dev)).routes key = none := by
  cases there : network.routes key with
  | none => simp [executeQuiet, execute, there]
  | some route => simp [executeQuiet, execute, there, fits route there, Network.setRoute]

/-- A route is gone after commands that delete it and put none in its place. -/
theorem routes_foldl_eq_none {dev : Option String}
    (member : .deleteRoute key dev ∈ commands)
    (fits : ∀ route, network.routes key = some route → dev.all (route.dev = some ·) = true)
    (lays : ∀ route, .replaceRoute key route ∉ commands) :
    (commands.foldl executeQuiet network).routes key = none := by
  rcases List.append_of_mem member with ⟨before, after, rfl⟩
  rw [List.foldl_append, List.foldl_cons]
  have gone : (executeQuiet (before.foldl executeQuiet network)
      (.deleteRoute key dev)).routes key = none := by
    apply routes_deleteRoute
    intro route stands
    rcases routes_foldl before network stands with early | put
    · exact fits route early
    · exact absurd (List.mem_append_left _ put) (lays route)
  cases stands : (after.foldl executeQuiet _).routes key with
  | none => rfl
  | some route =>
      rcases routes_foldl after _ stands with early | put
      · rw [gone] at early
        cases early
      · exact absurd (List.mem_append_right _ (.tail _ put)) (lays route)

/-! ### Rules -/

variable {selected : PolicyRule → Bool}

theorem countP_executeQuiet (network : Network) (command : Command) :
    (executeQuiet network command).rules.countP selected ≤
      network.rules.countP selected + command.added.toList.countP selected := by
  cases command with
  | addRule rule =>
      rw [executeQuiet, execute]
      split
      next => exact Nat.le_add_right _ _
      next =>
        dsimp only [Option.getD_some]
        rw [List.countP_append]
        exact Nat.le_refl _
  | deleteRule family priority fwmark lookup =>
      rw [executeQuiet, execute]
      split
      next => exact Nat.le_trans List.eraseP_sublist.countP_le (Nat.le_add_right _ _)
      next => exact Nat.le_add_right _ _
  | replaceRoute key route => exact Nat.le_add_right _ _
  | deleteRoute key dev =>
      rw [executeQuiet, execute]
      cases network.routes key with
      | none => exact Nat.le_add_right _ _
      | some route =>
          dsimp only
          split
          next => exact Nat.le_add_right _ _
          next => exact Nat.le_add_right _ _
  | flushTable family table => exact Nat.le_add_right _ _
  | device => exact Nat.le_add_right _ _

/-- The rule is one that the command may delete. -/
def Command.deletes (rule : PolicyRule) : Command → Bool
  | .deleteRule family priority fwmark lookup => rule.selected family priority fwmark lookup
  | _ => false

/-- Rules that a command neither adds nor deletes stay, in their order. -/
theorem filter_executeQuiet (network : Network) (addsNone : command.added = none)
    (kept : ∀ rule, command.deletes rule = true → selected rule = false) :
    (executeQuiet network command).rules.filter selected = network.rules.filter selected := by
  cases command with
  | addRule rule => cases addsNone
  | deleteRule family priority fwmark lookup =>
      rw [executeQuiet, execute]
      split
      next isSelected =>
        obtain ⟨rule, member, selects⟩ := List.any_eq_true.1 isSelected
        obtain ⟨first, before, after, _, takes, parts, left⟩ :=
          List.exists_of_eraseP member selects
        dsimp only [Option.getD_some]
        rw [left, parts, List.filter_append, List.filter_append,
          List.filter_cons_of_neg (by simp [kept first takes])]
      next => rfl
  | replaceRoute key route => rfl
  | deleteRoute key dev =>
      rw [executeQuiet, execute]
      cases network.routes key with
      | none => rfl
      | some route =>
          dsimp only
          split
          next => rfl
          next => rfl
  | flushTable family table => rfl
  | device => rfl

theorem countP_added_cons (command : Command) (rest : List Command) :
    ((command :: rest).filterMap Command.added).countP selected =
      command.added.toList.countP selected + (rest.filterMap Command.added).countP selected := by
  rw [List.filterMap_cons]
  cases command.added with
  | none => exact (Nat.zero_add _).symm
  | some rule =>
      rw [Option.toList_some, ← List.countP_append]
      rfl

/-- A run stacks no more selected rules than it adds. -/
theorem countP_foldl (commands : List Command) (network : Network) :
    (commands.foldl executeQuiet network).rules.countP selected ≤
      network.rules.countP selected +
        (commands.filterMap Command.added).countP selected := by
  induction commands generalizing network with
  | nil => exact Nat.le_refl _
  | cons command rest ih =>
      calc ((command :: rest).foldl executeQuiet network).rules.countP selected
          ≤ (executeQuiet network command).rules.countP selected +
              (rest.filterMap Command.added).countP selected := ih _
        _ ≤ network.rules.countP selected + command.added.toList.countP selected +
              (rest.filterMap Command.added).countP selected :=
            Nat.add_le_add_right (countP_executeQuiet network command) _
        _ = network.rules.countP selected +
              ((command :: rest).filterMap Command.added).countP selected := by
            rw [countP_added_cons, Nat.add_assoc]

/-- A deletion takes one of the rules that it selects. -/
theorem countP_deleteRule (network : Network) (family : Family) (priority : Option String)
    (fwmark : String) (lookup : Option String) :
    (executeQuiet network (.deleteRule family priority fwmark lookup)).rules.countP
        (PolicyRule.selected family priority fwmark lookup) =
      network.rules.countP (PolicyRule.selected family priority fwmark lookup) - 1 := by
  rw [executeQuiet, execute]
  split
  next isSelected =>
    rcases List.any_eq_true.1 isSelected with ⟨rule, member, selects⟩
    rcases List.exists_of_eraseP member selects with ⟨first, before, after, _, takes, parts, left⟩
    dsimp only [Option.getD_some]
    rw [left, parts, List.countP_append, List.countP_append, List.countP_cons_of_pos takes]
    rfl
  next unselected =>
    have none : network.rules.countP (PolicyRule.selected family priority fwmark lookup) = 0 := by
      rw [List.countP_eq_zero]
      intro rule member isSelected
      exact unselected (List.any_eq_true.2 ⟨rule, member, isSelected⟩)
    exact (none ▸ rfl)

/-- Deletions that are as many as the rules they select leave none of these. -/
theorem countP_foldl_deleteRule {family : Family} {priority : Option String} {fwmark : String}
    {lookup : Option String} (network : Network)
    (addsNone : commands.filterMap Command.added = []) :
    (commands.foldl executeQuiet network).rules.countP
        (PolicyRule.selected family priority fwmark lookup) ≤
      network.rules.countP (PolicyRule.selected family priority fwmark lookup) -
        commands.count (.deleteRule family priority fwmark lookup) := by
  induction commands generalizing network with
  | nil => exact Nat.le_refl _
  | cons command rest ih =>
      rw [List.filterMap_eq_nil_iff, List.forall_mem_cons] at addsNone
      have step : (executeQuiet network command).rules.countP
          (PolicyRule.selected family priority fwmark lookup) ≤ _ :=
        countP_executeQuiet network command
      have later := ih (executeQuiet network command) (List.filterMap_eq_nil_iff.2 addsNone.2)
      rw [addsNone.1] at step
      rw [List.foldl_cons, List.count_cons]
      by_cases deletes : command = .deleteRule family priority fwmark lookup
      · rw [deletes, countP_deleteRule] at later
        rw [deletes, if_pos (beq_self_eq_true _)]
        omega
      · rw [if_neg (by simpa using deletes)]
        exact Nat.le_trans later (Nat.sub_le_sub_right step _)

end Runs

end Foundation.Routing
