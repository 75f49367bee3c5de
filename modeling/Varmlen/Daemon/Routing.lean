import Varmlen.Daemon.Split
import Varmlen.Foundation.NftTables
import Varmlen.Foundation.Routing
import Varmlen.Foundation.Script
import Varmlen.Foundation.Text

/-!
# Routing of a split

The policy rule, the routes and the table that a split lays for the applications outside
the tunnel (`daemon/src/split/routing.rs`).  A refresh lays them again.
-/

namespace Varmlen.Daemon

open Foundation Foundation.Effect Foundation.Ip Foundation.Nft Foundation.Routing
open Foundation.Text

structure PhysicalRoute where
  interface : String
  gateway : Option String
  deriving DecidableEq, Repr

/-- The longest name of an interface, `IFNAMSIZ`. -/
def maxInterfaceName : Nat := 16

def isInterfaceChar (char : Char) : Bool :=
  char.isAlphanum || char == '.' || char == '_' || char == '-'

/-- The word after the first occurrence of a word that is followed by one. -/
def wordAfter (word : String) : List String → Option String
  | first :: second :: rest =>
      if first = word then some second else wordAfter word (second :: rest)
  | _ => none

def parseDefaultRoute (line : String) : Option PhysicalRoute :=
  let fields := splitWhitespace line
  if fields.head? ≠ some "default" then none
  else do
    let interface ← wordAfter "dev" fields
    if interface = "" ∨ maxInterfaceName < interface.toList.length ∨
        !interface.toList.all isInterfaceChar then none
    else
      let gateway := wordAfter "via" fields
      if gateway.any fun gateway => (parse gateway).isNone then none
      else some ⟨interface, gateway⟩

def isComponentChar (char : Char) : Bool :=
  char.isAlphanum || char == '.' || char == '_' || char == '-' || char == '@'

/-- A path component that needs no quoting. -/
def isPlainComponent (component : String) : Bool :=
  component != "" && component != "." && component != ".." &&
    component.toList.all isComponentChar

/-- The block that marks what applications outside the tunnel send and rewrites its
source. -/
def splitBlock (cgroupRelative : String) (route : PhysicalRoute) : TableBlock where
  name := "varmlen_split"
  chains :=
    [{ name := "mark_output"
       head := "type route hook output priority mangle;"
       rules :=
        ["socket cgroupv2 level " ++ toString (split '/' cgroupRelative).length ++ " \"" ++
            cgroupRelative ++ "\" meta mark set 0x2025",
          "meta mark 0x2025 ct mark set meta mark"] },
      { name := "nat_postrouting"
        head := "type nat hook postrouting priority srcnat;"
        rules := ["meta mark 0x2025 oifname \"" ++ route.interface ++ "\" masquerade"] }]

/-- The block whose text `nft` is given. -/
def renderSplitRules (cgroupRelative : String) (route : PhysicalRoute) :
    Except SplitError TableBlock :=
  if !(split '/' cgroupRelative).all isPlainComponent then .error .routingUnavailable
  else if (parseDefaultRoute ("default dev " ++ route.interface)).isNone then
    .error .routingUnavailable
  else .ok (splitBlock cgroupRelative route)

theorem splitBlock_text (cgroupRelative : String) (route : PhysicalRoute) :
    (splitBlock cgroupRelative route).text =
      "table inet varmlen_split \x7b\n" ++
      "  chain mark_output \x7b\n" ++
      "    type route hook output priority mangle; policy accept;\n" ++
      "    socket cgroupv2 level " ++ toString (split '/' cgroupRelative).length ++ " \"" ++
      cgroupRelative ++ "\" meta mark set 0x2025\n" ++
      "    meta mark 0x2025 ct mark set meta mark\n" ++
      "  \x7d\n" ++
      "  chain nat_postrouting \x7b\n" ++
      "    type nat hook postrouting priority srcnat; policy accept;\n" ++
      "    meta mark 0x2025 oifname \"" ++ route.interface ++ "\" masquerade\n" ++
      "  \x7d\n" ++
      "\x7d\n" := by
  -- the lines of the source, cut where the block's parts meet
  have opening : "table inet varmlen_split \x7b\n" ++ "  chain mark_output \x7b\n" ++
      "    type route hook output priority mangle; policy accept;\n" ++
      "    socket cgroupv2 level " =
    "table inet " ++ "varmlen_split" ++ " \x7b\n" ++ "  chain " ++ "mark_output" ++
      " \x7b\n    " ++ "type route hook output priority mangle;" ++ " policy accept;\n" ++
      "    " ++ "socket cgroupv2 level " := by
    decide +kernel
  have middle : "\" meta mark set 0x2025\n" ++
      ("    meta mark 0x2025 ct mark set meta mark\n" ++ ("  \x7d\n" ++
        ("  chain nat_postrouting \x7b\n" ++
          ("    type nat hook postrouting priority srcnat; policy accept;\n" ++
            "    meta mark 0x2025 oifname \"")))) =
    "\" meta mark set 0x2025" ++ ("\n" ++ ("    " ++ ("meta mark 0x2025 ct mark set meta mark" ++
      ("\n" ++ ("  \x7d\n" ++ ("  chain " ++ ("nat_postrouting" ++ (" \x7b\n    " ++
        ("type nat hook postrouting priority srcnat;" ++ (" policy accept;\n" ++
          ("    " ++ "meta mark 0x2025 oifname \""))))))))))) := by
    decide +kernel
  have closing : "\" masquerade\n" = "\" masquerade" ++ "\n" := by decide +kernel
  have middleBefore (rest : String) := congrArg (· ++ rest) middle
  simp only [String.append_assoc] at middleBefore
  rw [opening, closing]
  simp only [TableBlock.text, tableText, splitBlock, ChainBlock.text, List.map_cons,
    List.map_nil, String.join_cons, String.join_nil, String.append_assoc, String.append_empty,
    middleBefore]

/-! ## Command lines -/

def splitTable : String := "102"

def splitRulePriority : String := "100"

def localThrows : List String :=
  ["10.0.0.0/8", "172.16.0.0/12", "192.168.0.0/16", "169.254.0.0/16", "100.64.0.0/10",
    "224.0.0.0/4", "255.255.255.255/32"]

def routingSetupCommands (route : PhysicalRoute) : List (List String) :=
  let gateway :=
    match route.gateway with
    | some gateway => ["via", gateway]
    | none => []
  [["route", "replace", "default"] ++ gateway ++
      ["dev", route.interface, "table", splitTable]] ++
    (localThrows.map fun network =>
      ["route", "replace", "throw", network, "table", splitTable]) ++
    [["rule", "add", "priority", splitRulePriority, "fwmark", "0x2025", "lookup", splitTable]]

def routingTeardownCommands : List (List String) :=
  [["rule", "del", "priority", splitRulePriority, "fwmark", "0x2025", "lookup", splitTable],
    ["route", "flush", "table", splitTable]]

/-! ## Installation -/

/-- What the kernel keeps of a split. -/
structure Kernel where
  network : Network
  tables : Tables

def runIp (arguments : List String) (kernel : Kernel) : SplitOutcome Unit Kernel :=
  match run arguments kernel.network with
  | some network => (.ok (), { kernel with network })
  | none => (.error .routingUnavailable, kernel)

def applyRuleset (block : TableBlock) (kernel : Kernel) : SplitOutcome Unit Kernel :=
  (.ok (), { kernel with tables := kernel.tables.addBlock block })

def installRouting (cgroupRelative : String) (route : PhysicalRoute) (kernel : Kernel) :
    SplitOutcome Unit Kernel :=
  match renderSplitRules cgroupRelative route with
  | .error error => (.error error, kernel)
  | .ok block =>
      -- The results of the teardown are discarded.
      let cleared := routingTeardownCommands.foldl
        (fun kernel arguments => (runIp arguments kernel).2) kernel
      andThen (Script.run runIp (routingSetupCommands route) cleared) fun _ => applyRuleset block

/-! ## What is laid -/

def splitRule : PolicyRule := ⟨.v4, some splitRulePriority, "0x2025", splitTable⟩

/-- The routes of the split's table, by destination. -/
def splitRouteTo (route : PhysicalRoute) (destination : String) : Option Route :=
  if destination = "default" then some ⟨.unicast, route.gateway, some route.interface⟩
  else if destination ∈ localThrows then some ⟨.throw, none, none⟩
  else none

/-- A network without what the split has laid. -/
def clearedNetwork (network : Network) : Network where
  rules := network.rules.erase splitRule
  routes key :=
    if key.family = .v4 ∧ key.table = splitTable then none else network.routes key

/-- A network with what the split lays. -/
def laidNetwork (route : PhysicalRoute) (network : Network) : Network where
  rules := network.rules ++ [splitRule]
  routes key :=
    if key.family = .v4 ∧ key.table = splitTable then
      (splitRouteTo route key.destination).or (network.routes key)
    else network.routes key

/-- The split's rule stands at most once. -/
def Single (kernel : Kernel) : Prop := kernel.network.rules.count splitRule ≤ 1

section Installation

variable {cgroupRelative : String} {first second route : PhysicalRoute} {kernel : Kernel}

theorem selected_splitRule :
    PolicyRule.selected .v4 (some splitRulePriority) "0x2025" (some splitTable) =
      (· == splitRule) := by
  funext rule
  rcases rule with ⟨family, priority, fwmark, lookup⟩
  rw [Bool.eq_iff_iff]
  simp [PolicyRule.selected, splitRule, and_assoc]

theorem deleteRule_eq (kernel : Kernel) :
    (runIp ["rule", "del", "priority", splitRulePriority, "fwmark", "0x2025", "lookup",
        splitTable] kernel).2 =
      { kernel with
        network := {
          kernel.network with rules := kernel.network.rules.erase splitRule } } := by
  have reads : run ["rule", "del", "priority", splitRulePriority, "fwmark", "0x2025", "lookup",
      splitTable] kernel.network =
        execute kernel.network
          (.deleteRule .v4 (some splitRulePriority) "0x2025" (some splitTable)) := rfl
  rw [runIp, reads, execute, selected_splitRule, List.erase_eq_eraseP']
  by_cases there : splitRule ∈ kernel.network.rules
  · rw [if_pos (by simpa using there)]
  · have unchanged : kernel.network.rules.eraseP (· == splitRule) = kernel.network.rules := by
      rw [← List.erase_eq_eraseP', List.erase_of_not_mem there]
    rw [if_neg (by simpa using there), unchanged]

theorem teardown_eq (kernel : Kernel) :
    routingTeardownCommands.foldl (fun kernel arguments => (runIp arguments kernel).2) kernel =
      { kernel with network := clearedNetwork kernel.network } := by
  rw [routingTeardownCommands, List.foldl_cons, List.foldl_cons, List.foldl_nil, deleteRule_eq]
  rfl

/-- Destinations that leave a table go to nowhere else in it. -/
theorem run_throws (networks : List String) (kernel : Kernel) :
    Script.run runIp (networks.map fun network =>
        ["route", "replace", "throw", network, "table", splitTable]) kernel =
      (.ok (), { kernel with
        network := {
          rules := kernel.network.rules
          routes := fun key =>
            if key.family = .v4 ∧ key.table = splitTable ∧ key.destination ∈ networks then
              some ⟨.throw, none, none⟩
            else kernel.network.routes key } }) := by
  induction networks generalizing kernel with
  | nil => simp [Script.run]
  | cons network rest ih =>
      have laid : runIp ["route", "replace", "throw", network, "table", splitTable] kernel =
          (.ok (), { kernel with
            network := kernel.network.setRoute ⟨.v4, splitTable, network⟩
              (some ⟨.throw, none, none⟩) }) := rfl
      rw [List.map_cons, Script.run, laid, andThen, ih]
      congr 3
      funext key
      rcases key with ⟨family, table, destination⟩
      by_cases inside : family = .v4 ∧ table = splitTable
      · rcases inside with ⟨rfl, rfl⟩
        by_cases member : destination ∈ rest
        · simp [member]
        · simp [Network.setRoute, member]
      · simp [Network.setRoute, ← and_assoc, inside]

theorem setup_eq (absent : splitRule ∉ kernel.network.rules) :
    Script.run runIp (routingSetupCommands route) kernel =
      (.ok (), { kernel with network := laidNetwork route kernel.network }) := by
  have default (network : Network) :
      run (["route", "replace", "default"] ++
          (match route.gateway with
            | some gateway => ["via", gateway]
            | none => []) ++ ["dev", route.interface, "table", splitTable]) network =
        some (network.setRoute ⟨.v4, splitTable, "default"⟩
          (some ⟨.unicast, route.gateway, some route.interface⟩)) := by
    cases route.gateway with
    | none => rfl
    | some gateway => rfl
  have rule (network : Network) (absent : splitRule ∉ network.rules) :
      run ["rule", "add", "priority", splitRulePriority, "fwmark", "0x2025", "lookup",
          splitTable] network = some { network with rules := network.rules ++ [splitRule] } := by
    have reads : run ["rule", "add", "priority", splitRulePriority, "fwmark", "0x2025", "lookup",
        splitTable] network = execute network (.addRule splitRule) := rfl
    rw [reads, execute, if_neg (by simpa using fun _ => absent)]
  simp only [routingSetupCommands, Script.run_append, Script.run, runIp, default, andThen,
    run_throws, rule, Network.setRoute_rules, absent, not_false_eq_true, laidNetwork]
  congr 3
  funext key
  rcases key with ⟨family, table, destination⟩
  by_cases inside : family = .v4 ∧ table = splitTable
  · rcases inside with ⟨rfl, rfl⟩
    by_cases isDefault : destination = "default"
    · have notThrown : destination ∉ localThrows := by
        rw [isDefault]
        decide
      simp [splitRouteTo, Network.routes_setRoute, isDefault, isDefault ▸ notThrown]
    · by_cases thrown : destination ∈ localThrows
      · simp [splitRouteTo, isDefault, thrown]
      · simp [splitRouteTo, Network.routes_setRoute, isDefault, thrown]
  · simp [Network.routes_setRoute, ← and_assoc, inside]

theorem renderSplitRules_eq_ok {block : TableBlock}
    (accepted : renderSplitRules cgroupRelative route = .ok block) :
    block = splitBlock cgroupRelative route := by
  rw [renderSplitRules] at accepted
  split at accepted
  next => cases accepted
  next =>
    split at accepted
    next => cases accepted
    next =>
      cases accepted
      rfl

theorem not_mem_cleared (single : Single kernel) :
    splitRule ∉ (clearedNetwork kernel.network).rules := by
  intro there
  have count := List.count_pos_iff.2 there
  rw [clearedNetwork, List.count_erase_self] at count
  rw [Single] at single
  omega

/-- The rule and the routes are as if nothing had been laid before; the block comes on top
of what is there. -/
theorem installRouting_eq (single : Single kernel)
    (accepted : (renderSplitRules cgroupRelative route).isOk = true) :
    installRouting cgroupRelative route kernel =
      (.ok (), ⟨laidNetwork route (clearedNetwork kernel.network),
        kernel.tables.addBlock (splitBlock cgroupRelative route)⟩) := by
  rw [installRouting]
  cases rendered : renderSplitRules cgroupRelative route with
  | error error =>
      rw [rendered] at accepted
      cases accepted
  | ok block =>
      rcases renderSplitRules_eq_ok rendered with rfl
      have laid : Script.run runIp (routingSetupCommands route)
          { kernel with network := clearedNetwork kernel.network } =
            (.ok (), { kernel with
              network := laidNetwork route (clearedNetwork kernel.network) }) :=
        setup_eq (not_mem_cleared single)
      dsimp only
      rw [teardown_eq, laid]
      rfl

theorem single_installRouting (single : Single kernel) :
    Single (installRouting cgroupRelative route kernel).2 := by
  cases rendered : renderSplitRules cgroupRelative route with
  | error error =>
      rw [installRouting, rendered]
      exact single
  | ok block =>
      have accepted : (renderSplitRules cgroupRelative route).isOk = true := by
        rw [rendered]
        rfl
      rw [installRouting_eq single accepted, Single, laidNetwork, List.count_append,
        List.count_eq_zero_of_not_mem (not_mem_cleared single), List.count_singleton_self]

/-- The states that calls lead to from one without the split's rule. -/
inductive Reached : Kernel → Prop where
  | start {kernel : Kernel} : splitRule ∉ kernel.network.rules → Reached kernel
  | install {kernel : Kernel} (cgroupRelative : String) (route : PhysicalRoute) :
      Reached kernel → Reached (installRouting cgroupRelative route kernel).2

theorem single_of_reached (reached : Reached kernel) : Single kernel := by
  induction reached with
  | start absent =>
      rw [Single, List.count_eq_zero_of_not_mem absent]
      exact Nat.zero_le 1
  | install cgroupRelative route reached ih => exact single_installRouting ih

/-! ## Refreshing -/

/-- Laying the second route after the first leaves what laying it alone leaves, and laying
it again changes nothing. -/
def RefreshIdempotent (cgroupRelative : String) (first second : PhysicalRoute)
    (kernel : Kernel) : Prop :=
  let alone := (installRouting cgroupRelative second kernel).2
  (installRouting cgroupRelative second (installRouting cgroupRelative first kernel).2).2 =
      alone ∧
    (installRouting cgroupRelative second alone).2 = alone

theorem clearedNetwork_laidNetwork (single : Single kernel) :
    clearedNetwork (laidNetwork route (clearedNetwork kernel.network)) =
      clearedNetwork kernel.network := by
  have rules : (kernel.network.rules.erase splitRule ++ [splitRule]).erase splitRule =
      kernel.network.rules.erase splitRule := by
    have absent := not_mem_cleared single
    rw [clearedNetwork] at absent
    rw [List.erase_append_right _ absent, List.erase_cons_head, List.append_nil]
  rw [clearedNetwork, laidNetwork, clearedNetwork, rules]
  congr 1
  funext key
  split
  next => rfl
  next outside => simp [outside]

/-- The rule and the routes are refreshed as they should be. -/
theorem network_refreshed (single : Single kernel)
    (firstAccepted : (renderSplitRules cgroupRelative first).isOk = true)
    (secondAccepted : (renderSplitRules cgroupRelative second).isOk = true) :
    (installRouting cgroupRelative second
        (installRouting cgroupRelative first kernel).2).2.network =
      (installRouting cgroupRelative second kernel).2.network := by
  rw [installRouting_eq (single_installRouting single) secondAccepted,
    installRouting_eq single firstAccepted, installRouting_eq single secondAccepted,
    clearedNetwork_laidNetwork single]

/-- The rules that rewrite the source of marked packets. -/
def masquerades (kernel : Kernel) : List String :=
  kernel.tables.rules "varmlen_split" "nat_postrouting"

/-- Each call leaves one more of them. -/
theorem masquerades_installRouting (single : Single kernel)
    (accepted : (renderSplitRules cgroupRelative route).isOk = true) :
    (masquerades (installRouting cgroupRelative route kernel).2).length =
      (masquerades kernel).length + 1 := by
  rw [installRouting_eq single accepted, masquerades]
  have added := Tables.rules_addBlock kernel.tables (splitBlock cgroupRelative route)
    "nat_postrouting"
  rw [show (splitBlock cgroupRelative route).name = "varmlen_split" from rfl] at added
  rw [added, List.length_append]
  rfl

/-- A refresh is never idempotent. -/
theorem refresh_not_idempotent (reached : Reached kernel)
    (firstAccepted : (renderSplitRules cgroupRelative first).isOk = true)
    (secondAccepted : (renderSplitRules cgroupRelative second).isOk = true) :
    ¬ RefreshIdempotent cgroupRelative first second kernel := by
  have single := single_of_reached reached
  intro idempotent
  have lengths := congrArg (fun kernel => (masquerades kernel).length) idempotent.1
  rw [masquerades_installRouting (single_installRouting single) secondAccepted,
    masquerades_installRouting single firstAccepted,
    masquerades_installRouting single secondAccepted] at lengths
  omega

/-- Nor is repeating a call. -/
theorem repeated_call_adds (reached : Reached kernel)
    (accepted : (renderSplitRules cgroupRelative route).isOk = true) :
    (installRouting cgroupRelative route (installRouting cgroupRelative route kernel).2).2 ≠
      (installRouting cgroupRelative route kernel).2 := by
  have single := single_of_reached reached
  intro same
  have lengths := congrArg (fun kernel => (masquerades kernel).length) same
  rw [masquerades_installRouting (single_installRouting single) accepted] at lengths
  omega

end Installation

/-! ## A machine on a wired network -/

def wiredRoute : PhysicalRoute := ⟨"enp11s0", some "192.168.1.1"⟩

/-- A machine without rules and routes of its own. -/
def bareKernel : Kernel where
  network := ⟨[], fun _ => none⟩
  tables _ := none

theorem wired_accepted :
    (renderSplitRules "varmlen/user-1000/bypass" wiredRoute).isOk = true := by
  decide +kernel

theorem refresh_not_idempotent_wired :
    ¬ RefreshIdempotent "varmlen/user-1000/bypass" wiredRoute wiredRoute bareKernel :=
  refresh_not_idempotent (.start List.not_mem_nil) wired_accepted wired_accepted

/-- Laying the routing of a wired machine twice leaves two rules where one call leaves
one. -/
theorem wired_refresh_adds :
    ¬ RefreshIdempotent "varmlen/user-1000/bypass" wiredRoute wiredRoute bareKernel := by
  have single : Single bareKernel := Nat.zero_le 1
  intro idempotent
  have lengths := congrArg (fun kernel => (masquerades kernel).length) idempotent.2
  rw [masquerades_installRouting (single_installRouting single) wired_accepted] at lengths
  omega

end Varmlen.Daemon
