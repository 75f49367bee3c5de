import Varmlen.Helper.RouteRollback

/-!
# Failures of `route_up`

The script of `route_up` as two loops, one for each family of addresses, and what is left
when one of its steps fails.
-/

namespace Varmlen.Helper

open Foundation Foundation.Effect Foundation.Ip Foundation.Routing Foundation.Text

def dnsRule : PolicyRule := ⟨.v4, some "90", dnsMark, dnsTable⟩

/-- The command takes no route away. -/
def lasting : Command → Bool
  | .deleteRoute _ _ => false
  | .flushTable _ _ => false
  | _ => true

def laysInMain : Command → Bool
  | .replaceRoute key _ => key.table == "main"
  | _ => false

/-- Only the rule for DNS, which has a priority, can be refused. -/
def accepted : Action → Bool
  | .required arguments =>
      (readCommand arguments).any fun command => command.sure || command == .addRule dnsRule
  | _ => true

/-- What holds of the steps before the servers. -/
def onPath (action : Action) : Bool :=
  accepted action && action.command.all (fun command => lasting command && !laysInMain command) &&
    action.target.all (fun path => path == rpState || path == rpAll)

def routed4 (gateway : Option String) (iface : String) (servers : List IpAddr) :
    List (IpAddr × List String) :=
  (ipv4Servers servers).map fun address => (.v4 address, serverRoute gateway iface address)

def routed6 (around : Surroundings) (servers : List IpAddr) : List (IpAddr × List String) :=
  (routedServers6 around servers).map fun server => (.v6 server.1, server.2)

def closing : List Action :=
  [.required ["-6", "route", "replace", "blackhole", "::/1"],
    .required ["-6", "route", "replace", "blackhole", "8000::/1"]]

section Script

variable (around : Surroundings) (gateway : Option String) (iface : String)
variable (servers : List IpAddr) (bypassCgroup : Option String)

def loop6 : ServerLoop where
  before := physicalPath around gateway iface ++
    (routed4 gateway iface servers).map (fun server => .required server.2) ++
    .writeState serversState (serverLines ((routed4 gateway iface servers).map Prod.fst)) ::
      intoTunnel bypassCgroup
  servers := routed6 around servers
  path := servers6State
  after := closing

def loop4 : ServerLoop where
  before := physicalPath around gateway iface
  servers := routed4 gateway iface servers
  path := serversState
  after := intoTunnel bypassCgroup ++
    (loop6 around gateway iface servers bypassCgroup).placing ++
    .writeState servers6State (loop6 around gateway iface servers bypassCgroup).lines :: closing

theorem script_loop4 : (loop4 around gateway iface servers bypassCgroup).script =
    routeUpActions around gateway iface servers bypassCgroup := by
  simp [ServerLoop.script, ServerLoop.placing, ServerLoop.lines, loop4, loop6, routed4, routed6,
    routeUpActions, closing, List.map_map, Function.comp_def]

theorem script_loop6 : (loop6 around gateway iface servers bypassCgroup).script =
    routeUpActions around gateway iface servers bypassCgroup := by
  simp [ServerLoop.script, ServerLoop.placing, ServerLoop.lines, loop6, routed4, routed6,
    routeUpActions, closing, List.map_map, Function.comp_def]

theorem physicalPath_onPath : ∀ action ∈ physicalPath around gateway iface,
    onPath action = true := by
  rw [← List.all_eq_true, physicalPath]
  generalize detectDefaultRoute6 around.defaults6 = default6
  generalize around.tunExists = tunExists
  cases gateway with
  | none => cases tunExists <;> cases default6 <;> exact rfl
  | some gateway => cases tunExists <;> cases default6 <;> exact rfl

theorem fallible_physicalPath : fallible (physicalPath around gateway iface) =
    if (detectDefaultRoute6 around.defaults6).isSome then 20 else 14 := by
  rw [physicalPath]
  generalize detectDefaultRoute6 around.defaults6 = default6
  generalize around.tunExists = tunExists
  cases gateway with
  | none => cases tunExists <;> cases default6 <;> exact rfl
  | some gateway => cases tunExists <;> cases default6 <;> exact rfl

theorem fallible_intoTunnel :
    fallible (intoTunnel bypassCgroup) = if bypassCgroup.isSome then 3 else 2 := by
  cases bypassCgroup with
  | none => rfl
  | some cgroup => rfl

/-- The rules that the steps before the servers add. -/
def pathRules (default6 : Bool) : List PolicyRule :=
  [dnsRule, ⟨.v4, none, xrayDialMark, physTable⟩, ⟨.v4, none, bypassMark, physTable⟩] ++
    if default6 then
      [⟨.v6, none, xrayDialMark, physTable⟩, ⟨.v6, none, bypassMark, physTable⟩]
    else []

theorem added_physicalPath :
    (commands (physicalPath around gateway iface)).filterMap Command.added =
      pathRules (detectDefaultRoute6 around.defaults6).isSome := by
  rw [physicalPath]
  generalize detectDefaultRoute6 around.defaults6 = default6
  generalize around.tunExists = tunExists
  cases gateway with
  | none => cases tunExists <;> cases default6 <;> exact rfl
  | some gateway => cases tunExists <;> cases default6 <;> exact rfl

variable {around gateway iface servers bypassCgroup}

theorem places4 : ∀ server ∈ routed4 gateway iface servers, ∃ address,
    server.1 = .v4 address ∧
      readCommand server.2 =
        some (.replaceRoute (serverKey server.1) ⟨.unicast, gateway, some iface⟩) := by
  intro server member
  rcases List.mem_map.1 member with ⟨address, _, rfl⟩
  exact ⟨address, rfl, command_serverRoute gateway iface address⟩

theorem places6 : ∀ server ∈ routed6 around servers, ∃ address route,
    server.1 = .v6 address ∧
      readCommand server.2 = some (.replaceRoute (serverKey server.1) route) := by
  intro server member
  rcases List.mem_map.1 member with ⟨⟨address, arguments⟩, within, rfl⟩
  rw [routedServers6] at within
  split at within
  next => cases within
  next gateway6 iface6 _ =>
    rcases List.mem_map.1 within with ⟨_, _, same⟩
    cases same
    exact ⟨_, _, rfl, command_serverRoute6 gateway6 iface6 _⟩

/-- What leads everything into the tunnel, or nowhere. -/
def tunnelCommands : List Command :=
  [.replaceRoute ⟨.v4, "main", "0.0.0.0/1"⟩ ⟨.unicast, none, some tunIface⟩,
    .replaceRoute ⟨.v4, "main", "128.0.0.0/1"⟩ ⟨.unicast, none, some tunIface⟩,
    .replaceRoute ⟨.v6, "main", "::/1"⟩ ⟨.blackhole, none, none⟩,
    .replaceRoute ⟨.v6, "main", "8000::/1"⟩ ⟨.blackhole, none, none⟩]

theorem mem_tunnelKeys {key : RouteKey} {route : Route}
    (member : .replaceRoute key route ∈ tunnelCommands) : key ∈ tunnelKeys := by
  simp only [tunnelCommands, List.mem_cons, List.not_mem_nil, or_false,
    Command.replaceRoute.injEq] at member
  rcases member with ⟨rfl, _⟩ | ⟨rfl, _⟩ | ⟨rfl, _⟩ | ⟨rfl, _⟩
  · exact .head _
  · exact .tail _ (.head _)
  · exact .tail _ (.tail _ (.head _))
  · exact .tail _ (.tail _ (.tail _ (.head _)))

theorem commands_placing {pairs : List (IpAddr × List String)} {command : Command}
    (places : ∀ server ∈ pairs, ∃ route,
      readCommand server.2 = some (.replaceRoute (serverKey server.1) route))
    (member : command ∈ commands (pairs.map fun server => .required server.2)) :
    ∃ server ∈ pairs, ∃ route, command = .replaceRoute (serverKey server.1) route := by
  rw [commands, List.filterMap_map, List.mem_filterMap] at member
  rcases member with ⟨server, within, reads⟩
  rcases places server within with ⟨route, placed⟩
  exact ⟨server, within, route, Option.some.inj (reads.symm.trans placed)⟩

theorem commands_intoTunnel :
    commands (intoTunnel bypassCgroup) = tunnelCommands.take 2 := by
  cases bypassCgroup with
  | none => rfl
  | some cgroup => rfl

theorem commands_routeUp : commands (routeUpActions around gateway iface servers bypassCgroup) =
    commands (physicalPath around gateway iface) ++
      commands ((routed4 gateway iface servers).map fun server => .required server.2) ++
      tunnelCommands.take 2 ++
      commands ((routed6 around servers).map fun server => .required server.2) ++
      tunnelCommands.drop 2 := by
  rw [← script_loop4, ← @commands_intoTunnel bypassCgroup]
  simp only [ServerLoop.script, ServerLoop.placing, loop4, loop6, commands_append,
    commands_writeState, List.append_assoc]
  rfl

theorem commands_cases {command : Command}
    (member : command ∈ commands (routeUpActions around gateway iface servers bypassCgroup)) :
    command ∈ commands (physicalPath around gateway iface) ∨
      (∃ server ∈ routed4 gateway iface servers ++ routed6 around servers, ∃ route,
        command = .replaceRoute (serverKey server.1) route) ∨
      command ∈ tunnelCommands := by
  rw [commands_routeUp] at member
  simp only [List.mem_append] at member
  rcases member with (((path | first) | into) | second) | closes
  · exact .inl path
  · rcases commands_placing (fun server here =>
      let ⟨_, _, reads⟩ := places4 server here
      ⟨_, reads⟩) first with ⟨server, within, route, isRoute⟩
    exact .inr (.inl ⟨server, List.mem_append_left _ within, route, isRoute⟩)
  · exact .inr (.inr (List.mem_of_mem_take into))
  · rcases commands_placing (fun server here =>
      let ⟨_, route, _, reads⟩ := places6 server here
      ⟨route, reads⟩) second with ⟨server, within, route, isRoute⟩
    exact .inr (.inl ⟨server, List.mem_append_right _ within, route, isRoute⟩)
  · exact .inr (.inr (List.mem_of_mem_drop closes))

theorem commands_physicalPath {command : Command}
    (member : command ∈ commands (physicalPath around gateway iface)) :
    lasting command = true ∧ laysInMain command = false := by
  rcases List.mem_filterMap.1 member with ⟨action, within, isCommand⟩
  have holds := physicalPath_onPath around gateway iface action within
  simp only [onPath, isCommand, Option.all_some, Bool.and_eq_true, Bool.not_eq_true'] at holds
  exact holds.1.2

theorem not_mem_physicalPath {key : RouteKey} {route : Route} (inMain : key.table = "main") :
    .replaceRoute key route ∉ commands (physicalPath around gateway iface) := by
  intro member
  have outside := (commands_physicalPath member).2
  rw [laysInMain, inMain] at outside
  cases outside

theorem serverKey_table (address : IpAddr) : (serverKey address).table = "main" := by
  cases address <;> rfl

theorem drops_of_lasting {command : Command} (lasts : lasting command = true)
    (key : RouteKey) : command.drops key = false := by
  cases command with
  | deleteRoute other dev => cases lasts
  | flushTable family table => cases lasts
  | _ => rfl

theorem routeUp_keeps : ∀ command ∈
    commands (routeUpActions around gateway iface servers bypassCgroup),
    ∀ key, command.drops key = false := by
  intro command member key
  rcases commands_cases member with path | ⟨server, _, route, rfl⟩ | into
  · exact drops_of_lasting (commands_physicalPath path).1 key
  · rfl
  · have lasts : (tunnelCommands.all lasting) = true := by decide
    exact drops_of_lasting (List.all_eq_true.1 lasts command into) key

theorem targets_physicalPath {path : String}
    (member : path ∈ targets (physicalPath around gateway iface)) :
    path = rpState ∨ path = rpAll := by
  rcases List.mem_filterMap.1 member with ⟨action, within, writes⟩
  have holds := physicalPath_onPath around gateway iface action within
  simp only [onPath, writes, Option.all_some, Bool.and_eq_true, Bool.or_eq_true, beq_iff_eq]
    at holds
  exact holds.2

theorem targets_intoTunnel : targets (intoTunnel bypassCgroup) = [] := by
  cases bypassCgroup with
  | none => rfl
  | some cgroup => rfl

theorem targets_loop6 :
    targets (loop6 around gateway iface servers bypassCgroup).before =
      targets (physicalPath around gateway iface) ++ [serversState] := by
  rw [loop6, targets_append, targets_append, targets_writeState, ServerLoop.targets_placing,
    targets_intoTunnel, List.append_nil]

theorem targets_routeUp : targets (routeUpActions around gateway iface servers bypassCgroup) =
    targets (physicalPath around gateway iface) ++ [serversState, servers6State] := by
  rw [← script_loop6, ServerLoop.script, targets_append, targets_append, targets_writeState,
    ServerLoop.placing, ServerLoop.targets_placing, targets_loop6, List.append_nil,
    List.append_assoc]
  rfl

theorem not_mem_targets_physicalPath {path : String} (notRpState : path ≠ rpState)
    (notRpAll : path ≠ rpAll) : path ∉ targets (physicalPath around gateway iface) := by
  intro member
  rcases targets_physicalPath member with isRpState | isRpAll
  · exact notRpState isRpState
  · exact notRpAll isRpAll

theorem ipv4_mem_downCommands {files : String → Option String} {addresses : List IpAddr}
    {address : Ipv4Addr} (written : files serversState = some (serverLines addresses))
    (member : .v4 address ∈ addresses) :
    .deleteRoute (serverKey (.v4 address)) none ∈ downCommands files := by
  rw [downCommands, recorded_serverLines written]
  exact List.mem_append_right _ (List.mem_map.2 ⟨_, List.mem_map_of_mem member, rfl⟩)

theorem ipv6_mem_downCommands {files : String → Option String} {addresses : List IpAddr}
    {address : Ipv6Addr} (written : files servers6State = some (serverLines addresses))
    (member : .v6 address ∈ addresses) :
    .deleteRoute (serverKey (.v6 address)) none ∈ downCommands files := by
  have undone : .deleteRoute (serverKey (.v6 address)) none ∈
      (recorded files servers6State).map fun ip =>
        Command.deleteRoute ⟨.v6, "main", ip ++ "/128"⟩ none := by
    rw [recorded_serverLines written]
    exact List.mem_map.2 ⟨_, List.mem_map_of_mem member, rfl⟩
  exact List.mem_append_left _ (List.mem_append_left _ (List.mem_append_left _
    (List.mem_append_left _ (List.mem_append_right _ undone))))

theorem drops_flushTable {family : Family} {table : String} (address : IpAddr)
    (other : table ≠ "main") :
    Command.drops (serverKey address) (.flushTable family table) = false := by
  rw [Command.drops, serverKey_table, decide_eq_false other.symm, Bool.and_false]

theorem drops_tunnelKey {key : RouteKey} {dev : Option String} (address : IpAddr)
    (isTunnel : key ∈ tunnelKeys) :
    Command.drops (serverKey address) (.deleteRoute key dev) = false :=
  decide_eq_false fun same => serverKey_not_mem_tunnelKeys address (same ▸ isTunnel)

/-- A rollback takes a server's route away only for an address in a state file. -/
theorem drops_downCommands {files : String → Option String} {command : Command}
    {address : IpAddr} (pins : files bypassPinsState = none)
    (member : command ∈ downCommands files)
    (drops : command.drops (serverKey address) = true) :
    (∃ ip ∈ recorded files servers6State, serverKey address = ⟨.v6, "main", ip ++ "/128"⟩) ∨
      ∃ ip ∈ recorded files serversState, serverKey address = ⟨.v4, "main", ip ++ "/32"⟩ := by
  have dns : dnsTable ≠ "main" := by decide +kernel
  have phys : physTable ≠ "main" := by decide +kernel
  simp only [downCommands, recorded_of_none pins, List.mem_append, List.mem_map, List.map_nil,
    List.not_mem_nil, or_false, List.mem_cons] at member
  rcases member with (((fixed | ⟨ip, isRecorded, rfl⟩) | mark) | flush) | ⟨ip, isRecorded, rfl⟩
  · rcases fixed with rfl | rfl | rfl | rfl | rfl | rfl
    · rw [drops_tunnelKey address (.head _)] at drops
      cases drops
    · rw [drops_tunnelKey address (.tail _ (.head _))] at drops
      cases drops
    · cases drops
    · rw [drops_flushTable address dns] at drops
      cases drops
    · rw [drops_tunnelKey address (.tail _ (.tail _ (.head _)))] at drops
      cases drops
    · rw [drops_tunnelKey address (.tail _ (.tail _ (.tail _ (.head _))))] at drops
      cases drops
  · exact .inl ⟨ip, isRecorded, (of_decide_eq_true drops).symm⟩
  · simp only [markDeletions, List.mem_flatMap, List.mem_replicate] at mark
    rcases mark with ⟨mark, _, family, _, _, rfl⟩
    cases drops
  · rcases flush with rfl | rfl
    · rw [drops_flushTable address phys] at drops
      cases drops
    · rw [drops_flushTable address phys] at drops
      cases drops
  · exact .inr ⟨ip, isRecorded, (of_decide_eq_true drops).symm⟩

theorem sound_loop4 : (loop4 around gateway iface servers bypassCgroup).Sound where
  places server member := by
    rcases places4 server member with ⟨address, _, reads⟩
    exact ⟨_, reads⟩
  unlaid server member route := not_mem_physicalPath (serverKey_table server.1)
  unwrittenBefore :=
    have notRpState : serversState ≠ rpState := by decide +kernel
    have notRpAll : serversState ≠ rpAll := by decide +kernel
    not_mem_targets_physicalPath notRpState notRpAll
  unwrittenAfter := by
    have other : serversState ∉ [servers6State] := by decide +kernel
    rw [loop4, targets_append, targets_append, targets_writeState, targets_intoTunnel,
      ServerLoop.placing, ServerLoop.targets_placing]
    exact other
  undone files written server member := by
    rcases places4 server member with ⟨address, isV4, _⟩
    rw [isV4]
    exact ipv4_mem_downCommands written (isV4 ▸ List.mem_map_of_mem member)
  unknown files absent pins server member command isDown := by
    rcases places4 server member with ⟨address, isV4, _⟩
    have unrecorded : recorded files serversState = [] := recorded_of_none absent
    rw [isV4, ← Bool.not_eq_true]
    intro drops
    rcases drops_downCommands pins isDown drops with ⟨ip, _, same⟩ | ⟨ip, isRecorded, _⟩
    · cases same
    · rw [unrecorded] at isRecorded
      cases isRecorded

theorem sound_loop6 : (loop6 around gateway iface servers bypassCgroup).Sound where
  places server member := by
    rcases places6 server member with ⟨address, route, _, reads⟩
    exact ⟨_, reads⟩
  unlaid server member route := by
    rcases places6 server member with ⟨address, _, isV6, _⟩
    rw [loop6, commands_append, commands_append, commands_writeState, commands_intoTunnel,
      List.mem_append, List.mem_append, not_or, not_or]
    refine ⟨⟨not_mem_physicalPath (serverKey_table server.1), ?_⟩, ?_⟩
    · intro placed
      rcases commands_placing (fun server here =>
        let ⟨_, _, reads⟩ := places4 server here
        ⟨_, reads⟩) placed with ⟨other, within, _, same⟩
      rcases places4 other within with ⟨address, isV4, _⟩
      rw [isV4, isV6] at same
      cases same
    · exact fun into => serverKey_not_mem_tunnelKeys _ (mem_tunnelKeys (List.mem_of_mem_take into))
  unwrittenBefore := by
    have notRpState : servers6State ≠ rpState := by decide +kernel
    have notRpAll : servers6State ≠ rpAll := by decide +kernel
    have other : servers6State ∉ [serversState] := by decide +kernel
    rw [targets_loop6, List.mem_append, not_or]
    exact ⟨not_mem_targets_physicalPath notRpState notRpAll, other⟩
  unwrittenAfter := List.not_mem_nil
  undone files written server member := by
    rcases places6 server member with ⟨address, _, isV6, _⟩
    rw [isV6]
    exact ipv6_mem_downCommands written (isV6 ▸ List.mem_map_of_mem member)
  unknown files absent pins server member command isDown := by
    rcases places6 server member with ⟨address, _, isV6, _⟩
    have unrecorded : recorded files servers6State = [] := recorded_of_none absent
    rw [isV6, ← Bool.not_eq_true]
    intro drops
    rcases drops_downCommands pins isDown drops with ⟨ip, isRecorded, _⟩ | ⟨ip, _, same⟩
    · rw [unrecorded] at isRecorded
      cases isRecorded
    · cases same

end Script

/-! ## What a failure leaves -/

/-- Nothing stands of what a rollback has to take back. -/
structure Clear (servers : List IpAddr) (network : Network) : Prop where
  servers : ∀ address ∈ servers, network.routes (serverKey address) = none
  tunnel : ∀ key ∈ tunnelKeys, network.routes key = none
  marks : ∀ rule ∈ network.rules, rule.fwmark ≠ xrayDialMark ∧ rule.fwmark ≠ bypassMark

/-- A machine on which the helper has laid nothing. -/
structure Fresh (servers : List IpAddr) (machine : Machine) : Prop where
  clear : Clear servers machine.network
  dns : dnsRule ∉ machine.network.rules
  files : ∀ path ∈ [serversState, servers6State, bypassPinsState], machine.files path = none

/-- The step that fails lays a server's route, and not the first one of its family. -/
def StopsAmongServers (around : Surroundings) (servers : List IpAddr)
    (bypassCgroup : Option String) (remaining : Nat) : Prop :=
  let first := if (detectDefaultRoute6 around.defaults6).isSome then 20 else 14
  let first6 := first + (ipv4Servers servers).length + if bypassCgroup.isSome then 3 else 2
  first < remaining ∧ remaining < first + (ipv4Servers servers).length ∨
    first6 < remaining ∧ remaining < first6 + (routedServers6 around servers).length

section Failure

variable {around : Surroundings} {gateway : Option String} {iface complaint error : String}
variable {servers : List IpAddr} {bypassCgroup : Option String}
variable {machine reached left : Machine} {done rest : List Action} {action : Action}

theorem added_routeUp :
    (commands (routeUpActions around gateway iface servers bypassCgroup)).filterMap
      Command.added = pathRules (detectDefaultRoute6 around.defaults6).isSome := by
  have places4 : (commands ((routed4 gateway iface servers).map
      fun server => .required server.2)).filterMap Command.added = [] := by
    rw [List.filterMap_eq_nil_iff]
    intro command member
    rcases commands_placing (fun server here =>
      let ⟨_, _, reads⟩ := places4 server here
      ⟨_, reads⟩) member with ⟨_, _, _, rfl⟩
    rfl
  have places6 : (commands ((routed6 around servers).map
      fun server => .required server.2)).filterMap Command.added = [] := by
    rw [List.filterMap_eq_nil_iff]
    intro command member
    rcases commands_placing (fun server here =>
      let ⟨_, route, _, reads⟩ := places6 server here
      ⟨route, reads⟩) member with ⟨_, _, _, rfl⟩
    rfl
  have into : (tunnelCommands.take 2).filterMap Command.added = [] := rfl
  have closes : (tunnelCommands.drop 2).filterMap Command.added = [] := rfl
  simp only [commands_routeUp, List.filterMap_append, added_physicalPath, places4, into, places6,
    closes, List.append_nil]

theorem accepted_placing {pairs : List (IpAddr × List String)}
    (places : ∀ server ∈ pairs, ∃ route,
      readCommand server.2 = some (.replaceRoute (serverKey server.1) route)) :
    ∀ action ∈ pairs.map fun server => .required server.2, accepted action = true := by
  intro action member
  rcases List.mem_map.1 member with ⟨server, within, rfl⟩
  rcases places server within with ⟨route, reads⟩
  rw [accepted, reads]
  rfl

theorem accepted_routeUp : ∀ action ∈ routeUpActions around gateway iface servers bypassCgroup,
    accepted action = true := by
  intro action member
  have path : ∀ action ∈ physicalPath around gateway iface, accepted action = true := by
    intro action member
    have holds := physicalPath_onPath around gateway iface action member
    simp only [onPath, Bool.and_eq_true] at holds
    exact holds.1.1
  have into : ∀ action ∈ intoTunnel bypassCgroup, accepted action = true := by
    rw [← List.all_eq_true]
    cases bypassCgroup with
    | none => rfl
    | some cgroup => rfl
  have closes : ∀ action ∈ closing, accepted action = true := by decide
  rw [← script_loop4] at member
  simp only [ServerLoop.script, ServerLoop.placing, loop4, loop6, List.mem_append,
    List.mem_cons] at member
  rcases member with (before | first) | rfl | (between | second) | rfl | after
  · exact path action before
  · refine accepted_placing ?_ action first
    intro server here
    rcases places4 server here with ⟨_, _, reads⟩
    exact ⟨_, reads⟩
  · rfl
  · exact into action between
  · refine accepted_placing ?_ action second
    intro server here
    rcases places6 server here with ⟨_, route, _, reads⟩
    exact ⟨_, reads⟩
  · rfl
  · exact closes action after

theorem Fresh.file (fresh : Fresh servers machine) {path : String}
    (isState : path ∈ [serversState, servers6State, bypassPinsState]) :
    machine.files path = none :=
  fresh.files path isState

/-- No command of the script is refused by a fresh machine. -/
theorem run_accepted {arguments : List String} (fresh : Fresh servers machine)
    (parts : routeUpActions around gateway iface servers bypassCgroup =
      done ++ .required arguments :: rest)
    (performed : Performed done machine reached) : run arguments reached.network ≠ none := by
  have member : .required arguments ∈
      routeUpActions around gateway iface servers bypassCgroup :=
    parts ▸ List.mem_append_right _ (.head _)
  have isAccepted := accepted_routeUp _ member
  rw [accepted, Option.any_eq_true] at isAccepted
  rcases isAccepted with ⟨command, reads, sure⟩
  rw [Routing.run, reads, Option.bind_some]
  rw [Bool.or_eq_true, beq_iff_eq] at sure
  rcases sure with isSure | rfl
  · rcases execute_of_sure isSure reached.network with ⟨after, executes⟩
    rw [executes]
    exact Option.some_ne_none _
  · -- the script adds the rule for DNS once, so it is not there yet
    have once : ((commands (routeUpActions around gateway iface servers
        bypassCgroup)).filterMap Command.added).countP (· == dnsRule) = 1 := by
      rw [added_routeUp]
      cases (detectDefaultRoute6 around.defaults6).isSome with
      | false => decide +kernel
      | true => decide +kernel
    have split : commands (routeUpActions around gateway iface servers bypassCgroup) =
        commands done ++ .addRule dnsRule :: commands rest := by
      rw [parts, commands_append]
      exact congrArg _ (List.filterMap_cons_some reads)
    rw [split, List.filterMap_append, List.countP_append, countP_added_cons] at once
    have counted : (Command.addRule dnsRule).added.toList.countP (· == dnsRule) = 1 := by
      decide +kernel
    have absent : (List.foldl executeQuiet machine.network (commands done)).rules.countP
        (· == dnsRule) ≤ _ := countP_foldl (commands done) machine.network
    rw [← performed.network] at absent
    have initial : machine.network.rules.countP (· == dnsRule) = 0 := by
      rw [List.countP_eq_zero]
      intro rule here same
      exact fresh.dns (eq_of_beq same ▸ here)
    have unlaid : dnsRule ∉ reached.network.rules := by
      intro here
      have positive : 0 < reached.network.rules.countP (· == dnsRule) :=
        List.countP_pos_iff.2 ⟨dnsRule, here, beq_self_eq_true _⟩
      omega
    simp [execute, unlaid]

theorem files_reached (fresh : Fresh servers machine)
    (parts : routeUpActions around gateway iface servers bypassCgroup = done ++ action :: rest)
    (performed : Performed done machine reached) : reached.files bypassPinsState = none := by
  have notRpState : bypassPinsState ≠ rpState := by decide +kernel
  have notRpAll : bypassPinsState ≠ rpAll := by decide +kernel
  have notServers : bypassPinsState ∉ [serversState, servers6State] := by decide +kernel
  have unwritten :
      bypassPinsState ∉ targets (routeUpActions around gateway iface servers bypassCgroup) := by
    rw [targets_routeUp, List.mem_append, not_or]
    exact ⟨not_mem_targets_physicalPath notRpState notRpAll, notServers⟩
  rw [parts, targets_append, List.mem_append, not_or] at unwritten
  rw [performed.files _ unwritten.1]
  exact fresh.files _ (by simp)

/-- Whatever leads into the tunnel goes with it. -/
theorem tunnel_cleared (fresh : Fresh servers machine)
    (parts : routeUpActions around gateway iface servers bypassCgroup = done ++ action :: rest)
    (performed : Performed done machine reached) :
    ∀ key ∈ tunnelKeys, (routeDown false reached).network.routes key = none := by
  have laid : ∀ key ∈ tunnelKeys, ∀ route, reached.network.routes key = some route →
      .replaceRoute key route ∈ tunnelCommands := by
    intro key isTunnel route stands
    have inMain : ∀ key ∈ tunnelKeys, key.table = "main" := by decide +kernel
    rw [performed.network] at stands
    rcases routes_foldl _ _ stands with initial | put
    · rw [fresh.clear.tunnel key isTunnel] at initial
      cases initial
    · have member : .replaceRoute key route ∈
          commands (routeUpActions around gateway iface servers bypassCgroup) := by
        rw [parts, commands_append]
        exact List.mem_append_left _ put
      rcases commands_cases member with path | ⟨server, _, _, same⟩ | into
      · exact absurd path (not_mem_physicalPath (inMain key isTunnel))
      · cases same
        exact absurd isTunnel (serverKey_not_mem_tunnelKeys server.1)
      · exact into
  intro key isTunnel
  rw [network_routeDown]
  refine routes_foldl_eq_none (tunnelKey_mem_downCommands reached.files key isTunnel)
    (fun route stands => ?_) fun route => replaceRoute_not_mem_downCommands _ key route
  have into := laid key isTunnel route stands
  simp only [tunnelCommands, List.mem_cons, List.not_mem_nil, or_false,
    Command.replaceRoute.injEq] at into
  rcases into with ⟨rfl, rfl⟩ | ⟨rfl, rfl⟩ | ⟨rfl, rfl⟩ | ⟨rfl, rfl⟩
  · rfl
  · rfl
  · rfl
  · rfl

/-- No rule with one of the marks stays. -/
theorem marks_cleared (fresh : Fresh servers machine)
    (parts : routeUpActions around gateway iface servers bypassCgroup = done ++ action :: rest)
    (performed : Performed done machine reached) :
    ∀ rule ∈ (routeDown false reached).network.rules,
      rule.fwmark ≠ xrayDialMark ∧ rule.fwmark ≠ bypassMark := by
  have gone (family : Family) {mark : String} (isMark : mark = xrayDialMark ∨ mark = bypassMark) :
      (routeDown false reached).network.rules.countP
        (PolicyRule.selected family none mark none) = 0 := by
    have initial : machine.network.rules.countP
        (PolicyRule.selected family none mark none) = 0 := by
      rw [List.countP_eq_zero]
      intro rule here isSelected
      have unmarked := fresh.clear.marks rule here
      simp only [PolicyRule.selected, Bool.and_eq_true, decide_eq_true_eq] at isSelected
      rcases isMark with rfl | rfl
      · exact unmarked.1 isSelected.1.2
      · exact unmarked.2 isSelected.1.2
    have few : ((commands (routeUpActions around gateway iface servers
        bypassCgroup)).filterMap Command.added).countP
          (PolicyRule.selected family none mark none) ≤ 1 := by
      rw [added_routeUp]
      rcases isMark with rfl | rfl
      · cases (detectDefaultRoute6 around.defaults6).isSome <;> cases family <;> decide +kernel
      · cases (detectDefaultRoute6 around.defaults6).isSome <;> cases family <;> decide +kernel
    have addsNone := added_downCommands reached.files
    have deletions := count_downCommands reached.files family isMark
    have stacked : (List.foldl executeQuiet machine.network (commands done)).rules.countP
        (PolicyRule.selected family none mark none) ≤ _ :=
      countP_foldl (commands done) machine.network
    have taken : (List.foldl executeQuiet reached.network
        (downCommands reached.files)).rules.countP (PolicyRule.selected family none mark none) ≤
          _ := countP_foldl_deleteRule reached.network addsNone
    rw [← performed.network] at stacked
    rw [parts, commands_append, List.filterMap_append, List.countP_append] at few
    rw [network_routeDown]
    omega
  intro rule member
  constructor
  · intro isDial
    have absent := List.countP_eq_zero.1 (gone rule.family (.inl rfl)) rule member
    exact absent (by simp [PolicyRule.selected, isDial])
  · intro isBypass
    have absent := List.countP_eq_zero.1 (gone rule.family (.inr rfl)) rule member
    exact absent (by simp [PolicyRule.selected, isBypass])

theorem mem_of_mem_routed4 {server : IpAddr × List String}
    (member : server ∈ routed4 gateway iface servers) : server.1 ∈ servers := by
  rcases List.mem_map.1 member with ⟨address, within, rfl⟩
  rcases List.mem_filterMap.1 within with ⟨other, here, isV4⟩
  cases other with
  | v4 other =>
      cases isV4
      exact here
  | v6 other => cases isV4

theorem mem_of_mem_routed6 {server : IpAddr × List String}
    (member : server ∈ routed6 around servers) : server.1 ∈ servers := by
  rcases List.mem_map.1 member with ⟨⟨address, arguments⟩, routed, rfl⟩
  rw [routedServers6] at routed
  split at routed
  next => cases routed
  next =>
    rcases List.mem_map.1 routed with ⟨_, within, same⟩
    cases same
    rcases List.mem_filterMap.1 within with ⟨other, here, isV6⟩
    cases other with
    | v4 other => cases isV6
    | v6 other =>
        cases isV6
        exact here

theorem exists_routed4 {address : Ipv4Addr} (member : .v4 address ∈ servers) :
    ∃ server ∈ routed4 gateway iface servers, server.1 = .v4 address :=
  ⟨_, List.mem_map_of_mem (List.mem_filterMap.2 ⟨_, member, rfl⟩), rfl⟩

/-- A server without a route was never given one. -/
theorem cleared_of_not_routed6 (fresh : Fresh servers machine)
    (parts : routeUpActions around gateway iface servers bypassCgroup = done ++ action :: rest)
    (performed : Performed done machine reached) {address : Ipv6Addr}
    (member : .v6 address ∈ servers)
    (unrouted : ∀ server ∈ routed6 around servers, server.1 ≠ .v6 address) :
    (routeDown false reached).network.routes (serverKey (.v6 address)) = none := by
  cases stands : (routeDown false reached).network.routes (serverKey (.v6 address)) with
  | none => rfl
  | some route =>
      exfalso
      rcases stands_routeDown performed stands with initial | put
      · rw [fresh.clear.servers _ member] at initial
        cases initial
      · have within : .replaceRoute (serverKey (.v6 address)) route ∈
            commands (routeUpActions around gateway iface servers bypassCgroup) := by
          rw [parts, commands_append]
          exact List.mem_append_left _ put
        rcases commands_cases within with path | ⟨server, routed, _, same⟩ | into
        · exact not_mem_physicalPath (serverKey_table _) path
        · rw [Command.replaceRoute.injEq] at same
          have isServer : server.1 = .v6 address := (serverKey_injective same.1).symm
          rcases List.mem_append.1 routed with v4 | v6
          · rcases places4 server v4 with ⟨other, isV4, _⟩
            cases isServer.symm.trans isV4
          · exact unrouted server v6 isServer
        · exact serverKey_not_mem_tunnelKeys _ (mem_tunnelKeys into)

theorem fallible_loop6 :
    fallible (loop6 around gateway iface servers bypassCgroup).before =
      (if (detectDefaultRoute6 around.defaults6).isSome then 20 else 14) +
        (ipv4Servers servers).length + if bypassCgroup.isSome then 3 else 2 := by
  have into (path text : String) :
      fallible (.writeState path text :: intoTunnel bypassCgroup) =
        if bypassCgroup.isSome then 3 else 2 := by
    cases bypassCgroup with
    | none => rfl
    | some cgroup => rfl
  rw [loop6, fallible_append, fallible_append, fallible_physicalPath,
    ServerLoop.fallible_placing, routed4, List.length_map, into]

/-- The servers' routes are gone when those of the two loops are. -/
theorem servers_cleared_iff (fresh : Fresh servers machine)
    (parts : routeUpActions around gateway iface servers bypassCgroup = done ++ action :: rest)
    (performed : Performed done machine reached) :
    (∀ address ∈ servers, (routeDown false reached).network.routes (serverKey address) = none) ↔
      (∀ server ∈ routed4 gateway iface servers,
        (routeDown false reached).network.routes (serverKey server.1) = none) ∧
      ∀ server ∈ routed6 around servers,
        (routeDown false reached).network.routes (serverKey server.1) = none := by
  constructor
  · intro clear
    exact ⟨fun server member => clear _ (mem_of_mem_routed4 member),
      fun server member => clear _ (mem_of_mem_routed6 member)⟩
  · rintro ⟨clear4, clear6⟩ address member
    cases address with
    | v4 address =>
        rcases exists_routed4 member with ⟨server, routed, same⟩
        exact same ▸ clear4 server routed
    | v6 address =>
        by_cases routed : ∃ server ∈ routed6 around servers, server.1 = .v6 address
        · rcases routed with ⟨server, routed, same⟩
          exact same ▸ clear6 server routed
        · refine cleared_of_not_routed6 fresh parts performed member ?_
          exact fun server within same => routed ⟨server, within, same⟩

theorem clear_routeDown_iff (fresh : Fresh servers machine)
    (parts : routeUpActions around gateway iface servers bypassCgroup = done ++ action :: rest)
    (mayFail : action.fallible = true)
    (ran : Script.run (perform complaint) done machine = (.ok (), reached)) :
    Clear servers (routeDown false reached).network ↔
      ¬StopsAmongServers around servers bypassCgroup (fallible done) := by
  have performed := performed_run ran
  have pins := files_reached fresh parts performed
  have first := sound_loop4.clear_iff (by rw [script_loop4]; exact routeUp_keeps)
    ((script_loop4 ..).trans parts) mayFail
    (fun server member => fresh.clear.servers _ (mem_of_mem_routed4 member))
    (fresh.files serversState (by simp)) pins ran
  have second := sound_loop6.clear_iff (by rw [script_loop6]; exact routeUp_keeps)
    ((script_loop6 ..).trans parts) mayFail
    (fun server member => fresh.clear.servers _ (mem_of_mem_routed6 member))
    (fresh.files servers6State (by simp)) pins ran
  have length4 : (loop4 around gateway iface servers bypassCgroup).servers.length =
      (ipv4Servers servers).length := List.length_map _
  have length6 : (loop6 around gateway iface servers bypassCgroup).servers.length =
      (routedServers6 around servers).length := List.length_map _
  have before4 : fallible (loop4 around gateway iface servers bypassCgroup).before =
      if (detectDefaultRoute6 around.defaults6).isSome then 20 else 14 :=
    fallible_physicalPath ..
  rw [length4, before4] at first
  rw [length6, fallible_loop6] at second
  rw [StopsAmongServers, not_or, ← first, ← second, loop4, loop6,
    ← servers_cleared_iff fresh parts performed]
  constructor
  · exact fun clear => clear.servers
  · exact fun clear =>
      ⟨clear, tunnel_cleared fresh parts performed, marks_cleared fresh parts performed⟩

/-- After a failure the helper's routes and rules are gone unless the step that failed lays
a server's route and is not the first to do so for its family. -/
theorem rollback_clear_iff (fresh : Fresh servers machine)
    (failed : routeUp around servers bypassCgroup machine = (.error error, left)) :
    Clear servers left.network ↔
      ¬((detectDefaultRoute around.defaults).toBool = true ∧
        StopsAmongServers around servers bypassCgroup machine.remaining) := by
  rw [routeUp] at failed
  cases route : detectDefaultRoute around.defaults with
  | error message =>
      rw [route] at failed
      cases failed
      exact iff_of_true fresh.clear fun stops => Bool.false_ne_true stops.1
  | ok found =>
      rcases found with ⟨gateway, iface⟩
      rw [route] at failed
      dsimp only at failed
      cases outcome : Script.run (perform around.complaint)
          (routeUpActions around gateway iface servers bypassCgroup) machine with
      | mk result stopped =>
          rw [outcome] at failed
          cases result with
          | ok done => cases failed
          | error message =>
              cases failed
              rcases Script.exists_of_run_error outcome with
                ⟨done, action, rest, reached, parts, ran, stops⟩
              rcases perform_failed stops with ⟨rfl, mayFail, why⟩
              have performed := performed_run ran
              have spent : stopped.remaining = 0 := by
                rcases why with spent | ⟨arguments, rfl, refused⟩
                · exact spent
                · exact absurd refused (run_accepted fresh parts performed)
              have count := performed.remaining
              rw [spent, Nat.zero_add] at count
              rw [clear_routeDown_iff fresh parts mayFail ran, count]
              simp [Except.toBool]

end Failure

/-- A machine with one network card. -/
def wired : Surroundings where
  defaults := "default via 192.168.1.1 dev eth0 proto dhcp metric 100\n"
  defaults6 := none
  tunExists := true
  complaint := "RTNETLINK answers: Network is unreachable"

def twoServers : List IpAddr := [.v4 ⟨192, 0, 2, 1⟩, .v4 ⟨192, 0, 2, 2⟩]

def untouched (remaining : Nat) : Machine where
  network := ⟨[], fun _ => none⟩
  files _ := none
  bypass := false
  remaining := remaining

theorem fresh_untouched {servers : List IpAddr} (remaining : Nat) :
    Fresh servers (untouched remaining) where
  clear := ⟨fun _ _ => rfl, fun _ _ => rfl, fun _ member => nomatch member⟩
  dns := List.not_mem_nil
  files _ _ := rfl

/-- Everything is gone when the first server's route fails. -/
theorem rollback_clear_first_server :
    Clear twoServers (routeUp wired twoServers none (untouched 14)).2.network := by
  have failed : (routeUp wired twoServers none (untouched 14)).1 =
      .error ("ip route replace 192.0.2.1/32 via 192.168.1.1 dev eth0: " ++
        "RTNETLINK answers: Network is unreachable") := by
    decide +kernel
  refine (rollback_clear_iff (fresh_untouched 14) (Prod.ext failed rfl)).2 ?_
  rintro ⟨_, stops⟩
  revert stops
  unfold StopsAmongServers
  decide +kernel

/-- When the second server's route fails, the first one's stays. -/
theorem rollback_keeps_first_server :
    Fresh twoServers (untouched 15) ∧
      (routeUp wired twoServers none (untouched 15)).1.toBool = false ∧
      (routeUp wired twoServers none (untouched 15)).2.network.routes
        (serverKey (.v4 ⟨192, 0, 2, 1⟩)) = some ⟨.unicast, some "192.168.1.1", some "eth0"⟩ :=
  ⟨fresh_untouched 15, by decide +kernel, by decide +kernel⟩

end Varmlen.Helper
