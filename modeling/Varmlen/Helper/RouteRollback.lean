import Varmlen.Helper.Routes
import Varmlen.Foundation.TextParts

/-!
# The rollback of the tunnel's routing

When a step of `route_up` fails, `route_down` takes back what it finds in the state files.
The routes of a loop over servers are in a state file only when the loop is over.
-/

namespace Varmlen.Helper

open Foundation Foundation.Effect Foundation.Ip Foundation.Routing Foundation.Text

/-! ## Steps -/

def Action.command : Action → Option Command
  | .required arguments => readCommand arguments
  | .quiet arguments => readCommand arguments
  | _ => none

/-- The file that a step writes. -/
def Action.target : Action → Option String
  | .writeState path _ => some path
  | .saveRpFilter => some rpState
  | .writeFile path _ => some path
  | _ => none

def Action.fallible : Action → Bool
  | .required _ => true
  | .writeFile _ _ => true
  | .armBypass => true
  | _ => false

/-- How many of the steps may fail. -/
def fallible (actions : List Action) : Nat := actions.countP Action.fallible

/-- The commands that steps run. -/
def commands (actions : List Action) : List Command := actions.filterMap Action.command

/-- The files that steps write. -/
def targets (actions : List Action) : List String := actions.filterMap Action.target

theorem fallible_append (first second : List Action) :
    fallible (first ++ second) = fallible first + fallible second :=
  List.countP_append

theorem commands_append (first second : List Action) :
    commands (first ++ second) = commands first ++ commands second :=
  List.filterMap_append

theorem targets_append (first second : List Action) :
    targets (first ++ second) = targets first ++ targets second :=
  List.filterMap_append

theorem targets_writeState (path text : String) (rest : List Action) :
    targets (.writeState path text :: rest) = path :: targets rest := rfl

theorem commands_writeState (path text : String) (rest : List Action) :
    commands (.writeState path text :: rest) = commands rest := rfl

/-- What steps that succeed do to the machine. -/
structure Performed (actions : List Action) (machine reached : Machine) : Prop where
  network : reached.network = (commands actions).foldl executeQuiet machine.network
  files : ∀ path ∉ targets actions, reached.files path = machine.files path
  remaining : reached.remaining + fallible actions = machine.remaining

section Steps

variable {complaint error : String} {action : Action} {actions more : List Action}
variable {machine reached final : Machine}

theorem Performed.append (first : Performed actions machine reached)
    (second : Performed more reached final) : Performed (actions ++ more) machine final where
  network := by
    rw [commands_append, List.foldl_append, second.network, first.network]
  files path free := by
    rw [targets_append, List.mem_append, not_or] at free
    rw [second.files path free.2, first.files path free.1]
  remaining := by
    rw [← first.remaining, ← second.remaining, fallible_append]
    omega

theorem files_write {path text : String} {network : Network} {bypass : Bool} {remaining : Nat} :
    ∀ other ∉ [path],
      ({ machine.write path text with network, bypass, remaining } : Machine).files other =
        machine.files other :=
  fun _ different => if_neg (different ∘ List.mem_singleton.2)

theorem performed_of_ok (ok : perform complaint action machine = (.ok (), reached)) :
    Performed [action] machine reached := by
  cases action with
  | required arguments =>
      rw [perform] at ok
      split at ok
      next remaining network enough ran =>
        cases ok
        rw [Routing.run, Option.bind_eq_some_iff] at ran
        rcases ran with ⟨command, reads, executes⟩
        refine ⟨?_, fun _ _ => rfl, enough.symm⟩
        simp [commands, Action.command, reads, executeQuiet, executes]
      next => cases ok
  | quiet arguments =>
      cases ok
      exact ⟨foldl_runQuiet [arguments] machine.network, fun _ _ => rfl, rfl⟩
  | writeState path text =>
      cases ok
      exact ⟨rfl, files_write, rfl⟩
  | saveRpFilter =>
      cases ok
      exact ⟨rfl, files_write, rfl⟩
  | writeFile path text =>
      rw [perform] at ok
      split at ok
      next remaining enough =>
        cases ok
        exact ⟨rfl, files_write, enough.symm⟩
      next => cases ok
  | armBypass =>
      rw [perform] at ok
      split at ok
      next remaining enough =>
        cases ok
        exact ⟨rfl, fun _ _ => rfl, enough.symm⟩
      next => cases ok

theorem performed_run (ran : Script.run (perform complaint) actions machine = (.ok (), reached)) :
    Performed actions machine reached := by
  induction actions generalizing machine with
  | nil =>
      cases ran
      exact ⟨rfl, fun _ _ => rfl, rfl⟩
  | cons action rest ih =>
      rw [Script.run] at ran
      cases outcome : perform complaint action machine with
      | mk result left =>
          rw [outcome] at ran
          cases result with
          | error error => cases ran
          | ok done => exact (performed_of_ok outcome).append (ih ran)

/-- A step that fails leaves the machine as it was. -/
theorem perform_failed (failed : perform complaint action machine = (.error error, reached)) :
    reached = machine ∧ action.fallible = true ∧
      (machine.remaining = 0 ∨
        ∃ arguments, action = .required arguments ∧ run arguments machine.network = none) := by
  cases action with
  | required arguments =>
      rw [perform] at failed
      split at failed
      next => cases failed
      next stops =>
        cases failed
        refine ⟨rfl, rfl, ?_⟩
        cases enough : machine.remaining with
        | zero => exact .inl rfl
        | succ more =>
            cases ran : run arguments machine.network with
            | none => exact .inr ⟨arguments, rfl, ran⟩
            | some network => exact absurd ran (stops more network enough)
  | quiet arguments => cases failed
  | writeState path text => cases failed
  | saveRpFilter => cases failed
  | writeFile path text =>
      rw [perform] at failed
      split at failed
      next => cases failed
      next spent =>
        cases failed
        exact ⟨rfl, rfl, .inl spent⟩
  | armBypass =>
      rw [perform] at failed
      split at failed
      next => cases failed
      next spent =>
        cases failed
        exact ⟨rfl, rfl, .inl spent⟩

end Steps

/-! ## Servers -/

def serverKey : IpAddr → RouteKey
  | .v4 address => ⟨.v4, "main", toText (.v4 address) ++ "/32"⟩
  | .v6 address => ⟨.v6, "main", toText (.v6 address) ++ "/128"⟩

/-- The halves of the address spaces. -/
def tunnelKeys : List RouteKey :=
  [⟨.v4, "main", "0.0.0.0/1"⟩, ⟨.v4, "main", "128.0.0.0/1"⟩,
    ⟨.v6, "main", "::/1"⟩, ⟨.v6, "main", "8000::/1"⟩]

theorem append_ne_of_last {text tail other : String}
    (last : tail.toList.getLast? ≠ other.toList.getLast?) (nonempty : tail.toList ≠ []) :
    text ++ tail ≠ other := by
  intro same
  apply last
  rw [← same, String.toList_append, List.getLast?_append_of_ne_nil _ nonempty]

/-- A server's prefix is no half of its address space. -/
theorem serverKey_not_mem_tunnelKeys (address : IpAddr) : serverKey address ∉ tunnelKeys := by
  intro member
  cases address with
  | v4 address =>
      simp only [tunnelKeys, serverKey, List.mem_cons, List.not_mem_nil, or_false,
        RouteKey.mk.injEq, reduceCtorEq, false_and, true_and] at member
      rcases member with same | same
      · exact append_ne_of_last (by decide +kernel) (by decide +kernel) same
      · exact append_ne_of_last (by decide +kernel) (by decide +kernel) same
  | v6 address =>
      simp only [tunnelKeys, serverKey, List.mem_cons, List.not_mem_nil, or_false,
        RouteKey.mk.injEq, reduceCtorEq, false_and, true_and, false_or] at member
      rcases member with same | same
      · exact append_ne_of_last (by decide +kernel) (by decide +kernel) same
      · exact append_ne_of_last (by decide +kernel) (by decide +kernel) same

theorem serverKey_injective : Function.Injective serverKey := by
  intro address other same
  have text : toText address = toText other := by
    cases address with
    | v4 address =>
        cases other with
        | v4 other =>
            rw [serverKey, serverKey, RouteKey.mk.injEq] at same
            exact String.append_left_inj _ |>.1 same.2.2
        | v6 other => cases same
    | v6 address =>
        cases other with
        | v4 other => cases same
        | v6 other =>
            rw [serverKey, serverKey, RouteKey.mk.injEq] at same
            exact String.append_left_inj _ |>.1 same.2.2
  have read := parse_toText address
  rw [text, parse_toText] at read
  exact (Option.some.inj read).symm

theorem command_serverRoute (gateway : Option String) (iface : String) (address : Ipv4Addr) :
    readCommand (serverRoute gateway iface address) =
      some (.replaceRoute (serverKey (.v4 address)) ⟨.unicast, gateway, some iface⟩) := by
  have notThrow : toText (.v4 address) ++ "/32" ≠ "throw" :=
    append_ne_of_last (by decide +kernel) (by decide +kernel)
  have notBlackhole : toText (.v4 address) ++ "/32" ≠ "blackhole" :=
    append_ne_of_last (by decide +kernel) (by decide +kernel)
  have kind (words : List String) := routeKind_of_destination words notThrow notBlackhole
  cases gateway with
  | none => simp [serverRoute, readCommand, readIn, viaWords, kind, readRoute, option, serverKey]
  | some gateway =>
      simp [serverRoute, readCommand, readIn, viaWords, kind, readRoute, option, serverKey]

theorem command_serverRoute6 (gateway6 iface6 : String) (address : Ipv6Addr) :
    readCommand (serverRoute6 gateway6 iface6 address) =
      some (.replaceRoute (serverKey (.v6 address))
        ⟨.unicast, some gateway6, some iface6⟩) := by
  have notThrow : toText (.v6 address) ++ "/128" ≠ "throw" :=
    append_ne_of_last (by decide +kernel) (by decide +kernel)
  have notBlackhole : toText (.v6 address) ++ "/128" ≠ "blackhole" :=
    append_ne_of_last (by decide +kernel) (by decide +kernel)
  have kind (words : List String) := routeKind_of_destination words notThrow notBlackhole
  simp [serverRoute6, readCommand, readIn, kind, readRoute, option, serverKey]

/-! ## State files -/

theorem solid_toText (address : IpAddr) :
    ∀ char ∈ (toText address).toList, isWhitespace char = false := by
  have solid : (addressChars.all fun char => !isWhitespace char) = true := by decide
  intro char member
  rw [toText, String.toList_ofList] at member
  simpa using List.all_eq_true.1 solid char (mem_addressChars member)

theorem toText_ne_empty (address : IpAddr) : toText address ≠ "" := by
  intro empty
  have read := parse_toText address
  have unread : parse "" = none := by decide +kernel
  rw [empty, unread] at read
  cases read

/-- The lines of a text that ends each of them are the pieces it was made of. -/
theorem lines_join {pieces : List String}
    (solid : ∀ piece ∈ pieces, ∀ char ∈ piece.toList, isWhitespace char = false) :
    lines (String.join (pieces.map (· ++ "\n"))) = pieces := by
  have joined : String.join (pieces.map (· ++ "\n")) =
      String.intercalate (String.singleton '\n') (pieces ++ [""]) := by
    rw [← String.toList_inj, String.toList_intercalate]
    induction pieces with
    | nil => rfl
    | cons piece rest ih =>
        have later := ih fun piece member => solid piece (.tail _ member)
        cases rest with
        | nil => simp [List.intercalate, String.join]
        | cons second rest =>
            rw [List.map_cons, String.join_cons, String.toList_append, later]
            simp [List.intercalate_cons_cons]
  have free : ∀ piece ∈ pieces ++ [""], '\n' ∉ piece.toList := by
    intro piece member feed
    rcases List.mem_append.1 member with inside | last
    · have plain := solid piece inside _ feed
      revert plain
      decide
    · rw [List.mem_singleton.1 last] at feed
      cases feed
  have kept : ∀ piece ∈ pieces, withoutCarriageReturn piece = piece := by
    intro piece member
    rw [withoutCarriageReturn, if_neg]
    intro ended
    have isSuffix : ['\r'] <:+ piece.toList := by simpa [endsWith] using ended
    have plain := solid piece member _ (isSuffix.subset (.head _))
    revert plain
    decide
  rw [lines, joined, split_intercalate (by simp) free]
  simp [List.map_congr_left kept]

theorem recorded_serverLines {files : String → Option String} {path : String}
    {addresses : List IpAddr} (written : files path = some (serverLines addresses)) :
    recorded files path = addresses.map toText := by
  have whole : ∀ address, trim (toText address) = toText address :=
    fun address => trim_eq_self (solid_toText address)
  have pieces : serverLines addresses =
      String.join ((addresses.map toText).map (· ++ "\n")) := by
    rw [List.map_map]
    rfl
  rw [recorded, written, Option.getD_some, pieces, lines_join]
  · rw [List.filter_eq_self.2, List.map_map]
    · exact List.map_congr_left fun address _ => whole address
    · intro line member
      rcases List.mem_map.1 member with ⟨address, _, rfl⟩
      rw [whole]
      simpa using toText_ne_empty address
  · intro piece member
    rcases List.mem_map.1 member with ⟨address, _, rfl⟩
    exact solid_toText address

theorem recorded_of_none {files : String → Option String} {path : String}
    (absent : files path = none) : recorded files path = [] := by
  have empty : lines "" = [] := by decide +kernel
  rw [recorded, absent, Option.getD_none, empty]
  rfl

/-! ## Taking back -/

def markDeletions : List Command :=
  [xrayDialMark, bypassMark].flatMap fun mark =>
    [Family.v4, .v6].flatMap fun family =>
      List.replicate 4 (.deleteRule family none mark none)

def pinKey (ip : String) : RouteKey :=
  if contains ip ":" then ⟨.v6, "main", ip ++ "/128"⟩ else ⟨.v4, "main", ip ++ "/32"⟩

/-- The commands of `route_down`, with what it finds in the state files. -/
def downCommands (files : String → Option String) : List Command :=
  [.deleteRoute ⟨.v4, "main", "0.0.0.0/1"⟩ (some tunIface),
    .deleteRoute ⟨.v4, "main", "128.0.0.0/1"⟩ (some tunIface),
    .deleteRule .v4 (some "90") dnsMark (some dnsTable), .flushTable .v4 dnsTable,
    .deleteRoute ⟨.v6, "main", "::/1"⟩ none, .deleteRoute ⟨.v6, "main", "8000::/1"⟩ none] ++
  (recorded files servers6State).map (fun ip => .deleteRoute ⟨.v6, "main", ip ++ "/128"⟩ none) ++
  markDeletions ++
  (recorded files bypassPinsState).map (fun ip => .deleteRoute (pinKey ip) none) ++
  [.flushTable .v4 physTable, .flushTable .v6 physTable] ++
  (recorded files serversState).map (fun ip => .deleteRoute ⟨.v4, "main", ip ++ "/32"⟩ none)

section Down

variable {machine : Machine} {files : String → Option String}

theorem deleteRules_eq {family mark : String} (attempts : Nat) (network : Network) :
    deleteRules family mark attempts network =
      (List.replicate attempts [family, "rule", "del", "fwmark", mark]).foldl runQuiet
        network := by
  induction attempts generalizing network with
  | zero => rfl
  | succ attempts ih =>
      rw [deleteRules]
      cases ran : run [family, "rule", "del", "fwmark", mark] network with
      | none => exact (foldl_replicate_of_refused ran _).symm
      | some left =>
          rw [List.replicate_succ, List.foldl_cons, runQuiet, ran]
          exact ih left

theorem deleteMarkRules_eq (network : Network) :
    deleteMarkRules network = markDeletions.foldl executeQuiet network := by
  simp only [deleteMarkRules, List.foldl_cons, List.foldl_nil, deleteRules_eq, foldl_runQuiet,
    List.filterMap_replicate, ← List.foldl_append]
  rfl

theorem recorded_undoState {path other : String} (undo : String → List String)
    (different : other ≠ path) :
    recorded (undoState path undo machine).files other = recorded machine.files other := by
  have same : (undoState path undo machine).files other = machine.files other :=
    if_neg different
  rw [recorded, recorded, same]

/-- The network when the lines of a state file are taken back by one command each. -/
theorem network_undoState {path : String} {undo : String → List String} {key : String → RouteKey}
    (reads : ∀ ip, readCommand (undo ip) = some (.deleteRoute (key ip) none)) :
    (undoState path undo machine).network =
      ((recorded machine.files path).map fun ip => Command.deleteRoute (key ip) none).foldl
        executeQuiet machine.network := by
  have lines : (recorded machine.files path).filterMap (readCommand ∘ undo) =
      (recorded machine.files path).map fun ip => .deleteRoute (key ip) none := by
    rw [← List.filterMap_eq_map]
    congr 1
    funext ip
    exact reads ip
  rw [undoState, Machine.remove, Machine.quietly, foldl_runQuiet, List.filterMap_map, lines]

theorem network_restoreRpFilter (machine : Machine) :
    (restoreRpFilter machine).network = machine.network := by
  rw [restoreRpFilter]
  split
  next => rfl
  next =>
    split
    next => rfl
    next => rfl

theorem network_routeDown (machine : Machine) :
    (routeDown false machine).network =
      (downCommands machine.files).foldl executeQuiet machine.network := by
  have pin (ip : String) : readCommand (deletePin ip) = some (.deleteRoute (pinKey ip) none) := by
    rw [deletePin, pinKey]
    split
    next => rfl
    next => rfl
  have servers6 (ip : String) : readCommand ["-6", "route", "del", ip ++ "/128"] =
      some (.deleteRoute ⟨.v6, "main", ip ++ "/128"⟩ none) := rfl
  have servers (ip : String) : readCommand ["route", "del", ip ++ "/32"] =
      some (.deleteRoute ⟨.v4, "main", ip ++ "/32"⟩ none) := rfl
  have pinsBefore (machine : Machine) (undo : String → List String) :
      recorded (undoState servers6State undo machine).files bypassPinsState =
        recorded machine.files bypassPinsState :=
    recorded_undoState undo (by decide +kernel)
  have serversBefore (machine : Machine) (undo : String → List String) :
      recorded (undoState servers6State undo machine).files serversState =
        recorded machine.files serversState :=
    recorded_undoState undo (by decide +kernel)
  have serversBetween (machine : Machine) (undo : String → List String) :
      recorded (undoState bypassPinsState undo machine).files serversState =
        recorded machine.files serversState :=
    recorded_undoState undo (by decide +kernel)
  simp only [routeDown, network_restoreRpFilter, network_undoState servers, Machine.quietly,
    foldl_runQuiet, network_undoState pin, network_undoState servers6, deleteMarkRules_eq,
    Bool.false_eq_true, if_false, serversBetween, serversBefore, pinsBefore, downCommands,
    List.foldl_append]
  rfl

/-- What a rollback deletes the halves of the address spaces with. -/
def tunnelDev (key : RouteKey) : Option String :=
  if key.family = .v4 then some tunIface else none

theorem tunnelKey_mem_downCommands (files : String → Option String) :
    ∀ key ∈ tunnelKeys, .deleteRoute key (tunnelDev key) ∈ downCommands files := by
  intro key isTunnel
  simp only [downCommands, List.append_assoc]
  refine List.mem_append_left _ ?_
  simp only [tunnelKeys, List.mem_cons, List.not_mem_nil, or_false] at isTunnel
  rcases isTunnel with rfl | rfl | rfl | rfl
  · exact .head _
  · exact .tail _ (.head _)
  · exact .tail _ (.tail _ (.tail _ (.tail _ (.head _))))
  · exact .tail _ (.tail _ (.tail _ (.tail _ (.tail _ (.head _)))))

theorem added_downCommands (files : String → Option String) :
    (downCommands files).filterMap Command.added = [] := by
  have marks : markDeletions.filterMap Command.added = [] := by decide
  have deletions (key : String → RouteKey) (ips : List String) :
      (ips.map fun ip => Command.deleteRoute (key ip) none).filterMap Command.added = [] := by
    rw [List.filterMap_map, List.filterMap_eq_nil_iff]
    exact fun _ _ => rfl
  simp only [downCommands, List.filterMap_append, deletions, marks, List.append_nil]
  rfl

/-- The rules with a mark are deleted four times for a family. -/
theorem count_downCommands (files : String → Option String) (family : Family) {mark : String}
    (isMark : mark = xrayDialMark ∨ mark = bypassMark) :
    4 ≤ (downCommands files).count (.deleteRule family none mark none) := by
  have part : markDeletions.Sublist (downCommands files) := by
    simp only [downCommands, List.append_assoc]
    exact (List.sublist_append_left _ _).trans
      ((List.sublist_append_right _ _).trans (List.sublist_append_right _ _))
  have four : 4 ≤ markDeletions.count (.deleteRule family none mark none) := by
    rcases isMark with rfl | rfl
    · cases family with
      | v4 => decide +kernel
      | v6 => decide +kernel
    · cases family with
      | v4 => decide +kernel
      | v6 => decide +kernel
  exact four.trans (part.count_le _)

theorem replaceRoute_not_mem_downCommands (files : String → Option String) (key : RouteKey)
    (route : Route) : .replaceRoute key route ∉ downCommands files := by
  simp [downCommands, markDeletions]

/-- A rollback puts nothing in place. -/
theorem stands_routeDown {actions : List Action} {reached : Machine}
    {key : RouteKey} {route : Route} (performed : Performed actions machine reached)
    (stands : (routeDown false reached).network.routes key = some route) :
    machine.network.routes key = some route ∨ .replaceRoute key route ∈ commands actions := by
  rw [network_routeDown] at stands
  rcases routes_foldl _ _ stands with before | put
  · rw [performed.network] at before
    exact routes_foldl _ _ before
  · exact absurd put (replaceRoute_not_mem_downCommands _ _ _)

end Down

/-! ## A loop over servers -/

/-- A script with a loop over servers.  The addresses reach a state file after the loop. -/
structure ServerLoop where
  before : List Action
  servers : List (IpAddr × List String)
  path : String
  after : List Action

namespace ServerLoop

def placing (loop : ServerLoop) : List Action :=
  loop.servers.map fun server => .required server.2

def lines (loop : ServerLoop) : String := serverLines (loop.servers.map Prod.fst)

def script (loop : ServerLoop) : List Action :=
  loop.before ++ loop.placing ++ .writeState loop.path loop.lines :: loop.after

/-- The loop's routes are its own, and a rollback finds them in the state file and nowhere
else. -/
structure Sound (loop : ServerLoop) : Prop where
  places : ∀ server ∈ loop.servers, ∃ route,
    readCommand server.2 = some (.replaceRoute (serverKey server.1) route)
  unlaid : ∀ server ∈ loop.servers, ∀ route,
    .replaceRoute (serverKey server.1) route ∉ commands loop.before
  unwrittenBefore : loop.path ∉ targets loop.before
  unwrittenAfter : loop.path ∉ targets loop.after
  undone : ∀ files, files loop.path = some loop.lines → ∀ server ∈ loop.servers,
    .deleteRoute (serverKey server.1) none ∈ downCommands files
  unknown : ∀ files, files loop.path = none → files bypassPinsState = none →
    ∀ server ∈ loop.servers, ∀ command ∈ downCommands files,
      command.drops (serverKey server.1) = false

variable {loop : ServerLoop} {complaint : String} {machine reached : Machine}
variable {done rest : List Action} {action : Action}

theorem fallible_placing (servers : List (IpAddr × List String)) :
    fallible (servers.map fun server => .required server.2) = servers.length := by
  rw [fallible, List.countP_map, List.countP_eq_length]
  exact fun _ _ => rfl

theorem targets_placing (servers : List (IpAddr × List String)) :
    targets (servers.map fun server => .required server.2) = [] := by
  rw [targets, List.filterMap_map, List.filterMap_eq_nil_iff]
  exact fun _ _ => rfl

/-- Before the loop nothing stands where the servers' routes go, and nothing is put there
when the steps are taken back. -/
theorem Sound.down_before (sound : loop.Sound)
    (fresh : ∀ server ∈ loop.servers, machine.network.routes (serverKey server.1) = none)
    (performed : Performed done machine reached)
    (early : ∀ command ∈ commands done, command ∈ commands loop.before) :
    ∀ server ∈ loop.servers,
      (routeDown false reached).network.routes (serverKey server.1) = none := by
  intro server member
  cases stands : (routeDown false reached).network.routes (serverKey server.1) with
  | none => rfl
  | some route =>
      rcases stands_routeDown performed stands with initial | put
      · rw [fresh server member] at initial
        cases initial
      · exact absurd (early _ put) (sound.unlaid server member route)

/-- Inside the loop the routes that stand are in no state file. -/
theorem Sound.down_inside (sound : loop.Sound)
    (keeps : ∀ command ∈ commands loop.script, ∀ key, command.drops key = false)
    (absent : machine.files loop.path = none) (pins : reached.files bypassPinsState = none)
    {server : IpAddr × List String} {passed left : List (IpAddr × List String)}
    (parts : loop.servers = server :: passed ++ left)
    (ran : Script.run (perform complaint)
      (loop.before ++ (server :: passed).map fun server => .required server.2) machine =
        (.ok (), reached)) :
    (routeDown false reached).network.routes (serverKey server.1) ≠ none := by
  have member : server ∈ loop.servers := parts ▸ .head _
  have keepsPart : ∀ command ∈ commands (loop.before ++ (server :: passed).map
      fun server => .required server.2), ∀ key, command.drops key = false := by
    intro command within
    apply keeps
    rw [script, placing, parts, List.map_append, ← List.append_assoc, List.append_assoc,
      commands_append]
    exact List.mem_append_left _ within
  have performed := performed_run ran
  have unwritten : reached.files loop.path = none := by
    rw [performed.files, absent]
    rw [targets_append, targets_placing, List.append_nil]
    exact sound.unwrittenBefore
  rcases sound.places server member with ⟨route, places⟩
  have reads : (Action.required server.2).command =
      some (.replaceRoute (serverKey server.1) route) := places
  have laid : (reached.network.routes (serverKey server.1)).isSome := by
    rw [performed.network, commands, List.filterMap_append, List.foldl_append, List.map_cons,
      List.filterMap_cons_some reads, List.foldl_cons]
    apply isSome_routes_foldl
    · rw [executeQuiet, execute, Option.getD_some, Network.routes_setRoute, if_pos rfl]
      rfl
    · intro command later
      apply keepsPart
      rw [commands, List.filterMap_append, List.map_cons, List.filterMap_cons_some reads]
      exact List.mem_append_right _ (.tail _ later)
  have stays : ((routeDown false reached).network.routes (serverKey server.1)).isSome := by
    rw [network_routeDown]
    exact isSome_routes_foldl laid (sound.unknown _ unwritten pins server member)
  exact Option.isSome_iff_ne_none.1 stays

/-- After the loop a rollback takes its routes back. -/
theorem Sound.down_after (sound : loop.Sound) {more : List Action}
    (parts : loop.after = more ++ rest)
    (ran : Script.run (perform complaint)
      (loop.before ++ loop.placing ++ .writeState loop.path loop.lines :: more) machine =
        (.ok (), reached)) :
    ∀ server ∈ loop.servers,
      (routeDown false reached).network.routes (serverKey server.1) = none := by
  intro server member
  rcases Script.run_append_eq_ok.1 ran with ⟨filled, _, later⟩
  rw [Script.run, perform, andThen] at later
  have written : reached.files loop.path = some loop.lines := by
    rw [(performed_run later).files]
    · exact if_pos rfl
    · have unwritten := sound.unwrittenAfter
      rw [parts, targets_append, List.mem_append, not_or] at unwritten
      exact unwritten.1
  rw [network_routeDown]
  exact routes_foldl_eq_none (sound.undone _ written server member) (fun _ _ => rfl)
    fun route => replaceRoute_not_mem_downCommands _ _ route

/-- The rollback of a script that stops clears the loop's routes exactly when it does not
stop after the first of them and before the last. -/
theorem Sound.clear_iff (sound : loop.Sound)
    (keeps : ∀ command ∈ commands loop.script, ∀ key, command.drops key = false)
    (parts : loop.script = done ++ action :: rest) (mayFail : action.fallible = true)
    (fresh : ∀ server ∈ loop.servers, machine.network.routes (serverKey server.1) = none)
    (absent : machine.files loop.path = none) (pins : reached.files bypassPinsState = none)
    (ran : Script.run (perform complaint) done machine = (.ok (), reached)) :
    (∀ server ∈ loop.servers,
        (routeDown false reached).network.routes (serverKey server.1) = none) ↔
      ¬(fallible loop.before < fallible done ∧
        fallible done < fallible loop.before + loop.servers.length) := by
  rcases Script.stop_cases parts with
    ⟨left, isBefore⟩ | ⟨passed, left, isDone, inside⟩ | isWrite | ⟨more, isDone, isAfter⟩
  · have early : fallible done < fallible loop.before := by
      rw [isBefore, fallible_append]
      exact Nat.lt_add_of_pos_right (List.countP_pos_iff.2 ⟨action, .head _, mayFail⟩)
    have clear := sound.down_before fresh (performed_run ran) (by
      intro command within
      rw [isBefore, commands_append]
      exact List.mem_append_left _ within)
    exact iff_of_true clear fun between => absurd between.1 (Nat.lt_asymm early)
  · rw [placing] at inside
    rcases List.map_eq_append_iff.1 inside with ⟨first, last, isServers, rfl, isLast⟩
    have count : fallible done = fallible loop.before + first.length := by
      rw [isDone, fallible_append, fallible_placing]
    have short : first.length < loop.servers.length := by
      rw [isServers, List.length_append]
      cases last with
      | nil => cases isLast
      | cons server last => exact Nat.lt_add_of_pos_right (Nat.succ_pos _)
    cases first with
    | nil =>
        have clear := sound.down_before fresh (performed_run ran) (by
          intro command within
          rwa [isDone, List.map_nil, List.append_nil] at within)
        rw [List.length_nil] at count
        exact iff_of_true clear fun between => by omega
    | cons server passed =>
        rw [isDone] at ran
        have stays := sound.down_inside keeps absent pins isServers ran
        have member : server ∈ loop.servers := isServers ▸ .head _
        refine iff_of_false (fun clear => stays (clear server member)) ?_
        rw [not_not, count]
        rw [List.length_cons] at short ⊢
        omega
  · rw [isWrite] at mayFail
    cases mayFail
  · have late : fallible loop.before + loop.servers.length ≤ fallible done := by
      rw [isDone, fallible_append, fallible_append, placing, fallible_placing]
      exact Nat.le_add_right _ _
    rw [isDone] at ran
    have clear := sound.down_after isAfter ran
    exact iff_of_true clear fun between => absurd between.2 (Nat.not_lt_of_le late)

end ServerLoop

end Varmlen.Helper
