import Varmlen.Daemon.Recovery
import Varmlen.Helper.RouteRollback
import Varmlen.Foundation.TextParts

/-!
# What a recovery touches

Whatever fails on the way and however the processes of the machine come and go meanwhile, a
recovery signals no process but the Xray that the user's state file names, and it leaves the
interfaces, tables, rules, routes, cgroups and files alone that a daemon of Varmlen has not
made.
-/

namespace Varmlen.Daemon

open Foundation Foundation.Effect Foundation.Routing Foundation.Storage Foundation.Text
open Varmlen.Helper (bypassPinsState dnsTable downCommands physTable pinKey recorded rpAll rpState
  serversState servers6State tunnelKeys)

/-! ## Processes -/

theorem ProcessIdentity.eq_of_matchesLive {saved live : ProcessIdentity}
    (same : saved.matchesLive live = true) : live = saved := by
  simp only [matchesLive, Bool.and_eq_true, beq_iff_eq] at same
  obtain ⟨⟨pid, ticks⟩, executable⟩ := same
  cases saved
  cases live
  simp_all

/-! ## What is left alone -/

def clearedMarks : List String := ["0x2023", "0x2024", "0x2025"]

def isForeign (rule : PolicyRule) : Bool := !clearedMarks.contains rule.fwmark

/-- The state files that the helper's `route-down` goes by. -/
def helperRecords : List String := [servers6State, bypassPinsState, serversState]

/-- A route that a tunnel or a split has, or that a state file of the helper tells of. -/
def IsLaid (files : String → Option String) (key : RouteKey) : Prop :=
  key.table ∈ [physTable, dnsTable, splitTable] ∨ key ∈ tunnelKeys ∨
    (∃ ip ∈ recorded files servers6State, key = ⟨.v6, "main", ip ++ "/128"⟩) ∨
    (∃ ip ∈ recorded files bypassPinsState, key = pinKey ip) ∨
    ∃ ip ∈ recorded files serversState, key = ⟨.v4, "main", ip ++ "/32"⟩

/-- What belongs to others is as it was, and signals went to the targets only. -/
structure Untouched (backend : SystemCleanupBackend) (targets : ProcessIdentity → Prop)
    (before after : Machine) : Prop where
  signals : ∃ sent, after.signals = before.signals ++ sent ∧ ∀ signal ∈ sent,
    ∃ identity, targets identity ∧ signal.pid = identity.pid ∧ signal.target = .ok identity
  interfaces : ∀ name, name ≠ "varmlen0" → after.interfaces name = before.interfaces name
  tables : ∀ name, name ∉ knownTables → after.tables name = before.tables name
  rules : after.helper.network.rules.filter isForeign =
    before.helper.network.rules.filter isForeign
  /-- With an interface its routes go. -/
  routes : ∀ key, ¬IsLaid before.helper.files key →
    (∀ route, before.helper.network.routes key = some route → route.dev ≠ some "varmlen0") →
      after.helper.network.routes key = before.helper.network.routes key
  records : ∀ path ∈ helperRecords,
    recorded after.helper.files path ⊆ recorded before.helper.files path
  files : ∀ path, path ∉ rpAll :: rpState :: helperRecords →
    after.helper.files path = before.helper.files path
  groups : ∀ path, path ≠ backend.splitCgroup → path ≠ backend.userGroup →
    after.groups path = before.groups path
  disk : ∀ name, name ≠ backend.statePath → after.disk.read name = before.disk.read name

theorem IsLaid.mono {files more : String → Option String} {key : RouteKey}
    (laid : IsLaid files key)
    (records : ∀ path ∈ helperRecords, recorded files path ⊆ recorded more path) :
    IsLaid more key := by
  obtain inTable | half | ⟨ip, listed, same⟩ | ⟨ip, listed, same⟩ | ⟨ip, listed, same⟩ := laid
  · exact .inl inTable
  · exact .inr (.inl half)
  · exact .inr (.inr (.inl ⟨ip, records _ (by simp [helperRecords]) listed, same⟩))
  · exact .inr (.inr (.inr (.inl ⟨ip, records _ (by simp [helperRecords]) listed, same⟩)))
  · exact .inr (.inr (.inr (.inr ⟨ip, records _ (by simp [helperRecords]) listed, same⟩)))

/-! ## Commands that take back -/

/-- A command that deletes nothing but what Varmlen has laid. -/
structure TakesBack (files : String → Option String) (command : Routing.Command) : Prop where
  addsNone : command.added = none
  placesNone : ∀ key route, command ≠ .replaceRoute key route
  rules : ∀ rule, command.deletes rule = true → isForeign rule = false
  routes : ∀ key, command.drops key = true → IsLaid files key

section TakesBack

variable {files : String → Option String} {commands : List Routing.Command}

theorem takesBack_deleteRule {family : Family} {priority lookup : Option String} {mark : String}
    (cleared : mark ∈ clearedMarks) :
    TakesBack files (.deleteRule family priority mark lookup) where
  addsNone := rfl
  placesNone _ _ same := nomatch same
  rules rule deletes := by
    have sameMark : rule.fwmark = mark := by
      simp only [Routing.Command.deletes, PolicyRule.selected, Bool.and_eq_true, decide_eq_true_eq]
        at deletes
      exact deletes.1.2
    rw [isForeign, sameMark, List.contains_iff_mem.2 cleared, Bool.not_true]
  routes _ drops := nomatch drops

theorem takesBack_deleteRoute {key : RouteKey} {dev : Option String} (laid : IsLaid files key) :
    TakesBack files (.deleteRoute key dev) where
  addsNone := rfl
  placesNone _ _ same := nomatch same
  rules _ deletes := nomatch deletes
  routes _ drops := of_decide_eq_true drops ▸ laid

theorem takesBack_flushTable {family : Family} {table : String}
    (own : table ∈ [physTable, dnsTable, splitTable]) :
    TakesBack files (.flushTable family table) where
  addsNone := rfl
  placesNone _ _ same := nomatch same
  rules _ deletes := nomatch deletes
  routes key drops := by
    simp only [Routing.Command.drops, Bool.and_eq_true, decide_eq_true_eq] at drops
    exact .inl (drops.2 ▸ own)

theorem filter_foldl (takeBack : ∀ command ∈ commands, TakesBack files command)
    (network : Network) :
    (commands.foldl executeQuiet network).rules.filter isForeign =
      network.rules.filter isForeign := by
  induction commands generalizing network with
  | nil => rfl
  | cons command rest ih =>
      rw [List.forall_mem_cons] at takeBack
      rw [List.foldl_cons, ih takeBack.2,
        filter_executeQuiet network takeBack.1.addsNone takeBack.1.rules]

theorem routes_foldl_of_free (takeBack : ∀ command ∈ commands, TakesBack files command)
    {key : RouteKey} (free : ¬IsLaid files key) (network : Network) :
    (commands.foldl executeQuiet network).routes key = network.routes key := by
  induction commands generalizing network with
  | nil => rfl
  | cons command rest ih =>
      rw [List.forall_mem_cons] at takeBack
      rw [List.foldl_cons, ih takeBack.2]
      obtain same | ⟨drops, _⟩ | ⟨route, places, _⟩ := routes_executeQuiet network command key
      · exact same
      · exact absurd (takeBack.1.routes key drops) free
      · exact absurd places (takeBack.1.placesNone key route)

/-- The helper's `route-down` takes back what it has records of. -/
theorem takesBack_downCommands (files : String → Option String) :
    ∀ command ∈ downCommands files, TakesBack files command := by
  have half {key : RouteKey} {dev : Option String} (isHalf : key ∈ tunnelKeys) :
      TakesBack files (.deleteRoute key dev) :=
    takesBack_deleteRoute (.inr (.inl isHalf))
  intro command member
  simp only [downCommands, Helper.markDeletions, List.mem_append, List.mem_cons, List.mem_map,
    List.mem_flatMap, List.mem_replicate, List.not_mem_nil, or_false] at member
  obtain (((((fixed | ⟨ip, listed, rfl⟩) | ⟨mark, isMark, family, _, _, rfl⟩) |
    ⟨ip, listed, rfl⟩) | flush) | ⟨ip, listed, rfl⟩) := member
  · obtain rfl | rfl | rfl | rfl | rfl | rfl := fixed
    · exact half (by simp [tunnelKeys])
    · exact half (by simp [tunnelKeys])
    · exact takesBack_deleteRule (by simp [clearedMarks, Helper.dnsMark])
    · exact takesBack_flushTable (by simp)
    · exact half (by simp [tunnelKeys])
    · exact half (by simp [tunnelKeys])
  · exact takesBack_deleteRoute (.inr (.inr (.inl ⟨ip, listed, rfl⟩)))
  · apply takesBack_deleteRule
    obtain rfl | rfl := isMark <;> simp [clearedMarks, Helper.xrayDialMark, Helper.bypassMark]
  · exact takesBack_deleteRoute (.inr (.inr (.inr (.inl ⟨ip, listed, rfl⟩))))
  · obtain rfl | rfl := flush <;> exact takesBack_flushTable (by simp)
  · exact takesBack_deleteRoute (.inr (.inr (.inr (.inr ⟨ip, listed, rfl⟩))))

end TakesBack

/-! ## Steps -/

namespace Untouched

variable {backend : SystemCleanupBackend} {targets : ProcessIdentity → Prop}
variable {before between after machine : Machine}

theorem refl (machine : Machine) : Untouched backend targets machine machine where
  signals := ⟨[], by simp⟩
  interfaces _ _ := rfl
  tables _ _ := rfl
  rules := rfl
  routes _ _ _ := rfl
  records _ _ := List.Subset.refl _
  files _ _ := rfl
  groups _ _ _ := rfl
  disk _ _ := rfl

theorem trans (first : Untouched backend targets before between)
    (second : Untouched backend targets between after) :
    Untouched backend targets before after where
  signals := by
    obtain ⟨sent, isSent, aimed⟩ := first.signals
    obtain ⟨later, isLater, aimedLater⟩ := second.signals
    refine ⟨sent ++ later, by rw [isLater, isSent, List.append_assoc], ?_⟩
    intro signal member
    exact (List.mem_append.1 member).elim (aimed signal) (aimedLater signal)
  interfaces name other := (second.interfaces name other).trans (first.interfaces name other)
  tables name other := (second.tables name other).trans (first.tables name other)
  rules := second.rules.trans first.rules
  routes key free elsewhere := by
    have same := first.routes key free elsewhere
    rw [second.routes key (fun laid => free (laid.mono first.records)) (same ▸ elsewhere), same]
  records path member := List.Subset.trans (second.records path member) (first.records path member)
  files path other := (second.files path other).trans (first.files path other)
  groups path other notUser :=
    (second.groups path other notUser).trans (first.groups path other notUser)
  disk name other := (second.disk name other).trans (first.disk name other)

theorem foldl {α : Type} {step : Machine → α → Machine} (items : List α)
    (each : ∀ item ∈ items, ∀ machine, Untouched backend targets machine (step machine item))
    (machine : Machine) : Untouched backend targets machine (items.foldl step machine) := by
  induction items generalizing machine with
  | nil => exact .refl machine
  | cons item rest ih =>
      rw [List.forall_mem_cons] at each
      exact (each.1 machine).trans (ih each.2 _)

/-- Time passes. -/
theorem pass (machine : Machine) : Untouched backend targets machine machine.pass where
  signals := ⟨[], by simp [Machine.pass]⟩
  interfaces _ _ := rfl
  tables _ _ := rfl
  rules := rfl
  routes _ _ _ := rfl
  records _ _ := List.Subset.refl _
  files _ _ := rfl
  groups _ _ _ := rfl
  disk _ _ := rfl

/-! ### The network -/

theorem setNetwork {network : Network}
    (rules : network.rules.filter isForeign = machine.helper.network.rules.filter isForeign)
    (routes : ∀ key, ¬IsLaid machine.helper.files key →
      (∀ route, machine.helper.network.routes key = some route → route.dev ≠ some "varmlen0") →
        network.routes key = machine.helper.network.routes key) :
    Untouched backend targets machine (machine.setNetwork network) where
  signals := ⟨[], by simp [Machine.setNetwork]⟩
  interfaces _ _ := rfl
  tables _ _ := rfl
  rules
  routes
  records _ _ := List.Subset.refl _
  files _ _ := rfl
  groups _ _ _ := rfl
  disk _ _ := rfl

theorem foldl_executeQuiet {commands : List Routing.Command}
    (takeBack : ∀ command ∈ commands, TakesBack machine.helper.files command) :
    Untouched backend targets machine
      (machine.setNetwork (commands.foldl executeQuiet machine.helper.network)) := by
  apply setNetwork
  · exact filter_foldl takeBack _
  · intro key free _
    exact routes_foldl_of_free takeBack free _

theorem run {arguments : List String} {command : Routing.Command} {network : Network}
    (reads : readCommand arguments = some command)
    (takesBack : TakesBack machine.helper.files command)
    (ran : Routing.run arguments machine.helper.network = some network) :
    Untouched backend targets machine (machine.setNetwork network) := by
  have single : ∀ other ∈ [command], TakesBack machine.helper.files other := by
    simpa using takesBack
  have quiet : [command].foldl executeQuiet machine.helper.network = network := by
    rw [Routing.run, reads, Option.bind_some] at ran
    rw [List.foldl_cons, List.foldl_nil, executeQuiet, ran, Option.getD_some]
  exact quiet ▸ foldl_executeQuiet single

/-! ### The helper -/

theorem files_undoState {path other : String} (undo : String → List String)
    (helper : Helper.Machine) (different : other ≠ path) :
    (Helper.undoState path undo helper).files other = helper.files other :=
  if_neg different

theorem files_restoreRpFilter {path : String} (helper : Helper.Machine) (notAll : path ≠ rpAll)
    (notState : path ≠ rpState) : (Helper.restoreRpFilter helper).files path = helper.files path := by
  rw [Helper.restoreRpFilter]
  split
  next => rfl
  next =>
    split
    next => exact (if_neg notState).trans (if_neg notAll)
    next => exact if_neg notState

theorem files_quietly (commands : List (List String)) (helper : Helper.Machine) :
    (helper.quietly commands).files = helper.files :=
  rfl

theorem files_routeDown {path : String} (helper : Helper.Machine)
    (other : path ∉ rpAll :: rpState :: helperRecords) :
    (Helper.routeDown false helper).files path = helper.files path := by
  simp only [helperRecords, List.mem_cons, List.not_mem_nil, or_false, not_or] at other
  obtain ⟨notAll, notState, notServers6, notPins, notServers⟩ := other
  simp only [Helper.routeDown, Bool.false_eq_true, if_false, files_quietly,
    files_restoreRpFilter _ notAll notState, files_undoState _ _ notServers,
    files_undoState _ _ notPins, files_undoState _ _ notServers6]

theorem files_undoState_self (path : String) (undo : String → List String)
    (helper : Helper.Machine) : (Helper.undoState path undo helper).files path = none :=
  if_pos rfl

/-- The records are gone with what they tell of. -/
theorem records_routeDown {path : String} (helper : Helper.Machine)
    (isRecord : path ∈ helperRecords) :
    recorded (Helper.routeDown false helper).files path = [] := by
  have apart : ∀ path ∈ helperRecords, path ≠ rpAll ∧ path ≠ rpState := by decide +kernel
  obtain ⟨notAll, notState⟩ := apart path isRecord
  apply Helper.recorded_of_none
  by_cases isServers : path = serversState
  · subst isServers
    simp only [Helper.routeDown, files_restoreRpFilter _ notAll notState, files_undoState_self]
  by_cases isPins : path = bypassPinsState
  · subst isPins
    simp only [Helper.routeDown, Bool.false_eq_true, if_false, files_quietly,
      files_restoreRpFilter _ notAll notState, files_undoState _ _ isServers,
      files_undoState_self]
  have isServers6 : path = servers6State := by
    simpa [helperRecords, isServers, isPins] using isRecord
  subst isServers6
  simp only [Helper.routeDown, Bool.false_eq_true, if_false, files_quietly,
    files_restoreRpFilter _ notAll notState, files_undoState _ _ isServers,
    files_undoState _ _ isPins, files_undoState_self]

theorem withoutTable {name : String} (known : name ∈ knownTables) :
    Untouched backend targets machine (machine.withoutTable name) where
  signals := ⟨[], by simp [Machine.withoutTable]⟩
  interfaces _ _ := rfl
  tables other notKnown := by
    have different : other ≠ name := fun same => notKnown (same ▸ known)
    exact Function.update_of_ne different _ _
  rules := rfl
  routes _ _ _ := rfl
  records _ _ := List.Subset.refl _
  files _ _ := rfl
  groups _ _ _ := rfl
  disk _ _ := rfl

theorem withoutInterface :
    Untouched backend targets machine (machine.withoutInterface "varmlen0") where
  signals := ⟨[], by simp [Machine.withoutInterface, Machine.setNetwork]⟩
  interfaces _ other := Function.update_of_ne other _ _
  tables _ _ := rfl
  rules := rfl
  routes key _ elsewhere := by
    change (machine.helper.network.routes key).filter _ = _
    cases found : machine.helper.network.routes key with
    | none => rfl
    | some route =>
        have stays : decide (route.dev ≠ some "varmlen0") = true := by
          simpa using elsewhere route found
        rw [Option.filter_some, if_pos stays]
  records _ _ := List.Subset.refl _
  files _ _ := rfl
  groups _ _ _ := rfl
  disk _ _ := rfl

theorem routeDown :
    Untouched backend targets machine
      { machine with helper := Helper.routeDown false machine.helper } := by
  have network := @foldl_executeQuiet backend targets machine _
    (takesBack_downCommands machine.helper.files)
  rw [← Helper.network_routeDown] at network
  exact
    { signals := ⟨[], by simp⟩
      interfaces := fun _ _ => rfl
      tables := fun _ _ => rfl
      rules := network.rules
      routes := network.routes
      records := by
        intro path member
        rw [records_routeDown machine.helper member]
        exact List.nil_subset _
      files := fun path other => files_routeDown machine.helper other
      groups := fun _ _ _ => rfl
      disk := fun _ _ => rfl }

/-! ### External commands -/

variable {outside : Outside}

theorem command {program : Program} {arguments : List String}
    (own : ∀ next, program.effect arguments machine.pass = some next →
      Untouched backend targets machine.pass next) :
    Untouched backend targets machine (commandSuccess outside program arguments machine).2 := by
  rw [commandSuccess]
  split
  next => exact pass machine
  next => exact pass machine
  next =>
    cases done : program.effect arguments machine.pass with
    | none => exact pass machine
    | some next => exact (pass machine).trans (own next done)

theorem ipCommand {arguments : List String} {command : Routing.Command}
    (effect : ∀ machine, ipEffect arguments machine =
      (Routing.run arguments machine.helper.network).map machine.setNetwork)
    (reads : readCommand arguments = some command)
    (takesBack : ∀ files, TakesBack files command) :
    Untouched backend targets machine (commandSuccess outside .ip arguments machine).2 := by
  apply Untouched.command
  intro next done
  rw [Program.effect, effect] at done
  obtain ⟨network, ran, rfl⟩ := Option.map_eq_some_iff.1 done
  exact run reads (takesBack _) ran

theorem deleteLink {next : Machine}
    (done : ipEffect ["link", "delete", "dev", "varmlen0"] machine = some next) :
    Untouched backend targets machine next := by
  rw [ipEffect] at done
  split at done
  next =>
    cases done
    exact withoutInterface
  next => cases done

theorem helperCleanup : Untouched backend targets machine (Daemon.helperCleanup machine) := by
  have switch := @withoutTable backend targets machine "varmlen_ks" (by simp [knownTables])
  have down := switch.trans routeDown
  rw [Daemon.helperCleanup]
  cases done : ipEffect ["link", "delete", "dev", Helper.tunIface]
      { machine.withoutTable "varmlen_ks" with
        helper := Helper.routeDown false (machine.withoutTable "varmlen_ks").helper } with
  | none => exact down
  | some next => exact down.trans (deleteLink done)

theorem fileStep {purpose : String} {next : Option Machine}
    (own : ∀ after, next = some after → Untouched backend targets machine after) :
    Untouched backend targets machine (Daemon.fileStep outside purpose next machine).2 := by
  unfold Daemon.fileStep
  split
  next after _ => exact (own after rfl).trans (pass after)
  next => exact pass machine
  next => exact pass machine
  next => exact pass machine

/-- A step after another, which is only taken when the first succeeds. -/
theorem andThen {α β : Type} {first : Except String α × Machine}
    {next : α → Machine → Except String β × Machine}
    (start : Untouched backend targets before first.2)
    (rest : ∀ value machine, Untouched backend targets machine (next value machine).2) :
    Untouched backend targets before (Effect.andThen first next).2 := by
  obtain ⟨result, machine⟩ := first
  cases result with
  | error error => exact start
  | ok value => exact start.trans (rest value machine)

/-! ### Processes -/

theorem signal {saved : ProcessIdentity} {kind : SignalKind} (aimed : targets saved)
    (live : ProcessIdentity.fromPid (outside.processes machine.turn) saved.pid = .ok saved) :
    Untouched backend targets machine (machine.signal outside saved.pid kind) where
  signals := by
    refine ⟨[⟨saved.pid, kind, .ok saved⟩], ?_, ?_⟩
    · rw [Machine.signal, live]
    · intro signal member
      rw [List.mem_singleton.1 member]
      exact ⟨saved, aimed, rfl, rfl⟩
  interfaces _ _ := rfl
  tables _ _ := rfl
  rules := rfl
  routes _ _ _ := rfl
  records _ _ := List.Subset.refl _
  files _ _ := rfl
  groups _ _ _ := rfl
  disk _ _ := rfl

theorem awaitExit (pid : UInt32) (attempts : Nat) (machine : Machine) :
    Untouched backend targets machine (Daemon.awaitExit outside pid attempts machine).2 := by
  induction attempts generalizing machine with
  | zero => exact .refl machine
  | succ attempts ih =>
      rw [Daemon.awaitExit]
      split
      next => exact .refl machine
      next => exact (pass machine).trans (ih machine.pass)

theorem terminateProcess {saved : ProcessIdentity} (aimed : targets saved) :
    Untouched backend targets machine (Daemon.terminateProcess outside saved machine).2 := by
  rw [Daemon.terminateProcess]
  split
  next => exact .refl machine
  next live first =>
    split
    next => exact .refl machine
    next same =>
      rw [Bool.not_eq_true, Bool.not_eq_false'] at same
      rw [ProcessIdentity.eq_of_matchesLive same] at first
      have waited : Untouched backend targets machine (Daemon.awaitExit outside saved.pid 20
          (machine.signal outside saved.pid .terminate)).2 :=
        (signal aimed first).trans (awaitExit saved.pid 20 _)
      cases exited : Daemon.awaitExit outside saved.pid 20
        (machine.signal outside saved.pid .terminate) with
      | mk gone left =>
      rw [exited] at waited
      cases gone with
      | true => exact waited
      | false =>
          dsimp only
          split
          next => exact waited
          next live second =>
            split
            next => exact waited
            next same =>
              rw [Bool.not_eq_true, Bool.not_eq_false'] at same
              rw [ProcessIdentity.eq_of_matchesLive same] at second
              apply waited.trans (fileStep _)
              intro after isAfter
              cases isAfter
              exact signal aimed second

/-! ### Rules and routes -/

theorem deleteMarked {family mark table : String} (known : family ∈ ["-4", "-6"])
    (cleared : mark ∈ clearedMarks) (attempts : Nat) (machine : Machine) :
    Untouched backend targets machine
      (Daemon.deleteMarked outside family mark table attempts machine) := by
  have deletes (machine : Machine) : Untouched backend targets machine
      (commandSuccess outside .ip [family, "rule", "del", "fwmark", mark, "lookup", table]
        machine).2 := by
    simp only [List.mem_cons, List.not_mem_nil, or_false] at known
    obtain rfl | rfl := known
    · exact ipCommand (fun _ => rfl) rfl fun _ => takesBack_deleteRule cleared
    · exact ipCommand (fun _ => rfl) rfl fun _ => takesBack_deleteRule cleared
  induction attempts generalizing machine with
  | zero => exact .refl machine
  | succ attempts ih =>
      have deleted := deletes machine
      rw [Daemon.deleteMarked]
      cases done : commandSuccess outside .ip
        [family, "rule", "del", "fwmark", mark, "lookup", table] machine with
      | mk result left =>
      rw [done] at deleted
      cases result with
      | error error => exact deleted
      | ok value => exact deleted.trans (ih left)

theorem removeRouteTable {table : String} (known : table ∈ ["100", "101"]) :
    Untouched backend targets machine (Daemon.removeRouteTable outside table machine).2 := by
  have marks : ∀ mark ∈ marksOf table, mark ∈ clearedMarks := by
    intro mark member
    rw [marksOf] at member
    split at member <;> simp [clearedMarks] at member ⊢ <;> tauto
  have flushes (machine : Machine) : Untouched backend targets machine
      (commandSuccess outside .ip ["route", "flush", "table", table] machine).2 := by
    simp only [List.mem_cons, List.not_mem_nil, or_false] at known
    obtain rfl | rfl := known
    · exact ipCommand (fun _ => rfl) rfl fun _ => takesBack_flushTable (by simp [physTable])
    · exact ipCommand (fun _ => rfl) rfl fun _ => takesBack_flushTable (by simp [dnsTable])
  have rules (machine : Machine) : Untouched backend targets machine
      ((marksOf table).foldl (fun machine mark => ["-4", "-6"].foldl (fun machine family =>
        Daemon.deleteMarked outside family mark table 4 machine) machine) machine) := by
    apply foldl
    intro mark isMark machine
    apply foldl
    intro family isFamily machine
    exact deleteMarked isFamily (marks mark isMark) 4 machine
  have cleans : Untouched backend targets machine
      (if table = "100" then (commandSuccess outside .netHelper ["cleanup"] machine).2
        else machine) := by
    split
    next =>
      apply command
      intro next done
      cases done
      exact helperCleanup
    next => exact .refl machine
  exact cleans.trans ((rules _).trans (flushes _))

/-! ### The cgroup of a split -/

theorem setGroup {path : String} {group : Option (List String)}
    (own : path = backend.splitCgroup ∨ path = backend.userGroup) :
    Untouched backend targets machine (machine.setGroup path group) where
  signals := ⟨[], by simp [Machine.setGroup]⟩
  interfaces _ _ := rfl
  tables _ _ := rfl
  rules := rfl
  routes _ _ _ := rfl
  records _ _ := List.Subset.refl _
  files _ _ := rfl
  groups other notSplit notUser := by
    have different : other ≠ path := by
      intro same
      exact own.elim (fun isSplit => notSplit (same.trans isSplit))
        fun isUser => notUser (same.trans isUser)
    exact Function.update_of_ne different _ _
  disk _ _ := rfl

theorem restoreProcesses (pids : List String) (machine : Machine) :
    Untouched backend targets machine
      (Daemon.restoreProcesses outside backend.splitCgroup backend.userGroup pids machine).2 := by
  induction pids generalizing machine with
  | nil => exact .refl machine
  | cons pid rest ih =>
      rw [Daemon.restoreProcesses]
      apply andThen
      · apply fileStep
        intro after isAfter
        cases isAfter
        exact (setGroup (.inl rfl)).trans (setGroup (.inr rfl))
      · intro _ machine
        exact ih machine

theorem parent_splitCgroup (backend : SystemCleanupBackend) :
    (rsplitOnce '/' backend.splitCgroup).map Prod.fst = some backend.userGroup := by
  have parts : backend.splitCgroup.toList = backend.userGroup.toList ++ '/' :: "bypass".toList := by
    rw [SystemCleanupBackend.splitCgroup, String.toList_append]
    rfl
  rw [rsplitOnce_eq parts (by decide)]
  rfl

theorem cleanupSplitCgroup : Untouched backend targets machine
    (Daemon.cleanupSplitCgroup outside backend.splitCgroup machine).2 := by
  have looks (purpose : String) (machine : Machine) : Untouched backend targets machine
      (Daemon.fileStep outside purpose
        ((machine.groups backend.splitCgroup).map fun _ => machine) machine).2 := by
    apply fileStep
    intro after isAfter
    obtain ⟨_, _, rfl⟩ := Option.map_eq_some_iff.1 isAfter
    exact .refl machine
  rw [Daemon.cleanupSplitCgroup]
  apply andThen (looks _ machine)
  intro _ machine
  rw [parent_splitCgroup]
  apply andThen (looks _ machine)
  intro _ machine
  apply andThen (restoreProcesses _ machine)
  intro _ machine
  apply fileStep
  intro after isAfter
  split at isAfter
  next =>
    cases isAfter
    exact setGroup (.inl rfl)
  next => cases isAfter

/-! ### A recovery -/

theorem remove {resource : Resource}
    (aimed : ∀ saved, resource = .xrayProcess saved → targets saved) (machine : Machine) :
    Untouched backend targets machine (backend.remove outside resource machine).2 := by
  cases resource with
  | xrayProcess saved => exact terminateProcess (aimed saved rfl)
  | tunInterface interface =>
      rw [SystemCleanupBackend.remove]
      split
      next isTunnel =>
        rw [isTunnel]
        apply command
        intro next done
        exact deleteLink done
      next => exact .refl machine
  | routeTable table =>
      rw [SystemCleanupBackend.remove]
      split
      next =>
        apply foldl
        intro arguments member machine
        simp only [routingTeardownCommands, List.mem_cons, List.not_mem_nil, or_false] at member
        obtain rfl | rfl := member
        · exact ipCommand (fun _ => rfl) rfl fun _ =>
            takesBack_deleteRule (by simp [clearedMarks])
        · exact ipCommand (fun _ => rfl) rfl fun _ => takesBack_flushTable (by simp)
      next =>
        split
        next known => exact removeRouteTable (by simpa using known)
        next => exact .refl machine
  | nftTable table =>
      rw [SystemCleanupBackend.remove]
      split
      next known =>
        apply command
        intro next done
        rw [Program.effect, nftEffect] at done
        split at done
        next =>
          cases done
          exact withoutTable known
        next => cases done
      next => exact .refl machine
  | splitBpf path =>
      rw [SystemCleanupBackend.remove]
      split
      next own =>
        rw [own]
        exact cleanupSplitCgroup
      next => exact .refl machine
  | runtimeFile path =>
      rw [SystemCleanupBackend.remove]
      split
      next own =>
        apply fileStep
        intro after isAfter
        obtain ⟨disk, removed, rfl⟩ := Option.map_eq_some_iff.1 isAfter
        exact
          { signals := ⟨[], by simp⟩
            interfaces := fun _ _ => rfl
            tables := fun _ _ => rfl
            rules := rfl
            routes := fun _ _ _ => rfl
            records := fun _ _ => List.Subset.refl _
            files := fun _ _ => rfl
            groups := fun _ _ _ => rfl
            disk := fun name other => by
              rw [read_effect_remove removed, own, if_neg other] }
      next => exact .refl machine

end Untouched

/-! ## What is found -/

section Inspection

variable {outside : Outside} {backend : SystemCleanupBackend} {machine after : Machine}
variable {resource added : Resource} {resources : List Resource}

theorem mem_insertResource (member : resource ∈ insertResource added resources) :
    resource = added ∨ resource ∈ resources := by
  induction resources with
  | nil => simpa [insertResource] using member
  | cons other rest ih =>
      rw [insertResource] at member
      split at member
      next => simpa using member
      next => exact .inr member
      next =>
        cases List.mem_cons.1 member with
        | inl same => exact .inr (same ▸ List.mem_cons_self)
        | inr later => exact (ih later).imp_right (List.mem_cons_of_mem _)

theorem insertResource_ne_nil : insertResource added resources ≠ [] := by
  cases resources with
  | nil => simp [insertResource]
  | cons other rest =>
      rw [insertResource]
      split <;> simp

/-- The process of the state file of the user. -/
def IsRecorded (backend : SystemCleanupBackend) (disk : Disk) (identity : ProcessIdentity) : Prop :=
  ∃ state, (StateStore.mk backend.statePath).read backend.parse disk = .ok (some state) ∧
    state.ownerUid = backend.ownerUid ∧ state.xray = some identity

theorem recorded_process {identity : ProcessIdentity}
    (found : backend.recorded outside machine = .ok resources)
    (member : .xrayProcess identity ∈ resources) : IsRecorded backend machine.disk identity := by
  rw [SystemCleanupBackend.recorded] at found
  split at found
  next => cases found
  next =>
    cases found
    cases member
  next state read =>
    split at found
    next => cases found
    next own =>
      cases found
      have isProcess := mem_insertResource member
      simp only [reduceCtorEq, false_or] at isProcess
      split at isProcess
      next => cases isProcess
      next saved isSaved =>
        split at isProcess
        next =>
          split at isProcess
          next =>
            rw [List.mem_singleton, Resource.xrayProcess.injEq] at isProcess
            exact ⟨state, read, not_not.1 own, isProcess ▸ isSaved⟩
          next => cases isProcess
        next => cases isProcess

/-- Nothing is told of without a state file. -/
theorem read_of_recorded_nil (found : backend.recorded outside machine = .ok []) :
    machine.disk.read backend.statePath = none := by
  rw [SystemCleanupBackend.recorded, StateStore.read] at found
  cases file : machine.disk.read backend.statePath with
  | none => rfl
  | some file' =>
      rw [file] at found
      dsimp only at found
      split at found
      next => cases found
      next absent =>
        split at absent
        next => cases absent
        next =>
          split at absent
          next => cases absent
          next =>
            split at absent
            next => cases absent
            next => cases absent
      next =>
        split at found
        next => cases found
        next => exact absurd (Except.ok.inj found) insertResource_ne_nil

theorem forall_insertResource {property : Resource → Prop} (first : property added)
    (rest : ∀ resource ∈ resources, property resource) :
    ∀ resource ∈ insertResource added resources, property resource := by
  intro resource member
  cases mem_insertResource member with
  | inl same => exact same ▸ first
  | inr earlier => exact rest resource earlier

/-- Of the rules and routes only tables are made. -/
theorem forall_routeResources {property : Resource → Prop}
    (tables : ∀ table, property (.routeTable table)) (rulesText routesText : String) :
    ∀ resource ∈ routeResources rulesText routesText, property resource := by
  have dns (found : Bool) : ∀ resource ∈ if found then [Resource.routeTable "101"] else [],
      property resource := by
    intro resource member
    cases found with
    | false => cases member
    | true => exact List.mem_singleton.1 member ▸ tables "101"
  have split (found : Bool) {resources : List Resource}
      (each : ∀ resource ∈ resources, property resource) (table : String) :
      ∀ resource ∈ if found then insertResource (.routeTable table) resources else resources,
        property resource := by
    cases found with
    | false => exact each
    | true => exact forall_insertResource (tables table) each
  exact split _ (split _ (dns _) splitTable) "100"

/-- A set with what is found added to it. -/
theorem foldl_insertResource {property : Resource → Prop} {found : List Resource}
    (each : ∀ resource ∈ resources, property resource)
    (more : ∀ resource ∈ found, property resource) :
    (∀ resource ∈ found.foldl (fun resources resource => insertResource resource resources)
        resources, property resource) ∧
      (found.foldl (fun resources resource => insertResource resource resources) resources = [] →
        resources = []) := by
  induction found generalizing resources with
  | nil => exact ⟨each, id⟩
  | cons first rest ih =>
      rw [List.forall_mem_cons] at more
      obtain ⟨all, empty⟩ := ih (forall_insertResource more.1 each) more.2
      exact ⟨all, fun isEmpty => absurd (empty isEmpty) insertResource_ne_nil⟩

/-- Only time has passed. -/
def Later (machine after : Machine) : Prop := ∃ turn, after = { machine with turn }

theorem Later.refl (machine : Machine) : Later machine machine := ⟨machine.turn, rfl⟩

theorem Later.trans {between : Machine} (first : Later machine between)
    (second : Later between after) : Later machine after := by
  obtain ⟨_, rfl⟩ := first
  obtain ⟨turn, rfl⟩ := second
  exact ⟨turn, rfl⟩

theorem Later.untouched {targets : ProcessIdentity → Prop} (later : Later machine after) :
    Untouched backend targets machine after := by
  obtain ⟨turn, rfl⟩ := later
  exact
    { signals := ⟨[], by simp⟩
      interfaces := fun _ _ => rfl
      tables := fun _ _ => rfl
      rules := rfl
      routes := fun _ _ _ => rfl
      records := fun _ _ => List.Subset.refl _
      files := fun _ _ => rfl
      groups := fun _ _ _ => rfl
      disk := fun _ _ => rfl }

theorem output_later (purpose : String) (machine : Machine) :
    Later machine (output outside purpose machine).2 := by
  rw [output]
  split
  next => exact ⟨_, rfl⟩
  next => exact ⟨_, rfl⟩

theorem findTables_ends {property : Resource → Prop} (tables : ∀ name, property (.nftTable name))
    (names : List String) (each : ∀ resource ∈ resources, property resource) :
    (∀ resource ∈ (findTables outside names (resources, machine)).1, property resource) ∧
      Later machine (findTables outside names (resources, machine)).2 ∧
      ((findTables outside names (resources, machine)).1 = [] → resources = []) := by
  induction names generalizing resources machine with
  | nil => exact ⟨each, .refl machine, id⟩
  | cons name rest ih =>
      rw [findTables, nftTableExists]
      dsimp only
      cases decide (outside.fate machine.turn = .works) && machine.tables name with
      | false =>
          obtain ⟨all, later, empty⟩ := @ih machine.pass resources each
          exact ⟨all, Later.trans ⟨_, rfl⟩ later, empty⟩
      | true =>
          obtain ⟨all, later, empty⟩ := @ih machine.pass
            (insertResource (.nftTable name) resources) (forall_insertResource (tables name) each)
          exact ⟨all, Later.trans ⟨_, rfl⟩ later,
            fun isEmpty => absurd (empty isEmpty) insertResource_ne_nil⟩

/-- Nothing is left that can be seen without asking a program. -/
structure SeemsClean (backend : SystemCleanupBackend) (machine : Machine) : Prop where
  state : machine.disk.read backend.statePath = none
  interface : machine.interfaces "varmlen0" = false
  cgroup : machine.groups backend.splitCgroup = none

theorem SeemsClean.later (clean : SeemsClean backend machine) (later : Later machine after) :
    SeemsClean backend after := by
  obtain ⟨turn, rfl⟩ := later
  exact ⟨clean.state, clean.interface, clean.cgroup⟩

theorem inspect_ends (backend : SystemCleanupBackend) (machine : Machine) :
    Ends (fun resources after => Later machine after ∧
        (∀ identity, .xrayProcess identity ∈ resources → IsRecorded backend machine.disk identity) ∧
        (resources = [] → SeemsClean backend machine))
      (fun _ after => Later machine after) (backend.inspect outside machine) := by
  let property (resource : Resource) : Prop :=
    ∀ identity, resource = .xrayProcess identity → IsRecorded backend machine.disk identity
  rw [SystemCleanupBackend.inspect]
  split
  next => exact .refl machine
  next resources found =>
    have each : ∀ resource ∈ resources, property resource := by
      intro resource member identity same
      exact recorded_process found (same ▸ member)
    have output (purpose : String) {later : Machine} (so : Later machine later) :
        Ends (fun _ after => Later machine after) (fun _ after => Later machine after)
          (output outside purpose later) :=
      ends_iff_state.2 (so.trans (output_later purpose later))
    -- the interface is looked at before any program runs
    have interface : (∀ resource ∈ if machine.interfaces "varmlen0" = true then
          insertResource (.tunInterface "varmlen0") resources else resources, property resource) ∧
        ((if machine.interfaces "varmlen0" = true then
          insertResource (.tunInterface "varmlen0") resources else resources) = [] →
            resources = [] ∧ machine.interfaces "varmlen0" = false) := by
      cases machine.interfaces "varmlen0" with
      | false => exact ⟨each, fun isEmpty => ⟨isEmpty, rfl⟩⟩
      | true =>
          exact ⟨forall_insertResource (fun _ same => nomatch same) each,
            fun isEmpty => absurd isEmpty insertResource_ne_nil⟩
    generalize (if machine.interfaces "varmlen0" = true then
      insertResource (.tunInterface "varmlen0") resources else resources) = seen at interface ⊢
    apply ends_andThen (output _ (.refl machine))
    intro rules first isFirst
    apply ends_andThen (output _ isFirst)
    intro routesV4 second isSecond
    apply ends_andThen (output _ isSecond)
    intro routesV6 third isThird
    dsimp only
    obtain ⟨routed, routedNil⟩ := foldl_insertResource interface.1
      (@forall_routeResources property (fun _ _ same => nomatch same) rules
        (routesV4 ++ "\n" ++ routesV6))
    generalize (routeResources rules (routesV4 ++ "\n" ++ routesV6)).foldl
      (fun resources resource => insertResource resource resources) seen = withRoutes
        at routed routedNil ⊢
    obtain ⟨all, later, tablesNil⟩ := @findTables_ends outside third withRoutes property
      (fun _ _ same => nomatch same) knownTables routed
    generalize findTables outside knownTables (withRoutes, third) = last at all later tablesNil ⊢
    obtain ⟨turn, isLast⟩ := isThird.trans later
    have groups : last.2.groups = machine.groups := by rw [isLast]
    refine ⟨⟨turn, isLast⟩, ?_, ?_⟩
    · intro identity member
      rw [groups] at member
      split at member
      next => exact forall_insertResource (fun _ same => nomatch same) all _ member identity rfl
      next => exact all _ member identity rfl
    · intro isEmpty
      rw [groups] at isEmpty
      split at isEmpty
      next => exact absurd isEmpty insertResource_ne_nil
      next noGroup =>
        obtain ⟨isNil, noInterface⟩ := interface.2 (routedNil (tablesNil isEmpty))
        exact ⟨read_of_recorded_nil (isNil ▸ found), noInterface,
          Option.not_isSome_iff_eq_none.1 noGroup⟩

end Inspection

/-- What a recovery leaves and when it reports that nothing is left.  Another user's state stops
it before it does anything. -/
theorem cleanup_untouched (backend : SystemCleanupBackend) (outside : Outside)
    (machine : Machine) :
    Ends (fun report after =>
        Untouched backend (IsRecorded backend machine.disk) machine after ∧
          (report.phase = .disconnected → SeemsClean backend after))
      (fun _ after => Untouched backend (IsRecorded backend machine.disk) machine after)
      ((backend.api outside).cleanup machine) ∧
    ∀ state, (StateStore.mk backend.statePath).read backend.parse machine.disk = .ok (some state) →
      state.ownerUid ≠ backend.ownerUid →
        (backend.api outside).cleanup machine =
          (.error "recovery state belongs to another user", machine) := by
  constructor
  · apply ends_andThen (ends_mono (@inspect_ends outside backend machine) (fun _ _ ends => ends)
      fun _ _ later => later.untouched)
    intro found first ⟨later, aimed, _⟩
    have removed := later.untouched.trans (@Untouched.foldl backend (IsRecorded backend machine.disk) _
      (fun machine resource => (backend.remove outside resource machine).2) found
      (fun resource member machine => Untouched.remove
        (fun saved same => aimed saved (same ▸ member)) machine) first)
    apply ends_andThen (ends_mono (@inspect_ends outside backend _) (fun _ _ ends => ends)
      fun _ _ later => removed.trans later.untouched)
    intro remaining last ⟨laterLast, _, clean⟩
    refine ⟨removed.trans laterLast.untouched, ?_⟩
    intro isDisconnected
    rw [CleanupReport.phase] at isDisconnected
    split at isDisconnected
    next noneLeft => exact (clean (List.isEmpty_iff.1 noneLeft)).later laterLast
    next => cases isDisconnected
  · intro state read other
    have refused : backend.recorded outside machine =
        .error "recovery state belongs to another user" := by
      rw [SystemCleanupBackend.recorded, read]
      exact if_pos other
    rw [CleanupBackend.cleanup, SystemCleanupBackend.api]
    dsimp only
    rw [SystemCleanupBackend.inspect, refused]
    rfl

/-! ## A pid that is used again -/

/-- The text that the kernel has about a process in `/proc`: its pid, its name and the fields
behind it. -/
def statText (pid : UInt32) (name : String) (fields : List String) : String :=
  toString pid.toNat ++ " (" ++ name ++ ") " ++ " ".intercalate fields

section Reuse

variable {name : String} {fields : List String} {ticks : UInt64}

/-- The start time is a field of the kernel's, whatever the process calls itself. -/
theorem parseStartTimeTicks_statText (pid : UInt32)
    (solid : ∀ field ∈ fields, IsWord field ∧ ')' ∉ field.toList)
    (started : fields[19]? = some (toString ticks.toNat)) :
    parseStartTimeTicks (statText pid name fields) = some ticks := by
  have parts : (statText pid name fields).toList =
      (toString pid.toNat ++ " (" ++ name).toList ++
        ')' :: (" " ++ " ".intercalate fields).toList := by
    simp [statText]
  have free : ')' ∉ (" " ++ " ".intercalate fields).toList := by
    rw [String.toList_append, List.mem_append, not_or]
    exact ⟨by decide, not_mem_intercalate (by decide) fun field member => (solid field member).2⟩
  have small : ticks.toNat < 2 ^ 64 := ticks.toNat_lt
  rw [parseStartTimeTicks, rsplitOnce_eq parts free]
  simp only [Option.bind_eq_bind, Option.bind_some, splitWhitespace_space,
    splitWhitespace_intercalate fun field member => (solid field member).1, started,
    parseUnsigned_toString small, Option.map_some, UInt64.ofNat_toNat]

/-- A process that was started at another time gets no signal, whatever its name. -/
theorem reused_pid_spared (outside : Outside) (machine : Machine) (saved : ProcessIdentity)
    (isStat : (outside.processes machine.turn saved.pid).stat =
      .ok (statText saved.pid name fields))
    (solid : ∀ field ∈ fields, IsWord field ∧ ')' ∉ field.toList)
    (started : fields[19]? = some (toString ticks.toNat))
    (reused : ticks ≠ saved.startTimeTicks) :
    (terminateProcess outside saved machine).2 = machine ∧
      ∃ error, (terminateProcess outside saved machine).1 = .error error := by
  rw [terminateProcess]
  cases live : ProcessIdentity.fromPid (outside.processes machine.turn) saved.pid with
  | error error => exact ⟨rfl, error, rfl⟩
  | ok identity =>
      have isLater : identity.startTimeTicks = ticks := by
        rw [ProcessIdentity.fromPid, isStat] at live
        dsimp only at live
        rw [parseStartTimeTicks_statText saved.pid solid started] at live
        dsimp only at live
        split at live
        next => cases live
        next => cases live; rfl
      have differs : saved.matchesLive identity = false := by
        rw [ProcessIdentity.matchesLive, isLater]
        simp [reused.symm]
      dsimp only
      rw [differs]
      exact ⟨rfl, _, rfl⟩

/-- A process whose name ends like the fields of the saved one. -/
def forged : Outside where
  fate _ := .works
  printed _ := ""
  processes _ pid :=
    ⟨.ok (statText pid "xray) S 1 2 3 4 5 6 7 8 9 10 11 12 13 14 15 16 17 18 100 21"
      ("R" :: List.replicate 18 "0" ++ ["101", "21"])), .ok "/usr/libexec/varmlen/xray"⟩
  netHelper := "/usr/libexec/varmlen/varmlen-net"

/-- A machine without anything of Varmlen's. -/
def bareMachine : Machine where
  signals := []
  interfaces _ := false
  tables _ := false
  helper := ⟨⟨[], fun _ => none⟩, fun _ => none, false, 0⟩
  groups _ := none
  disk := .empty
  turn := 0

theorem reused_pid_spared_forged :
    (terminateProcess forged ⟨42, 100, "/usr/libexec/varmlen/xray"⟩ bareMachine).2 =
      bareMachine := by
  have solid : ∀ field ∈ "R" :: List.replicate 18 "0" ++ ["101", "21"],
      IsWord field ∧ ')' ∉ field.toList := by
    have words : (["R", "0", "101", "21"].all fun field => field != "" &&
        field.toList.all fun char => !isWhitespace char && char != ')') = true := by
      decide
    intro field member
    have listed : field ∈ ["R", "0", "101", "21"] := by
      simp only [List.mem_append, List.mem_cons, List.mem_replicate, List.not_mem_nil] at member ⊢
      tauto
    have isWord := List.all_eq_true.1 words field listed
    simp only [Bool.and_eq_true, bne_iff_ne, List.all_eq_true, Bool.not_eq_true'] at isWord
    exact ⟨⟨isWord.1, fun char inside => (isWord.2 char inside).1⟩,
      fun inside => (isWord.2 ')' inside).2 rfl⟩
  have spared := @reused_pid_spared _ _ 101 forged bareMachine
    ⟨42, 100, "/usr/libexec/varmlen/xray"⟩ rfl solid rfl (by decide)
  exact spared.1

end Reuse

end Varmlen.Daemon
