import Varmlen.Daemon.AppSelector
import Varmlen.Foundation.Run

/-!
# Programs that ask before they start

The thread that the kernel asks before a program starts, or is opened where it starts
through an emulator (`daemon/src/split/watcher.rs`).  A process that a rule names is moved
into the bypass cgroup first.  When the thread ends, its descriptor is closed, and the
kernel lets everything begin that still waits.
-/

namespace Varmlen.Daemon

open Foundation.Run Foundation.Text

def AppSelector.matchesTarget (target : PathBuf) : AppSelector → Bool
  | .exactPath path => path = target
  | .processName name => target.fileName.any (eqIgnoreAsciiCase · name)

def ProcessSnapshot.empty : ProcessSnapshot where
  comm := ""
  executable := .ofText ""
  argumentZero := ""
  arguments := []
  cgroup := ""

inductive PermissionDecision where
  | allow
  | moveAndAllow
  | deny
  deriving DecidableEq, Repr

def permissionDecision (processUid ownerUid : Nat) (target : PathBuf)
    (process : ProcessSnapshot) (selectors : List AppSelector) (moveSucceeded : Bool) :
    PermissionDecision :=
  if processUid ≠ ownerUid ∨
      ¬selectors.any fun selector =>
        selector.matchesTarget target || selector.matchesProcess process then .allow
  else if moveSucceeded then .moveAndAllow
  else .deny

/-- A question of the kernel, with what the machine shows while it is looked at. -/
structure PermissionEvent where
  checkVersion : Bool
  /-- The descriptor of the file; an event without one tells that events were lost. -/
  fd : Option Nat
  pid : Int
  /-- The file, as the link of the descriptor names it. -/
  link : Option PathBuf
  realUid : Option Nat
  snapshot : Option ProcessSnapshot
  /-- The kernel lets the process be moved. -/
  moves : Bool
  /-- The kernel takes the answer. -/
  responds : Bool
  deriving DecidableEq

namespace PermissionEvent

def isRequest (event : PermissionEvent) : Bool := event.fd.isSome

def target (event : PermissionEvent) : PathBuf := event.link.getD (.ofText "")

def processUid (event : PermissionEvent) : Nat := event.realUid.getD (2 ^ 32 - 1)

def process (event : PermissionEvent) : ProcessSnapshot :=
  event.snapshot.getD ProcessSnapshot.empty

def isMatch (ownerUid : Nat) (selectors : List AppSelector) (event : PermissionEvent) : Bool :=
  event.processUid == ownerUid && selectors.any fun selector =>
    selector.matchesTarget event.target || selector.matchesProcess event.process

end PermissionEvent

inductive Response where
  | allow
  | deny
  deriving DecidableEq, Repr

/-- A program that began: whether it was allowed to, and whether its process was in the
bypass cgroup. -/
structure Start where
  event : PermissionEvent
  answered : Bool
  inside : Bool

/-- The thread, with the kernel's side of its descriptor. -/
structure PermissionWatcher where
  stop : Bool
  healthy : Bool
  /-- The thread has not finished. -/
  running : Bool
  /-- The processes that were moved into the bypass cgroup. -/
  members : List Int
  /-- The events that were read. -/
  received : List PermissionEvent
  /-- The requests among them that wait for an answer. -/
  pending : List PermissionEvent
  started : List Start
  refused : List PermissionEvent

namespace PermissionWatcher

def start (members : List Int) : PermissionWatcher where
  stop := false
  healthy := true
  running := true
  members
  received := []
  pending := []
  started := []
  refused := []

def isHealthy (watcher : PermissionWatcher) : Bool := watcher.healthy && watcher.running

/-! ## The kernel -/

def begin (watcher : PermissionWatcher) (answered : Bool) (event : PermissionEvent) : Start where
  event
  answered
  inside := watcher.members.contains event.pid

/-- A response that the kernel takes. -/
def respond (event : PermissionEvent) (response : Response) (watcher : PermissionWatcher) :
    PermissionWatcher :=
  match response with
  | .allow =>
      { watcher with
        pending := watcher.pending.erase event
        started := watcher.started ++ [watcher.begin true event] }
  | .deny =>
      { watcher with
        pending := watcher.pending.erase event
        refused := watcher.refused ++ [event] }

def moveIn (pid : Int) (watcher : PermissionWatcher) : PermissionWatcher :=
  { watcher with members := watcher.members ++ [pid] }

def receive (events : List PermissionEvent) (watcher : PermissionWatcher) : PermissionWatcher :=
  { watcher with
    received := watcher.received ++ events
    pending := watcher.pending ++ events.filter PermissionEvent.isRequest }

/-- The thread ends. -/
def close (watcher : PermissionWatcher) : PermissionWatcher :=
  { watcher with
    running := false
    pending := []
    started := watcher.started ++ watcher.pending.map (watcher.begin false) }

/-! ## The loop -/

def unhealthy (watcher : PermissionWatcher) : PermissionWatcher :=
  { watcher with healthy := false }

section Loop

variable (ownerUid : Nat) (selectors : List AppSelector)

/-- Handle one event; an error leaves the loop. -/
def handle (watcher : PermissionWatcher) (event : PermissionEvent) :
    Except PermissionWatcher PermissionWatcher :=
  if ¬event.checkVersion then .error watcher.unhealthy
  else
    match event.fd with
    | none => .ok watcher.unhealthy
    | some _ =>
        if event.pid < 0 then
          .ok (if event.responds then watcher.respond event .allow else watcher)
        else
          let isMatch := event.isMatch ownerUid selectors
          let moved := !isMatch || event.moves
          let watcher := if isMatch && event.moves then watcher.moveIn event.pid else watcher
          let (watcher, response) :=
            match permissionDecision event.processUid ownerUid event.target event.process
              selectors moved with
            | .allow | .moveAndAllow => (watcher, Response.allow)
            | .deny => (watcher.unhealthy, Response.deny)
          if event.responds then .ok (watcher.respond event response)
          else .error watcher.unhealthy

/-- What happens next to the thread. -/
inductive Input where
  /-- The watcher is dropped, which tells the thread to stop. -/
  | drop
  /-- A turn of the loop reads these events. -/
  | events (events : List PermissionEvent)
  /-- A turn of the loop finds nothing to read. -/
  | again
  /-- A turn of the loop cannot read. -/
  | failed

def runPermissionLoop (watcher : PermissionWatcher) : Input → PermissionWatcher
  | .drop => { watcher with stop := true }
  | turn =>
      if ¬watcher.running then watcher
      else if watcher.stop then watcher.close
      else
        match turn with
        | .drop | .again => watcher
        | .failed => watcher.unhealthy.close
        | .events events =>
            match events.foldlM (handle ownerUid selectors) (watcher.receive events) with
            | .ok watcher => watcher
            | .error watcher => watcher.close

end Loop

/-! ## What the answers amount to -/

section Guards

variable (ownerUid : Nat) (selectors : List AppSelector)

/-- A request that a rule of the owner names. -/
def Named (event : PermissionEvent) : Prop :=
  0 ≤ event.pid ∧ event.isMatch ownerUid selectors = true

/-- No request is lost or answered twice; what is allowed and named begins inside the bypass
cgroup, and nothing else is moved. -/
structure Fair (members : List Int) (watcher : PermissionWatcher) : Prop where
  accounted : (watcher.started.map Start.event ++ watcher.refused ++ watcher.pending).Perm
    (watcher.received.filter PermissionEvent.isRequest)
  inside : ∀ start ∈ watcher.started, start.answered = true →
    Named ownerUid selectors start.event → start.inside = true
  refused : ∀ event ∈ watcher.refused,
    Named ownerUid selectors event ∧ event.moves = false ∧ watcher.healthy = false
  moved : ∀ pid ∈ watcher.members,
    pid ∈ members ∨ ∃ event ∈ watcher.received, Named ownerUid selectors event ∧ event.pid = pid

/-- Between two turns, only what no process can have asked for waits; a thread that has ended
was stopped or reports that it is not healthy. -/
structure Guards (members : List Int) (watcher : PermissionWatcher) : Prop
    extends Fair ownerUid selectors members watcher where
  lapsed : ∀ start ∈ watcher.started, start.answered = false → watcher.running = false
  ended : watcher.running = false → watcher.stop = true ∨ watcher.healthy = false
  waiting : watcher.isHealthy = true → ∀ event ∈ watcher.pending, event.pid < 0

/-- In the middle of a turn, the events of `rest` wait as well. -/
structure Turn (members : List Int) (rest : List PermissionEvent) (watcher : PermissionWatcher) :
    Prop extends Fair ownerUid selectors members watcher where
  answered : ∀ start ∈ watcher.started, start.answered = true
  running : watcher.running = true
  known : ∀ event ∈ rest, event ∈ watcher.received
  waiting : ∃ stuck, watcher.pending.Perm (stuck ++ rest.filter PermissionEvent.isRequest) ∧
    (watcher.healthy = true → ∀ event ∈ stuck, event.pid < 0)

variable {ownerUid : Nat} {selectors : List AppSelector} {members : List Int}
  {watcher : PermissionWatcher} {event : PermissionEvent} {rest : List PermissionEvent}

theorem Fair.unhealthy (fair : Fair ownerUid selectors members watcher) :
    Fair ownerUid selectors members watcher.unhealthy where
  accounted := fair.accounted
  inside := fair.inside
  refused event refused := by
    obtain ⟨named, stays, _⟩ := fair.refused event refused
    exact ⟨named, stays, rfl⟩
  moved := fair.moved

theorem Turn.unhealthy (turn : Turn ownerUid selectors members rest watcher) :
    Turn ownerUid selectors members rest watcher.unhealthy where
  toFair := turn.toFair.unhealthy
  answered := turn.answered
  running := turn.running
  known := turn.known
  waiting := by
    obtain ⟨stuck, waits, _⟩ := turn.waiting
    exact ⟨stuck, waits, fun healthy => by simp [PermissionWatcher.unhealthy] at healthy⟩

/-- An event that asks nothing. -/
theorem Turn.pass (turn : Turn ownerUid selectors members (event :: rest) watcher)
    (noRequest : event.isRequest = false) : Turn ownerUid selectors members rest watcher where
  toFair := turn.toFair
  answered := turn.answered
  running := turn.running
  known other member := turn.known other (List.mem_cons_of_mem _ member)
  waiting := by
    obtain ⟨stuck, waits, negative⟩ := turn.waiting
    rw [List.filter_cons_of_neg (by simp [noRequest])] at waits
    exact ⟨stuck, waits, negative⟩

/-- A request that stays without an answer. -/
theorem Turn.leave (turn : Turn ownerUid selectors members (event :: rest) watcher)
    (request : event.isRequest = true) (negative : event.pid < 0) :
    Turn ownerUid selectors members rest watcher where
  toFair := turn.toFair
  answered := turn.answered
  running := turn.running
  known other member := turn.known other (List.mem_cons_of_mem _ member)
  waiting := by
    obtain ⟨stuck, waits, others⟩ := turn.waiting
    rw [List.filter_cons_of_pos request] at waits
    refine ⟨event :: stuck, waits.trans List.perm_middle, fun healthy other member => ?_⟩
    cases List.mem_cons.1 member with
    | inl isEvent => rw [isEvent]; exact negative
    | inr isStuck => exact others healthy other isStuck

theorem Turn.moveIn (turn : Turn ownerUid selectors members (event :: rest) watcher)
    (named : Named ownerUid selectors event) :
    Turn ownerUid selectors members (event :: rest) (watcher.moveIn event.pid) where
  accounted := turn.accounted
  inside := turn.inside
  refused := turn.refused
  moved pid member := by
    cases List.mem_append.1 member with
    | inl before => exact turn.moved pid before
    | inr isNew =>
        exact .inr ⟨event, turn.known event List.mem_cons_self, named,
          (List.mem_singleton.1 isNew).symm⟩
  answered := turn.answered
  running := turn.running
  known := turn.known
  waiting := turn.waiting

theorem Turn.pending_erase (turn : Turn ownerUid selectors members (event :: rest) watcher)
    (request : event.isRequest = true) :
    event ∈ watcher.pending ∧ ∃ stuck,
      (watcher.pending.erase event).Perm (stuck ++ rest.filter PermissionEvent.isRequest) ∧
      (watcher.healthy = true → ∀ event ∈ stuck, event.pid < 0) := by
  obtain ⟨stuck, waits, negative⟩ := turn.waiting
  rw [List.filter_cons_of_pos request] at waits
  have first := waits.trans List.perm_middle
  refine ⟨first.symm.subset List.mem_cons_self, stuck, ?_, negative⟩
  simpa using first.erase event

/-- Whatever the response, the request is no longer waiting. -/
theorem perm_of_answer (before after : List PermissionEvent) (waits : event ∈ watcher.pending) :
    (before ++ event :: after ++ watcher.pending.erase event).Perm
      (before ++ after ++ watcher.pending) := by
  rw [List.append_assoc, List.append_assoc, List.cons_append]
  apply List.Perm.append_left
  exact List.perm_middle.symm.trans ((List.perm_cons_erase waits).symm.append_left after)

theorem Turn.allow (turn : Turn ownerUid selectors members (event :: rest) watcher)
    (request : event.isRequest = true)
    (inside : Named ownerUid selectors event → event.pid ∈ watcher.members) :
    Turn ownerUid selectors members rest (watcher.respond event .allow) where
  accounted := by
    apply List.Perm.trans _ turn.accounted
    simpa [respond, begin] using
      perm_of_answer (watcher.started.map Start.event) watcher.refused
        (turn.pending_erase request).1
  inside start started allowed named := by
    cases List.mem_append.1 started with
    | inl before => exact turn.inside start before allowed named
    | inr isNew =>
        rw [List.mem_singleton.1 isNew] at named ⊢
        simpa [begin] using inside named
  refused := turn.refused
  moved := turn.moved
  answered start started := by
    cases List.mem_append.1 started with
    | inl before => exact turn.answered start before
    | inr isNew => rw [List.mem_singleton.1 isNew]; rfl
  running := turn.running
  known other member := turn.known other (List.mem_cons_of_mem _ member)
  waiting := (turn.pending_erase request).2

theorem Turn.deny (turn : Turn ownerUid selectors members (event :: rest) watcher)
    (request : event.isRequest = true) (named : Named ownerUid selectors event)
    (stays : event.moves = false) (unhealthy : watcher.healthy = false) :
    Turn ownerUid selectors members rest (watcher.respond event .deny) where
  accounted := by
    apply List.Perm.trans _ turn.accounted
    simpa [respond] using
      perm_of_answer (watcher.started.map Start.event ++ watcher.refused) []
        (turn.pending_erase request).1
  inside := turn.inside
  refused other member := by
    cases List.mem_append.1 member with
    | inl before => exact turn.refused other before
    | inr isNew => rw [List.mem_singleton.1 isNew]; exact ⟨named, stays, unhealthy⟩
  moved := turn.moved
  answered := turn.answered
  running := turn.running
  known other member := turn.known other (List.mem_cons_of_mem _ member)
  waiting := (turn.pending_erase request).2

theorem permissionDecision_event (moved : Bool) :
    permissionDecision event.processUid ownerUid event.target event.process selectors moved =
      if event.isMatch ownerUid selectors then if moved then .moveAndAllow else .deny
      else .allow := by
  rw [permissionDecision, PermissionEvent.isMatch]
  cases owner : event.processUid == ownerUid with
  | false =>
      have other : event.processUid ≠ ownerUid := by simpa using owner
      simp [other]
  | true =>
      cases selectors.any fun selector =>
          selector.matchesTarget event.target || selector.matchesProcess event.process with
      | false => simp
      | true => simp [eq_of_beq owner]

/-- One event: either the next one is looked at, or the thread ends and is not healthy. -/
theorem turn_handle (turn : Turn ownerUid selectors members (event :: rest) watcher) :
    match handle ownerUid selectors watcher event with
    | .ok after => Turn ownerUid selectors members rest after
    | .error after =>
        Turn ownerUid selectors members (event :: rest) after ∧ after.healthy = false := by
  unfold handle
  by_cases version : event.checkVersion = true
  · rw [if_neg (by simp [version])]
    cases hasFd : event.fd with
    | none => exact (turn.pass (by simp [PermissionEvent.isRequest, hasFd])).unhealthy
    | some fd =>
        have request : event.isRequest = true := by simp [PermissionEvent.isRequest, hasFd]
        by_cases negative : event.pid < 0
        · have free : Named ownerUid selectors event → event.pid ∈ watcher.members := by
            intro named
            exact absurd negative (Int.not_lt.2 named.1)
          cases responds : event.responds with
          | false => simpa [negative, responds] using turn.leave request negative
          | true => simpa [negative, responds] using turn.allow request free
        · simp only [if_neg negative, permissionDecision_event]
          cases isMatch : event.isMatch ownerUid selectors with
          | false =>
              have free : Named ownerUid selectors event → event.pid ∈ watcher.members := by
                intro named
                simp [named.2] at isMatch
              cases responds : event.responds with
              | false => exact ⟨turn.unhealthy, rfl⟩
              | true => exact turn.allow request free
          | true =>
              have named : Named ownerUid selectors event := ⟨Int.not_lt.1 negative, isMatch⟩
              cases moves : event.moves with
              | false =>
                  cases responds : event.responds with
                  | false => exact ⟨turn.unhealthy.unhealthy, rfl⟩
                  | true => exact turn.unhealthy.deny request named moves rfl
              | true =>
                  cases responds : event.responds with
                  | false => exact ⟨(turn.moveIn named).unhealthy, rfl⟩
                  | true => exact (turn.moveIn named).allow request fun _ => by simp [moveIn]
  · rw [if_pos version]
    exact ⟨turn.unhealthy, rfl⟩

theorem turn_handleAll (turn : Turn ownerUid selectors members rest watcher) :
    match rest.foldlM (handle ownerUid selectors) watcher with
    | .ok after => Turn ownerUid selectors members [] after
    | .error after => ∃ left, Turn ownerUid selectors members left after ∧ after.healthy = false := by
  induction rest generalizing watcher with
  | nil => exact turn
  | cons event rest ih =>
      have first := turn_handle turn
      rw [List.foldlM_cons]
      cases handled : handle ownerUid selectors watcher event with
      | ok after =>
          rw [handled] at first
          exact ih first
      | error after =>
          rw [handled] at first
          exact ⟨_, first⟩

theorem Fair.close (fair : Fair ownerUid selectors members watcher) :
    Fair ownerUid selectors members watcher.close where
  accounted := by
    apply List.Perm.trans _ fair.accounted
    have begun : watcher.pending.map (Start.event ∘ watcher.begin false) = watcher.pending :=
      List.map_id'' (fun _ => rfl) _
    simp only [PermissionWatcher.close, List.map_append, List.map_map, begun, List.append_nil,
      List.append_assoc]
    exact List.perm_append_comm.append_left _
  inside start started allowed := by
    cases List.mem_append.1 started with
    | inl before => exact fair.inside start before allowed
    | inr lapsed =>
        obtain ⟨event, _, rfl⟩ := List.mem_map.1 lapsed
        cases allowed
  refused := fair.refused
  moved := fair.moved

theorem Fair.guards_close (fair : Fair ownerUid selectors members watcher)
    (finished : watcher.stop = true ∨ watcher.healthy = false) :
    Guards ownerUid selectors members watcher.close where
  toFair := fair.close
  lapsed _ _ _ := rfl
  ended _ := finished
  waiting healthy := by simp [isHealthy, PermissionWatcher.close] at healthy

theorem Turn.guards (turn : Turn ownerUid selectors members [] watcher) :
    Guards ownerUid selectors members watcher where
  toFair := turn.toFair
  lapsed start started unanswered := by simp [turn.answered start started] at unanswered
  ended finished := by simp [turn.running] at finished
  waiting healthy event waits := by
    obtain ⟨stuck, same, negative⟩ := turn.waiting
    have isStuck : event ∈ stuck := by simpa using same.subset waits
    exact negative (Bool.and_eq_true_iff.1 healthy).1 event isStuck

theorem Guards.turn (guards : Guards ownerUid selectors members watcher)
    (running : watcher.running = true) (events : List PermissionEvent) :
    Turn ownerUid selectors members events (watcher.receive events) where
  accounted := by
    simpa [receive] using guards.accounted.append_right (events.filter PermissionEvent.isRequest)
  inside := guards.inside
  refused := guards.refused
  moved pid member := by
    cases guards.moved pid member with
    | inl before => exact .inl before
    | inr found =>
        obtain ⟨event, received, isNamed⟩ := found
        exact .inr ⟨event, List.mem_append_left _ received, isNamed⟩
  answered start started := by
    cases answered : start.answered with
    | true => rfl
    | false => simp [guards.lapsed start started answered] at running
  running := running
  known event member := List.mem_append_right _ member
  waiting := by
    refine ⟨watcher.pending, .refl _, fun healthy => guards.waiting ?_⟩
    rw [isHealthy, running, Bool.and_true]
    exact healthy

theorem guards_start : Guards ownerUid selectors members (start members) where
  accounted := .refl _
  inside start started := by cases started
  refused event refused := by cases refused
  moved pid member := .inl member
  lapsed start started := by cases started
  ended finished := by cases finished
  waiting _ event waits := by cases waits

theorem guards_step (guards : Guards ownerUid selectors members watcher) (input : Input) :
    Guards ownerUid selectors members (runPermissionLoop ownerUid selectors watcher input) := by
  unfold runPermissionLoop
  cases input with
  | drop => exact { guards with ended := fun _ => .inl rfl }
  | again =>
      cases running : watcher.running with
      | false => simpa using guards
      | true =>
          cases stop : watcher.stop with
          | false => simpa using guards
          | true => simpa using guards.toFair.guards_close (.inl stop)
  | failed =>
      cases running : watcher.running with
      | false => simpa using guards
      | true =>
          cases stop : watcher.stop with
          | false => simpa using guards.toFair.unhealthy.guards_close (.inr rfl)
          | true => simpa using guards.toFair.guards_close (.inl stop)
  | events events =>
      cases running : watcher.running with
      | false => simpa using guards
      | true =>
          cases stop : watcher.stop with
          | true => simpa using guards.toFair.guards_close (.inl stop)
          | false =>
              have whole := turn_handleAll (guards.turn running events)
              simp only [not_true, if_false, Bool.false_eq_true]
              cases handled : events.foldlM (handle ownerUid selectors)
                  (watcher.receive events) with
              | ok after =>
                  rw [handled] at whole
                  exact whole.guards
              | error after =>
                  rw [handled] at whole
                  obtain ⟨_, turn, unhealthy⟩ := whole
                  exact turn.toFair.guards_close (.inr unhealthy)

/-- Whatever the kernel asks and however the machine answers: a program that a rule of the
owner names begins, as long as the watcher lets it, inside the bypass cgroup only. -/
theorem permission_always (ownerUid : Nat) (selectors : List AppSelector) (members : List Int)
    (inputs : List Input) :
    Always (runPermissionLoop ownerUid selectors) (Guards ownerUid selectors members)
      (start members) inputs :=
  always_of_invariant (fun _ guards => guards) (fun _ input guards _ => guards_step guards input)
    inputs (start members) guards_start (everyStep_true inputs (start members))

end Guards

end PermissionWatcher

end Varmlen.Daemon
