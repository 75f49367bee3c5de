import Mathlib.Data.List.Nodup
import Varmlen.Foundation.Run
import Varmlen.Daemon.Envelope

/-!
# One connection

A client (`core/src/daemon_client.rs`) and the daemon (`daemon/src/server.rs`) over two
queues of frames.  The client has one request at a time and may give up on it, after which
the reply stays in the queue and is read by a later request.  A client tells such a reply
from its own by the operation id, and so never takes it for a success.
-/

namespace Varmlen.Contract

open Foundation.Json Foundation.Run
open Varmlen.Daemon (DaemonErrorCode DaemonError)
open Varmlen.Daemon.Protocol

/-! ## The client -/

/-- Why a request fails. -/
inductive ClientError where
  | io
  | protocol (code : DaemonErrorCode)
  | daemon (code : DaemonErrorCode) (message : String)
  | operationMismatch
  | timeout (activity : String)
  deriving DecidableEq, Repr

structure DaemonClient where
  nextOperationId : UInt64
  daemonVersion : String
  deriving DecidableEq, Repr

def DaemonClient.connected : DaemonClient where
  nextOperationId := 1
  daemonVersion := ""

/-- The operation id of the next request.  Zero is left out when the ids start over. -/
def DaemonClient.takeOperationId (client : DaemonClient) : UInt64 × DaemonClient :=
  (client.nextOperationId,
    { client with nextOperationId := max (client.nextOperationId + 1) 1 })

variable {Frame : Type} (wire : Wire Frame)

/-- What a request makes of the frame that it reads. -/
def DaemonClient.conclude (operationId : UInt64) (frame : Frame) (client : DaemonClient) :
    Except ClientError SentState × DaemonClient :=
  match decodeResponseFrame wire frame with
  | .error code => (.error (.protocol code), client)
  | .ok response =>
      let client := { client with daemonVersion := response.daemonVersion }
      if response.operationId ≠ operationId then
        match response.result with
        | .error error => (.error (.daemon error.code error.message), client)
        | .ok _ => (.error .operationMismatch, client)
      else
        (response.result.mapError fun error => .daemon error.code error.message, client)

/-! ## The daemon -/

/-- Decode a frame, or refuse it for a reason of another version of the daemon. -/
def decodeOrRefuse (refusal : Option DaemonErrorCode) (frame : Frame) :
    Except DaemonErrorCode RequestEnvelope :=
  match refusal with
  | some code => .error code
  | none => decodeRequestFrame wire frame

/-- The response to a frame, given what the handler makes of its command. -/
def respond (daemonVersion : String) (result : Except DaemonError SentState) (frame : Frame) :
    Except DaemonErrorCode RequestEnvelope → ResponseEnvelope
  | .error code =>
      { version := protocolVersion
        operationId := operationIdOfRejectedRequest wire frame
        result := .error ⟨code, "invalid daemon request"⟩
        daemonVersion }
  | .ok request =>
      { version := protocolVersion, operationId := request.operationId, result, daemonVersion }

/-! ## The connection -/

/-- A command that the daemon has handled, with the number of its request. -/
structure Answer where
  number : Nat
  command : DaemonCommand
  result : Except DaemonError SentState

/-- What a request has returned, with the number of the request whose reply it read. -/
structure Return where
  number : Nat
  reply : Option Nat
  result : Except ClientError SentState

/-- Both parties, the frames under way and what has happened so far.  Requests are
numbered from zero, and a frame under way is listed with the number of its request. -/
structure Connection (Frame : Type) where
  client : DaemonClient
  /-- The operation id of the request that waits for its reply. -/
  waiting : Option UInt64
  toDaemon : List (Nat × Frame)
  toClient : List (Nat × Frame)
  hungUp : Bool
  issued : List DaemonCommand
  answers : List Answer
  returned : List Return
  /-- The documents of all frames. -/
  written : List Value

/-- How the client's writing of a frame goes.  A failed write may have delivered it. -/
inductive Writing where
  | done
  | timedOut (delivered : Bool)
  | broken (delivered : Bool)

inductive Event where
  | send (command : DaemonCommand) (writing : Writing)
  | receive
  /-- No reply in time, or the connection is lost. -/
  | giveUp (error : ClientError)
  | serve (refusal : Option DaemonErrorCode) (result : Except DaemonError SentState)
  | hangUp

namespace Connection

def opened : Connection Frame where
  client := .connected
  waiting := none
  toDaemon := []
  toClient := []
  hungUp := false
  issued := []
  answers := []
  returned := []
  written := []

/-- The current request returns. -/
def finish (connection : Connection Frame) (reply : Option Nat)
    (result : Except ClientError SentState) : Connection Frame :=
  { connection with
    waiting := none
    returned := connection.returned ++ [⟨connection.issued.length - 1, reply, result⟩] }

/-- A new request with the documents written for it, before its frame is under way. -/
def started (connection : Connection Frame) (command : DaemonCommand)
    (documents : List Value) : Connection Frame :=
  { connection with
    client := connection.client.takeOperationId.2
    issued := connection.issued ++ [command]
    written := connection.written ++ documents }

/-- Put the frame of the current request under way. -/
def deliver (connection : Connection Frame) (frame : Frame) : Connection Frame :=
  { connection with
    toDaemon := connection.toDaemon ++ [(connection.issued.length - 1, frame)] }

def send (command : DaemonCommand) (writing : Writing) (connection : Connection Frame) :
    Connection Frame :=
  match connection.waiting with
  | some _ => connection
  | none =>
      let operationId := connection.client.takeOperationId.1
      let document := requestFormat.write ⟨protocolVersion, operationId, command⟩
      match encodeFrame wire document with
      | .error code => (connection.started command []).finish none (.error (.protocol code))
      | .ok frame =>
          let begun := connection.started command [document]
          match writing with
          | .done => { begun.deliver frame with waiting := some operationId }
          | .timedOut delivered =>
              (if delivered then begun.deliver frame else begun).finish none
                (.error (.timeout "writing"))
          | .broken delivered =>
              (if delivered then begun.deliver frame else begun).finish none (.error .io)

def receive (connection : Connection Frame) : Connection Frame :=
  match connection.waiting, connection.toClient with
  | some operationId, (number, frame) :: rest =>
      let (result, client) := connection.client.conclude wire operationId frame
      { connection with client, toClient := rest }.finish (some number) result
  | _, _ => connection

def giveUp (error : ClientError) (connection : Connection Frame) : Connection Frame :=
  match connection.waiting with
  | some _ => connection.finish none (.error error)
  | none => connection

/-- The command of a frame, unless it is refused. -/
def handled (number : Nat) (result : Except DaemonError SentState) :
    Except DaemonErrorCode RequestEnvelope → List Answer
  | .ok request => [⟨number, request.command, result⟩]
  | .error _ => []

/-- One round of `serve_connection_with_limits`. -/
def serve (daemonVersion : String) (refusal : Option DaemonErrorCode)
    (result : Except DaemonError SentState) (connection : Connection Frame) :
    Connection Frame :=
  match connection.hungUp, connection.toDaemon with
  | false, (number, frame) :: rest =>
      let decoded := decodeOrRefuse wire refusal frame
      let document := responseFormat.write (respond wire daemonVersion result frame decoded)
      let served := { connection with
        toDaemon := rest, answers := connection.answers ++ handled number result decoded }
      match encodeFrame wire document with
      | .error _ => { served with hungUp := true }
      | .ok reply =>
          { served with
            toClient := served.toClient ++ [(number, reply)]
            written := served.written ++ [document] }
  | _, _ => connection

def step (daemonVersion : String) (connection : Connection Frame) (event : Event) :
    Connection Frame :=
  match event with
  | .send command writing => send wire command writing connection
  | .receive => receive wire connection
  | .giveUp error => giveUp error connection
  | .serve refusal result => serve wire daemonVersion refusal result connection
  | .hangUp => { connection with hungUp := true }

/-! ## Operation ids -/

/-- The operation id of a request while the ids last. -/
def operationIdOf (number : Nat) : UInt64 := UInt64.ofNat (number + 1)

theorem operationIdOf_toNat {number : Nat} (fits : number + 1 < 2 ^ 64) :
    (operationIdOf number).toNat = number + 1 :=
  UInt64.toNat_ofNat_of_lt fits

theorem operationIdOf_injective {number other : Nat} (fits : number + 1 < 2 ^ 64)
    (otherFits : other + 1 < 2 ^ 64) (same : operationIdOf number = operationIdOf other) :
    number = other := by
  have numbers := congrArg UInt64.toNat same
  rw [operationIdOf_toNat fits, operationIdOf_toNat otherFits] at numbers
  exact Nat.succ.inj numbers

theorem operationIdOf_succ {number : Nat} (fits : number + 2 < 2 ^ 64) :
    max (operationIdOf number + 1) 1 = operationIdOf (number + 1) := by
  have added : operationIdOf number + 1 = operationIdOf (number + 1) := by
    rw [operationIdOf, operationIdOf]
    simp [UInt64.ofNat_add]
  have large : ¬operationIdOf (number + 1) ≤ 1 := by
    rw [UInt64.le_iff_toNat_le, operationIdOf_toNat fits]
    simp
  rw [added]
  exact if_neg large

/-! ## What holds along a run -/

def requestDocument (number : Nat) (command : DaemonCommand) : Value :=
  requestFormat.write ⟨protocolVersion, operationIdOf number, command⟩

/-- A frame under way to the daemon is that of the request it is listed with. -/
def IsRequest (connection : Connection Frame) (entry : Nat × Frame) : Prop :=
  ∃ command, connection.issued[entry.1]? = some command ∧
    requestDocument entry.1 command ∈ connection.written ∧
    entry.2 = wire.write (requestDocument entry.1 command)

/-- The daemon has handled the request with this success. -/
def Succeeded (connection : Connection Frame) (number : Nat) (state : SentState) : Prop :=
  ∃ command, ⟨number, command, .ok state⟩ ∈ connection.answers

/-- A frame under way to the client, if a success, is that of the request it is listed
with. -/
def IsReply (connection : Connection Frame) (entry : Nat × Frame) : Prop :=
  ∃ response, responseFormat.write response ∈ connection.written ∧
    entry.2 = wire.write (responseFormat.write response) ∧
    ∀ state, response.result = .ok state →
      response.operationId = operationIdOf entry.1 ∧ connection.Succeeded entry.1 state

/-- The invariant of a connection whose ids last. -/
structure Sound (connection : Connection Frame) : Prop where
  nextId : connection.issued.length + 1 < 2 ^ 64 →
    connection.client.nextOperationId = operationIdOf connection.issued.length
  waiting : ∀ operationId, connection.waiting = some operationId →
    connection.issued ≠ [] ∧ operationId = operationIdOf (connection.issued.length - 1)
  requests : ∀ entry ∈ connection.toDaemon, connection.IsRequest wire entry
  /-- Requests are handled in their order, and each of them once. -/
  order : (connection.answers.map Answer.number ++
    connection.toDaemon.map Prod.fst).Pairwise (· < ·)
  answered : ∀ answer ∈ connection.answers,
    connection.issued[answer.number]? = some answer.command
  replies : ∀ entry ∈ connection.toClient, connection.IsReply wire entry
  returned : ∀ finished ∈ connection.returned, ∀ state, finished.result = .ok state →
    finished.reply = some finished.number ∧ connection.Succeeded finished.number state

/-- The documents that have been written can be read back. -/
def ReadsBack (connection : Connection Frame) : Prop :=
  ∀ document ∈ connection.written, wire.read (wire.write document) = some document

section Steps

variable {wire} {connection : Connection Frame}

theorem sound_opened : Sound wire (opened : Connection Frame) where
  nextId _ := rfl
  waiting := by simp [opened]
  requests := by simp [opened]
  order := by simp [opened]
  answered := by simp [opened]
  replies := by simp [opened]
  returned := by simp [opened]

/-- A request returns, with a success only from the reply to it. -/
theorem sound_finish {reply : Option Nat} {result : Except ClientError SentState}
    (sound : Sound wire connection)
    (success : ∀ state, result = .ok state → reply = some (connection.issued.length - 1) ∧
      connection.Succeeded (connection.issued.length - 1) state) :
    Sound wire (connection.finish reply result) where
  nextId := sound.nextId
  waiting := by simp [finish]
  requests := sound.requests
  order := sound.order
  answered := sound.answered
  replies := sound.replies
  returned := by
    intro finished member state ok
    rcases List.mem_append.1 member with earlier | last
    · exact sound.returned finished earlier state ok
    · rw [List.mem_singleton] at last
      subst last
      exact success state ok

theorem sound_giveUp (sound : Sound wire connection) (error : ClientError) :
    Sound wire (giveUp error connection) := by
  rw [giveUp]
  split
  next => exact sound_finish sound fun _ same => nomatch same
  next => exact sound

/-- The frame at the head of the queue may be read. -/
theorem sound_dequeue {entry : Nat × Frame} {rest : List (Nat × Frame)}
    (sound : Sound wire connection) (queue : connection.toClient = entry :: rest)
    (client : DaemonClient)
    (same : client.nextOperationId = connection.client.nextOperationId) :
    Sound wire { connection with client, toClient := rest } where
  nextId few := same.trans (sound.nextId few)
  waiting := sound.waiting
  requests := sound.requests
  order := sound.order
  answered := sound.answered
  replies other member := sound.replies other (by rw [queue]; exact List.mem_cons_of_mem _ member)
  returned := sound.returned

theorem conclude_client (operationId : UInt64) (frame : Frame) (client : DaemonClient) :
    (client.conclude wire operationId frame).2.nextOperationId = client.nextOperationId := by
  rw [DaemonClient.conclude]
  split
  next => rfl
  next =>
    dsimp only
    split
    next => split <;> rfl
    next => rfl

/-- A success is a reply with the id of the request. -/
theorem conclude_ok {operationId : UInt64} {frame : Frame} {client : DaemonClient}
    {state : SentState} (ok : (client.conclude wire operationId frame).1 = .ok state) :
    ∃ response, decodeResponseFrame wire frame = .ok response ∧
      response.operationId = operationId ∧ response.result = .ok state := by
  rw [DaemonClient.conclude] at ok
  cases decoded : decodeResponseFrame wire frame with
  | error code =>
      rw [decoded] at ok
      cases ok
  | ok response =>
      rw [decoded] at ok
      dsimp only at ok
      by_cases same : response.operationId = operationId
      · rw [if_neg (not_not_intro same)] at ok
        cases given : response.result with
        | error error =>
            rw [given] at ok
            cases ok
        | ok found =>
            rw [given] at ok
            cases ok
            exact ⟨response, rfl, same, given⟩
      · rw [if_pos same] at ok
        cases given : response.result with
        | error error =>
            rw [given] at ok
            cases ok
        | ok found =>
            rw [given] at ok
            cases ok

theorem number_lt_of_issued {number : Nat} {command : DaemonCommand}
    (issued : connection.issued[number]? = some command) :
    number < connection.issued.length :=
  (List.getElem?_eq_some_iff.1 issued).1

theorem sound_receive (sound : Sound wire connection)
    (few : connection.issued.length < 2 ^ 64) (readsBack : connection.ReadsBack wire) :
    Sound wire (receive wire connection) := by
  rw [receive]
  split
  next operationId number frame rest asked queue =>
    rcases sound.replies (number, frame) (by simp [queue]) with
      ⟨response, listed, same, success⟩
    rcases sound.waiting operationId asked with ⟨begun, current⟩
    have waited : 0 < connection.issued.length := List.length_pos_iff.2 begun
    apply sound_finish (sound_dequeue sound queue _ (conclude_client operationId frame _))
    intro state ok
    rcases conclude_ok ok with ⟨found, decoded, matching, given⟩
    rw [show frame = wire.write (responseFormat.write response) from same] at decoded
    rw [decodeResponseFrame_write (readsBack _ listed) decoded] at matching given
    rcases success state given with ⟨named, command, answer⟩
    have known := number_lt_of_issued (sound.answered _ answer)
    have own : number = connection.issued.length - 1 := by
      apply operationIdOf_injective _ _ (named.symm.trans (matching.trans current))
      · exact Nat.lt_of_le_of_lt known few
      · omega
    exact ⟨congrArg some own, command, own ▸ answer⟩
  next => exact sound

/-! ### Sending -/

theorem IsRequest.mono {later : Connection Frame} {entry : Nat × Frame}
    (request : connection.IsRequest wire entry)
    (issued : connection.issued <+: later.issued)
    (written : connection.written ⊆ later.written) : later.IsRequest wire entry := by
  rcases request with ⟨command, known, listed, same⟩
  rcases issued with ⟨more, grown⟩
  refine ⟨command, ?_, written listed, same⟩
  rw [← grown, List.getElem?_append_left (number_lt_of_issued known)]
  exact known

theorem IsReply.mono {later : Connection Frame} {entry : Nat × Frame}
    (reply : connection.IsReply wire entry) (answers : connection.answers ⊆ later.answers)
    (written : connection.written ⊆ later.written) : later.IsReply wire entry := by
  rcases reply with ⟨response, listed, same, success⟩
  refine ⟨response, written listed, same, ?_⟩
  intro state ok
  rcases success state ok with ⟨named, command, answer⟩
  exact ⟨named, command, answers answer⟩

theorem sound_started (sound : Sound wire connection) (idle : connection.waiting = none)
    (few : connection.issued.length + 1 < 2 ^ 64) (command : DaemonCommand)
    (documents : List Value) : Sound wire (connection.started command documents) where
  nextId := by
    intro more
    dsimp only [started, DaemonClient.takeOperationId] at more ⊢
    rw [List.length_append, List.length_singleton] at more ⊢
    rw [sound.nextId few, operationIdOf_succ more]
  waiting := by simp [started, idle]
  requests entry member := (sound.requests entry member).mono (List.prefix_append _ _)
    (List.subset_append_left _ _)
  order := sound.order
  answered := by
    intro answer member
    have known := sound.answered answer member
    exact (List.getElem?_append_left (number_lt_of_issued known)).trans known
  replies entry member := (sound.replies entry member).mono (List.Subset.refl _)
    (List.subset_append_left _ _)
  returned := sound.returned

theorem numbers_lt (sound : Sound wire connection) :
    ∀ number ∈ connection.answers.map Answer.number ++ connection.toDaemon.map Prod.fst,
      number < connection.issued.length := by
  intro number member
  rcases List.mem_append.1 member with handled | underWay
  · rcases List.mem_map.1 handled with ⟨answer, listed, rfl⟩
    exact number_lt_of_issued (sound.answered answer listed)
  · rcases List.mem_map.1 underWay with ⟨entry, listed, rfl⟩
    rcases sound.requests entry listed with ⟨command, known, _, _⟩
    exact number_lt_of_issued known

/-- The frame of a new request may be put under way behind the others. -/
theorem sound_deliver (sound : Sound wire connection) (idle : connection.waiting = none)
    (few : connection.issued.length + 1 < 2 ^ 64) (command : DaemonCommand) :
    Sound wire ((connection.started command
      [requestDocument connection.issued.length command]).deliver
        (wire.write (requestDocument connection.issued.length command))) := by
  have begun := sound_started sound idle few command
    [requestDocument connection.issued.length command]
  have current : (connection.started command
      [requestDocument connection.issued.length command]).issued.length - 1 =
      connection.issued.length := by
    simp [started]
  exact
    { nextId := begun.nextId
      waiting := begun.waiting
      requests := by
        intro entry member
        rcases List.mem_append.1 member with earlier | last
        · exact begun.requests entry earlier
        · rw [List.mem_singleton, current] at last
          subst last
          exact ⟨command, by simp [deliver, started], by simp [deliver, started], rfl⟩
      order := by
        dsimp only [deliver]
        rw [List.map_append, ← List.append_assoc, List.pairwise_append, current]
        refine ⟨sound.order, List.pairwise_singleton _ _, ?_⟩
        intro number member last listed
        rw [List.map_singleton, List.mem_singleton] at listed
        subst listed
        exact numbers_lt sound number member
      answered := begun.answered
      replies := begun.replies
      returned := begun.returned }

theorem sound_wait (sound : Sound wire connection) (begun : connection.issued ≠ []) :
    Sound wire { connection with
      waiting := some (operationIdOf (connection.issued.length - 1)) } where
  nextId := sound.nextId
  waiting := by
    intro operationId same
    cases same
    exact ⟨begun, rfl⟩
  requests := sound.requests
  order := sound.order
  answered := sound.answered
  replies := sound.replies
  returned := sound.returned

theorem sound_send (sound : Sound wire connection)
    (few : connection.waiting = none → connection.issued.length + 1 < 2 ^ 64)
    (command : DaemonCommand) (writing : Writing) :
    Sound wire (send wire command writing connection) := by
  rw [send]
  cases idle : connection.waiting with
  | some operationId => exact sound
  | none =>
      have next : connection.client.takeOperationId.1 =
          operationIdOf connection.issued.length := sound.nextId (few idle)
      have document : requestFormat.write
          ⟨protocolVersion, connection.client.takeOperationId.1, command⟩ =
          requestDocument connection.issued.length command := by
        rw [next, requestDocument]
      dsimp only
      rw [document, next]
      cases encoded : encodeFrame wire (requestDocument connection.issued.length command) with
      | error code =>
          exact sound_finish (sound_started sound idle (few idle) command [])
            fun _ same => nomatch same
      | ok frame =>
          have begun := sound_started sound idle (few idle) command
            [requestDocument connection.issued.length command]
          have underWay := sound_deliver sound idle (few idle) command
          rw [← encodeFrame_eq_ok encoded] at underWay
          have either : ∀ delivered : Bool, Sound wire (if delivered then
              (connection.started command
                [requestDocument connection.issued.length command]).deliver frame
              else connection.started command
                [requestDocument connection.issued.length command]) := by
            intro delivered
            cases delivered with
            | true => exact underWay
            | false => exact begun
          cases writing with
          | done =>
              have waits := sound_wait underWay (by simp [deliver, started])
              simpa [deliver, started] using waits
          | timedOut delivered =>
              exact sound_finish (either delivered) fun _ same => nomatch same
          | broken delivered =>
              exact sound_finish (either delivered) fun _ same => nomatch same

/-! ### Serving -/

/-- A frame leaves the queue; a command that is handled is recorded. -/
theorem sound_handled {entry : Nat × Frame} {rest : List (Nat × Frame)}
    (sound : Sound wire connection) (queue : connection.toDaemon = entry :: rest)
    (answers : List Answer) (own : (answers.map Answer.number).Sublist [entry.1])
    (known : ∀ answer ∈ answers, connection.issued[answer.number]? = some answer.command) :
    Sound wire { connection with
      toDaemon := rest, answers := connection.answers ++ answers } where
  nextId := sound.nextId
  waiting := sound.waiting
  requests other member := sound.requests other
    (by rw [queue]; exact List.mem_cons_of_mem _ member)
  order := by
    have ordered := sound.order
    rw [queue, List.map_cons, ← List.singleton_append, ← List.append_assoc] at ordered
    rw [List.map_append]
    exact List.Pairwise.sublist (((List.Sublist.refl _).append own).append_right _) ordered
  answered := by
    intro answer member
    rcases List.mem_append.1 member with earlier | last
    · exact sound.answered answer earlier
    · exact known answer last
  replies other member := (sound.replies other member).mono (List.subset_append_left _ _)
    (List.Subset.refl _)
  returned := by
    intro finished member state ok
    rcases sound.returned finished member state ok with ⟨own, command, answer⟩
    exact ⟨own, command, List.mem_append_left _ answer⟩

/-- A reply to the client is put under way behind the others. -/
theorem sound_reply (sound : Sound wire connection) (number : Nat)
    (response : ResponseEnvelope)
    (success : ∀ state, response.result = .ok state →
      response.operationId = operationIdOf number ∧ connection.Succeeded number state) :
    Sound wire { connection with
      toClient := connection.toClient ++
        [(number, wire.write (responseFormat.write response))]
      written := connection.written ++ [responseFormat.write response] } where
  nextId := sound.nextId
  waiting := sound.waiting
  requests other member := (sound.requests other member).mono (List.prefix_refl _)
    (List.subset_append_left _ _)
  order := sound.order
  answered := sound.answered
  replies := by
    intro entry member
    rcases List.mem_append.1 member with earlier | last
    · exact (sound.replies entry earlier).mono (List.Subset.refl _)
        (List.subset_append_left _ _)
    · rw [List.mem_singleton] at last
      subst last
      exact ⟨response, by simp, rfl, success⟩
  returned := sound.returned

/-- The daemon answers the head of its queue. -/
theorem sound_answer {number : Nat} {frame : Frame} {rest : List (Nat × Frame)}
    (sound : Sound wire connection) (queue : connection.toDaemon = (number, frame) :: rest)
    (readsBack : connection.ReadsBack wire) (daemonVersion : String)
    (refusal : Option DaemonErrorCode) (result : Except DaemonError SentState) :
    let decoded := decodeOrRefuse wire refusal frame
    let served := { connection with
      toDaemon := rest, answers := connection.answers ++ handled number result decoded }
    Sound wire served ∧ ∀ state,
      (respond wire daemonVersion result frame decoded).result = .ok state →
        (respond wire daemonVersion result frame decoded).operationId =
          operationIdOf number ∧ served.Succeeded number state := by
  dsimp only
  rcases sound.requests (number, frame) (by simp [queue]) with ⟨command, known, listed, same⟩
  cases outcome : decodeOrRefuse wire refusal frame with
  | error code =>
      exact ⟨sound_handled sound queue [] (by simp) (by simp), fun _ failed => nomatch failed⟩
  | ok request =>
      have accepted : decodeRequestFrame wire frame = .ok request := by
        cases refusal with
        | some code => cases outcome
        | none => exact outcome
      rw [show frame = wire.write (requestDocument number command) from same] at accepted
      have asked := decodeRequestFrame_write (readsBack _ listed) accepted
      subst asked
      constructor
      · apply sound_handled sound queue _ (by simp [handled])
        simpa [handled] using known
      · intro state ok
        refine ⟨rfl, command, ?_⟩
        rw [show result = .ok state from ok]
        exact List.mem_append_right _ (List.mem_singleton.2 rfl)

theorem sound_hangUp (sound : Sound wire connection) :
    Sound wire { connection with hungUp := true } where
  nextId := sound.nextId
  waiting := sound.waiting
  requests := sound.requests
  order := sound.order
  answered := sound.answered
  replies := sound.replies
  returned := sound.returned

theorem sound_serve (sound : Sound wire connection) (readsBack : connection.ReadsBack wire)
    (daemonVersion : String) (refusal : Option DaemonErrorCode)
    (result : Except DaemonError SentState) :
    Sound wire (serve wire daemonVersion refusal result connection) := by
  rw [serve]
  split
  next number frame rest _ queue =>
    rcases sound_answer sound queue readsBack daemonVersion refusal result with
      ⟨served, success⟩
    dsimp only
    cases encoded : encodeFrame wire (responseFormat.write
        (respond wire daemonVersion result frame (decodeOrRefuse wire refusal frame))) with
    | error code => exact sound_hangUp served
    | ok reply =>
        dsimp only
        rw [encodeFrame_eq_ok encoded]
        exact sound_reply served number _ success
  next => exact sound

end Steps

/-! ## Runs -/

section Runs

variable {wire} {connection : Connection Frame}

theorem send_grows (command : DaemonCommand) (writing : Writing) :
    (connection.waiting = none →
      (send wire command writing connection).issued = connection.issued ++ [command]) ∧
      connection.issued.length ≤ (send wire command writing connection).issued.length ∧
      connection.written ⊆ (send wire command writing connection).written := by
  rw [send]
  cases connection.waiting with
  | some operationId => simp
  | none =>
      dsimp only
      cases encodeFrame wire _ with
      | error code => simp [finish, started]
      | ok frame =>
          cases writing with
          | done => simp [deliver, started]
          | timedOut delivered => cases delivered <;> simp [finish, deliver, started]
          | broken delivered => cases delivered <;> simp [finish, deliver, started]

/-- A step only adds to the requests and the documents. -/
theorem step_grows (daemonVersion : String) (event : Event) :
    connection.issued.length ≤ (step wire daemonVersion connection event).issued.length ∧
      connection.written ⊆ (step wire daemonVersion connection event).written := by
  cases event with
  | send command writing => exact (send_grows command writing).2
  | receive =>
      rw [step, receive]
      split <;> simp [finish]
  | giveUp error =>
      rw [step, giveUp]
      split <;> simp [finish]
  | serve refusal result =>
      rw [step, serve]
      split
      next =>
        dsimp only
        split <;> simp
      next => simp
  | hangUp => simp [step]

theorem sound_step (sound : Sound wire connection) (daemonVersion : String) (event : Event)
    (few : (step wire daemonVersion connection event).issued.length < 2 ^ 64)
    (readsBack : (step wire daemonVersion connection event).ReadsBack wire) :
    Sound wire (step wire daemonVersion connection event) := by
  have grows := @step_grows _ wire connection daemonVersion event
  have fewBefore := Nat.lt_of_le_of_lt grows.1 few
  have readsBefore : connection.ReadsBack wire :=
    fun document listed => readsBack document (grows.2 listed)
  cases event with
  | send command writing =>
      apply sound_send sound
      intro idle
      have issued := (@send_grows _ wire connection command writing).1 idle
      rw [step, issued, List.length_append] at few
      exact few
  | receive => exact sound_receive sound fewBefore readsBefore
  | giveUp error => exact sound_giveUp sound error
  | serve refusal result => exact sound_serve sound readsBefore daemonVersion refusal result
  | hangUp => exact sound_hangUp sound

/-- Every connection whose ids last and whose documents can be read back is sound. -/
theorem sound_run (daemonVersion : String) (events : List Event)
    (few : (events.foldl (step wire daemonVersion) opened).issued.length < 2 ^ 64)
    (readsBack : (events.foldl (step wire daemonVersion) opened).ReadsBack wire) :
    Sound wire (events.foldl (step wire daemonVersion) opened) := by
  -- the two conditions are about the end of the run, and hold all along it
  let invariant (connection : Connection Frame) : Prop :=
    connection.issued.length < 2 ^ 64 → connection.ReadsBack wire → Sound wire connection
  have preserved : ∀ connection event, invariant connection → True →
      invariant (step wire daemonVersion connection event) := by
    intro connection event kept _ few readsBack
    have grows := @step_grows _ wire connection daemonVersion event
    apply sound_step _ daemonVersion event few readsBack
    exact kept (Nat.lt_of_le_of_lt grows.1 few)
      fun document listed => readsBack document (grows.2 listed)
  exact invariant_foldl preserved events opened (fun _ _ => sound_opened)
    (everyStep_true events opened) few readsBack

/-- Handled requests are told apart by their numbers. -/
theorem answer_unique (sound : Sound wire connection) {answer other : Answer}
    (member : answer ∈ connection.answers) (otherMember : other ∈ connection.answers)
    (same : other.number = answer.number) : other = answer := by
  have ordered := (List.pairwise_append.1 sound.order).1
  have distinct : (connection.answers.map Answer.number).Nodup := ordered.imp Nat.ne_of_lt
  exact List.inj_on_of_nodup_map distinct otherMember member same

end Runs

end Connection

open Connection

/-- A success that a request returns is the daemon's answer to that request, and a frame
that is refused is answered with the operation id it names. -/
theorem success_belongs_to_request (wire : Wire Frame) (daemonVersion : String) :
    (∀ events : List Event,
      let reached := events.foldl (step wire daemonVersion) opened
      reached.issued.length < 2 ^ 64 → reached.ReadsBack wire →
      ∀ number reply state, ⟨number, reply, .ok state⟩ ∈ reached.returned →
        reply = some number ∧ ∃ command, reached.issued[number]? = some command ∧
          ⟨number, command, .ok state⟩ ∈ reached.answers ∧
          ∀ other ∈ reached.answers, other.number = number →
            other = ⟨number, command, .ok state⟩) ∧
    ∀ refusal frame code document operationId result,
      decodeOrRefuse wire refusal frame = .error code →
      wire.read frame = some document → NamesOperation document operationId →
      (respond wire daemonVersion result frame
        (decodeOrRefuse wire refusal frame)).operationId = operationId := by
  constructor
  · intro events reached few readsBack number reply state member
    have sound := sound_run daemonVersion events few readsBack
    rcases sound.returned _ member state rfl with ⟨own, command, answer⟩
    refine ⟨own, command, sound.answered _ answer, answer, ?_⟩
    intro other listed same
    exact answer_unique sound answer listed same
  · intro refusal frame code document operationId result refused read names
    rw [refused]
    exact operationIdOfRejectedRequest_eq read names

/-- JSON texts as frames, for some documents. -/
def textWire (documents : List Value) : Wire String where
  write := Value.toText
  read text := documents.find? fun document => document.toText == text
  length := Daemon.byteLength
  parseUrl _ := none

theorem find_toText {documents : List Value} (distinct : (documents.map Value.toText).Nodup) :
    ∀ document ∈ documents,
      (documents.find? fun other => other.toText == document.toText) = some document := by
  induction documents with
  | nil => simp
  | cons first rest ih =>
      rw [List.map_cons, List.nodup_cons] at distinct
      intro document member
      rcases List.mem_cons.1 member with rfl | later
      · exact List.find?_cons_of_pos (beq_self_eq_true document.toText)
      · have apart : first.toText ≠ document.toText := by
          intro same
          exact distinct.1 (same ▸ List.mem_map_of_mem later)
        rw [List.find?_cons_of_neg (by simpa using apart)]
        exact ih distinct.2 document later

def idleState : SentState := ⟨.inPhase .disconnected, by simp [Daemon.DaemonState.inPhase]⟩

/-- The documents of a request for the status and of its reply. -/
def statusDocuments : List Value :=
  [requestDocument 0 .status, responseFormat.write ⟨protocolVersion, 1, .ok idleState, ""⟩]

def statusEvents : List Event :=
  [.send .status .done, .serve none (.ok idleState), .receive]

set_option maxRecDepth 10000 in
theorem statusEvents_reach :
    statusEvents.foldl (step (textWire statusDocuments) "") opened =
      { opened with
        client := ⟨2, ""⟩
        issued := [.status]
        answers := [⟨0, .status, .ok idleState⟩]
        returned := [⟨0, some 0, .ok idleState⟩]
        written := statusDocuments } := by
  rfl

/-- The reply to the first request is its own, and a refusal would have named it. -/
theorem status_belongs_to_request :
    (∃ command, ⟨0, command, .ok idleState⟩ ∈
      (statusEvents.foldl (step (textWire statusDocuments) "") opened).answers) ∧
    (respond (textWire statusDocuments) "" (.ok idleState) (requestDocument 0 .status).toText
      (decodeOrRefuse (textWire statusDocuments) (some .invalidFrame)
        (requestDocument 0 .status).toText)).operationId = 1 := by
  have read : ∀ document ∈ statusDocuments,
      (textWire statusDocuments).read ((textWire statusDocuments).write document) =
        some document :=
    find_toText (by decide)
  constructor
  · have belongs := (success_belongs_to_request (textWire statusDocuments) "").1 statusEvents
    dsimp only at belongs
    rw [statusEvents_reach] at belongs ⊢
    rcases belongs (by decide) read 0 (some 0) idleState (by simp) with ⟨_, command, _, answer, _⟩
    exact ⟨command, answer⟩
  · apply (success_belongs_to_request (textWire statusDocuments) "").2 (some .invalidFrame) _
      .invalidFrame (requestDocument 0 .status) 1 (.ok idleState) rfl
    · exact read (requestDocument 0 .status) (by simp [statusDocuments])
    · exact ⟨_, rfl, by simp [Foundation.Serde.Format.u64, operationIdOf], by decide⟩

end Varmlen.Contract
