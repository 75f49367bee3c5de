import Varmlen.Foundation.Framing
import Varmlen.Foundation.JsonBytes
import Varmlen.Contract.Connection

/-!
# Frames on the socket

The client and the daemon exchange bytes: each frame is its length and a JSON document
(`daemon/src/server.rs`, `core/src/daemon_client.rs`).  A client that gives up may have
written a part of its frame, and may have taken a part of a reply.  What follows on that is
never mistaken for another frame: the daemon carries out only requests that were written as
a whole, each at most once, and a success is still the daemon's answer to its own request.
-/

namespace Varmlen.Contract

open Foundation.Checks Foundation.Framing Foundation.Json Foundation.Run Foundation.Serde
open Varmlen.Daemon (DaemonErrorCode DaemonError)
open Varmlen.Daemon.Protocol

/-! ## The JSON reader -/

/-- The parts at the top of a document. -/
def topParts : Value → Nat
  | .array items => items.length
  | .object fields => fields.length
  | _ => 0

/-- What holds of a JSON reader for the documents that are written. -/
structure Lawful (read : Bytes → Option Value) (documents : List Value) : Prop where
  readsBack : ∀ document ∈ documents, read (toBytes document) = some document
  empty : read [] = none
  control : ∀ bytes, 0 ∈ bytes → read bytes = none
  /-- No document starts with a letter `v`. -/
  letter : ∀ rest, read (0x76 :: rest) = none
  /-- Behind up to three bytes a document that is cut short is never closed: all that can be
  read is what fits into those bytes. -/
  cut : ∀ document ∈ documents, ∀ stray front, stray.length ≤ 3 →
    front <+: toBytes document → front ≠ toBytes document →
      ∀ found, read (stray ++ front) = some found → topParts found ≤ 1
  /-- Only white space stands before a document. -/
  blank : ∀ document ∈ documents, ∀ stray, stray.length ≤ 3 →
    (read (stray ++ toBytes document)).isSome → ∀ byte ∈ stray, byte < 0x80

/-- Frames of bytes. -/
def byteWire (read : Bytes → Option Value) (parseUrl : String → Option Core.Url) : Wire Bytes where
  write := toBytes
  read
  length := List.length
  parseUrl

theorem Lawful.subset {read : Bytes → Option Value} {documents more : List Value}
    (lawful : Lawful read more) (subset : documents ⊆ more) : Lawful read documents where
  readsBack document member := lawful.readsBack document (subset member)
  empty := lawful.empty
  control := lawful.control
  letter := lawful.letter
  cut document member := lawful.cut document (subset member)
  blank document member := lawful.blank document (subset member)

/-- Two fields that must be given are not found in a document with one part. -/
theorem record_few {document : Value} (few : topParts document ≤ 1) {first second : String}
    (different : first ≠ second) {names : List String} {given other : Option Value}
    {rest : List (Option Value)}
    (read : record (first :: second :: names) document = some (given :: other :: rest)) :
    given = none ∨ other = none := by
  cases document with
  | array items =>
      rw [record] at read
      split at read
      next =>
        match items, few with
        | [], _ =>
            simp [List.replicate_succ] at read
            exact .inl read.1.symm
        | [item], _ =>
            simp [List.replicate_succ] at read
            exact .inr read.2.1.symm
      next => cases read
  | object fields =>
      have fieldGiven : field fields first = some given ∧ field fields second = some other := by
        rw [record, List.mapM_cons, List.mapM_cons] at read
        cases isFirst : field fields first with
        | none => simp [isFirst] at read
        | some found =>
            cases isSecond : field fields second with
            | none => simp [isFirst, isSecond] at read
            | some also =>
                cases others : names.mapM (field fields) with
                | none => simp [isFirst, isSecond, others] at read
                | some others' =>
                    simp [isFirst, isSecond, others] at read
                    exact ⟨congrArg some read.1, congrArg some read.2.1⟩
      match fields, few with
      | [], _ =>
          simp only [field, List.filter_nil, Option.some.injEq] at fieldGiven
          exact .inl fieldGiven.1.symm
      | [(name, value)], _ =>
          by_cases isFirst : name = first
          · have apart : (name == second) = false := by
              simpa [isFirst] using different
            simp only [field, List.filter_cons, apart, Bool.false_eq_true, if_false,
              List.filter_nil, Option.some.injEq] at fieldGiven
            exact .inr fieldGiven.2.symm
          · have apart : (name == first) = false := by simpa using isFirst
            simp only [field, List.filter_cons, apart, Bool.false_eq_true, if_false,
              List.filter_nil, Option.some.injEq] at fieldGiven
            exact .inl fieldGiven.1.symm
  | null | bool value | number value | string value => cases read

theorem request_few {document : Value} (few : topParts document ≤ 1) :
    requestFormat.read document = none := by
  simp only [requestFormat]
  split
  next version operationId command read =>
    cases record_few few (by decide) read with
    | inl missing => simp [missing, required]
    | inr missing => simp [missing, required]
  next => rfl

theorem response_few {document : Value} (few : topParts document ≤ 1) :
    responseFormat.read document = none := by
  simp only [responseFormat]
  split
  next version operationId result daemonVersion read =>
    cases record_few few (by decide) read with
    | inl missing => simp [missing, required]
    | inr missing => simp [missing, required]
  next => rfl

/-! ## Frames of documents -/

section Frames

variable {read : Bytes → Option Value} {parseUrl : String → Option Core.Url}
variable {documents : List Value} {chunks : List Chunk}

/-- The first bytes of an envelope give a length beyond the limit. -/
theorem large_opening : maxFrameBytes < number 0 0x7b 0x22 0x76 := by decide

/-- The frame of an envelope within the limit. -/
def IsEnvelope (documents : List Value) (payload : Bytes) : Prop :=
  ∃ value rest, .object (("version", value) :: rest) ∈ documents ∧
    (Value.object (("version", value) :: rest)).isIntegral = true ∧
    payload = toBytes (.object (("version", value) :: rest)) ∧ payload.length ≤ maxFrameBytes

theorem shaped_of_envelope {payload : Bytes} (envelope : IsEnvelope documents payload) :
    Shaped maxFrameBytes 0x7b 0x22 0x76 payload := by
  obtain ⟨value, rest, _, integral, rfl, fits⟩ := envelope
  refine ⟨?_, printed_toBytes integral, fits⟩
  obtain ⟨more, fields⟩ := intercalate_cons ","
    (writeString "version" ++ ":" ++ value.write .compact 1) (Value.writeFields .compact 1 rest)
  have text : (Value.object (("version", value) :: rest)).toText =
      "\x7b" ++ "" ++ (writeString "version" ++ ":" ++ value.write .compact 1 ++ more) ++
        "" ++ "\x7d" := by
    rw [← fields]
    rfl
  have key : (writeString "version").toList =
      ['"', 'v', 'e', 'r', 's', 'i', 'o', 'n', '"'] := by
    decide
  refine ⟨Foundation.Utf8.encode ("ersion\":".toList ++ (value.write .compact 1).toList ++
    more.toList ++ ['\x7d']), ?_⟩
  rw [toBytes, text]
  simp only [String.toList_append, key]
  simp [Foundation.Utf8.encode, String.utf8EncodeChar]

/-- A frame that is decoded is told from other bytes of the stream. -/
theorem acceptable_of_read (lawful : Lawful read documents)
    (envelopes : ∀ chunk ∈ chunks, IsEnvelope documents chunk.payload) {body : Bytes}
    {document : Value} (found : read body = some document) (several : ¬topParts document ≤ 1) :
    Acceptable 0x76 chunks body where
  nonempty := by
    intro isEmpty
    rw [isEmpty, lawful.empty] at found
    cases found
  clean := by
    intro zero
    rw [lawful.control body zero] at found
    cases found
  letter := by
    intro starts
    cases body with
    | nil => cases starts
    | cons first rest =>
        rw [Option.some.inj starts, lawful.letter rest] at found
        cases found
  cut := by
    intro chunk member stray front few isPrefix different isBody
    obtain ⟨value, rest, listed, _, isPayload, _⟩ := envelopes chunk member
    rw [isPayload] at isPrefix different
    exact several (lawful.cut _ listed stray front few isPrefix different document
      (isBody ▸ found))
  plain := by
    intro chunk member stray few isBody
    obtain ⟨value, rest, listed, _, isPayload, _⟩ := envelopes chunk member
    apply lawful.blank _ listed stray few
    rw [← isPayload, ← isBody, found]
    rfl

end Frames

/-! ### Envelopes have no fractional numbers -/

section Integral

theorem isIntegral_list {α : Type} (format : Format α)
    (integral : ∀ value, (format.write value).isIntegral = true) (values : List α) :
    ((Format.list format).write values).isIntegral = true := by
  apply Value.isIntegral_array.2
  intro item member
  obtain ⟨value, _, isItem⟩ := List.mem_map.1 member
  exact isItem ▸ integral value

theorem isIntegral_command (command : DaemonCommand) :
    (commandFormat.write command).isIntegral = true := by
  have strings := isIntegral_list Format.string fun _ => rfl
  have addresses := isIntegral_list ipFormat fun _ => rfl
  have ports := isIntegral_list Format.u16 fun _ => rfl
  have port (value : UInt16) : (Format.u16.write value).isIntegral = true := rfl
  have timeout (value : UInt32) : (Format.u32.write value).isIntegral = true := rfl
  cases command with
  | status | disconnect | logTail | clearLog => rfl
  | connect request =>
      have mode : (modeFormat.write request.mode).isIntegral = true := rfl
      simp [commandFormat, connectFormat, Value.isIntegral, Value.fieldsIntegral, strings,
        addresses, mode]
  | updateSplit applications =>
      simp [commandFormat, applicationsFormat, Value.isIntegral, Value.fieldsIntegral, strings]
  | tcpPing request =>
      simp [commandFormat, tcpPingFormat, Value.isIntegral, Value.fieldsIntegral, port, timeout]
  | proxyPing request =>
      rcases request with ⟨xrayConfig, socksPort, socksPorts, dnsProbeUrls, timeoutMs⟩
      cases socksPorts <;> cases dnsProbeUrls <;>
        simp [commandFormat, proxyPingFormat, unlessEmpty, Value.isIntegral, Value.fieldsIntegral,
          strings, ports, port, timeout]

theorem isIntegral_request (request : RequestEnvelope) :
    (requestFormat.write request).isIntegral = true := by
  simp [requestFormat, Value.isIntegral, Value.fieldsIntegral, isIntegral_command, Format.u16,
    Format.u64]

theorem isIntegral_response (response : ResponseEnvelope) :
    (responseFormat.write response).isIntegral = true := by
  have state (state : SentState) : (stateFormat.write state).isIntegral = true := by
    rcases state with ⟨⟨phase, splitActive, dnsProtected, rttMs, logTail⟩, fits⟩
    have named : (phaseFormat.write phase).isIntegral = true := rfl
    cases rttMs <;> cases logTail <;>
      simp [stateFormat, whenSome, writeU32, Value.isIntegral, Value.fieldsIntegral, named]
  have error (error : DaemonError) : (errorFormat.write error).isIntegral = true := by
    have named : (errorCodeFormat.write error.code).isIntegral = true := rfl
    simp [errorFormat, Value.isIntegral, Value.fieldsIntegral, named]
  have result : (resultFormat.write response.result).isIntegral = true := by
    cases response.result with
    | ok given => simp [resultFormat, Value.isIntegral, Value.fieldsIntegral, state]
    | error given => simp [resultFormat, Value.isIntegral, Value.fieldsIntegral, error]
  rw [responseFormat]
  by_cases unreported : response.daemonVersion = "" <;>
    simp [Value.isIntegral, Value.fieldsIntegral, Format.u16, Format.u64, result, unreported]

end Integral

/-! ## The connection -/

/-- A frame of a request, and how much of it the client has written. -/
structure Sent where
  number : Nat
  chunk : Chunk

/-- A command that the daemon has carried out. -/
structure Handled where
  request : RequestEnvelope
  result : Except DaemonError SentState

/-- A response, and how much of its frame the daemon has written. -/
structure Reply where
  response : ResponseEnvelope
  chunk : Chunk

/-- Both parties and the bytes between them. -/
structure ByteConnection where
  client : DaemonClient
  waiting : Option UInt64
  issued : List DaemonCommand
  sent : List Sent
  /-- How many bytes the daemon has read. -/
  consumed : Nat
  hungUp : Bool
  handled : List Handled
  replies : List Reply
  /-- How many bytes the client has read, the ones it has dropped included. -/
  taken : Nat
  /-- What each request has returned. -/
  returned : List (Nat × Except ClientError SentState)
  /-- The documents of all frames. -/
  written : List Value

namespace ByteConnection

def opened : ByteConnection where
  client := .connected
  waiting := none
  issued := []
  sent := []
  consumed := 0
  hungUp := false
  handled := []
  replies := []
  taken := 0
  returned := []
  written := []

/-- How the client's writing of a frame goes: an error comes after some of its bytes. -/
inductive ByteWriting where
  | done
  | failed (error : ClientError) (count : Nat)

inductive ByteEvent where
  | send (command : DaemonCommand) (writing : ByteWriting)
  /-- The client reads, and as many bytes of the daemon's have arrived so far. -/
  | receive (arrived : Nat)
  /-- The client gives up, and drops what it has read of a frame. -/
  | giveUp (error : ClientError) (dropped : Nat)
  /-- The daemon reads, answers with a result and writes some bytes of the response. -/
  | serve (arrived : Nat) (result : Except DaemonError SentState) (count : Nat)
  | hangUp

def finish (connection : ByteConnection) (result : Except ClientError SentState) :
    ByteConnection :=
  { connection with
    waiting := none
    returned := connection.returned ++ [(connection.issued.length - 1, result)] }

def toDaemon (connection : ByteConnection) : Bytes := stream (connection.sent.map Sent.chunk)

def toClient (connection : ByteConnection) : Bytes := stream (connection.replies.map Reply.chunk)

section Steps

variable (wire : Wire Bytes)

def send (command : DaemonCommand) (writing : ByteWriting) (connection : ByteConnection) :
    ByteConnection :=
  match connection.waiting with
  | some _ => connection
  | none =>
      let (operationId, client) := connection.client.takeOperationId
      let document := requestFormat.write ⟨protocolVersion, operationId, command⟩
      let begun : ByteConnection := { connection with client, issued := connection.issued ++ [command] }
      match encodeFrame wire document with
      | .error code => begun.finish (.error (.protocol code))
      | .ok payload =>
          let wrote (count : Nat) : ByteConnection := { begun with
            sent := connection.sent ++ [⟨connection.issued.length, ⟨payload, count⟩⟩]
            written := connection.written ++ [document] }
          match writing with
          | .done => { wrote (frame payload).length with waiting := some operationId }
          | .failed error count => (wrote count).finish (.error error)

def receive (arrived : Nat) (connection : ByteConnection) : ByteConnection :=
  match connection.waiting with
  | none => connection
  | some operationId =>
      match readFrame maxFrameBytes ((connection.toClient.take arrived).drop connection.taken) with
      | .incomplete => connection
      | .tooLarge =>
          { connection with taken := connection.taken + 4 }.finish
            (.error (.protocol .frameTooLarge))
      | .frame payload _ =>
          let (result, client) := connection.client.conclude wire operationId payload
          { connection with client, taken := connection.taken + 4 + payload.length }.finish result

def giveUp (error : ClientError) (dropped : Nat) (connection : ByteConnection) : ByteConnection :=
  match connection.waiting with
  | none => connection
  | some _ =>
      { connection with taken := connection.taken + dropped }.finish (.error error)

/-- The command of a request that is accepted. -/
def handledOf (result : Except DaemonError SentState) :
    Except DaemonErrorCode RequestEnvelope → List Handled
  | .ok request => [⟨request, result⟩]
  | .error _ => []

/-- One round of `serve_connection_with_limits`: it ends the connection when a frame is too
large or a response cannot be written. -/
def serve (daemonVersion : String) (arrived : Nat) (result : Except DaemonError SentState)
    (count : Nat) (connection : ByteConnection) : ByteConnection :=
  if connection.hungUp then connection
  else
    match readFrame maxFrameBytes
        ((connection.toDaemon.take arrived).drop connection.consumed) with
    | .incomplete => connection
    | .tooLarge => { connection with hungUp := true }
    | .frame payload _ =>
        let decoded := decodeRequestFrame wire payload
        let response := respond wire daemonVersion result payload decoded
        let document := responseFormat.write response
        let served := { connection with
          consumed := connection.consumed + 4 + payload.length
          handled := connection.handled ++ handledOf result decoded }
        match encodeFrame wire document with
        | .error _ => { served with hungUp := true }
        | .ok reply =>
            { served with
              replies := served.replies ++ [⟨response, reply, count⟩]
              hungUp := decide (count < (frame reply).length)
              written := served.written ++ [document] }

def step (daemonVersion : String) (connection : ByteConnection) : ByteEvent → ByteConnection
  | .send command writing => send wire command writing connection
  | .receive arrived => receive wire arrived connection
  | .giveUp error dropped => giveUp error dropped connection
  | .serve arrived result count => serve wire daemonVersion arrived result count connection
  | .hangUp => { connection with hungUp := true }

end Steps

end ByteConnection

end Varmlen.Contract
