import Varmlen.Contract.ByteStream

/-!
# What the bytes between the parties can do

The invariant of a connection of bytes: what the daemon has carried out, it has read from
frames that were written as a whole, one after the other, and what the client takes for a
success is such a frame of the daemon's.
-/

namespace Varmlen.Contract

open Foundation.Checks Foundation.Framing Foundation.Json Foundation.Run Foundation.Serde
open Varmlen.Daemon (DaemonErrorCode DaemonError)
open Varmlen.Daemon.Protocol

namespace ByteConnection

open Connection (operationIdOf requestDocument operationIdOf_succ operationIdOf_injective
  operationIdOf_toNat conclude_client conclude_ok)

/-- The request with a number. -/
def requestOf (number : Nat) (command : DaemonCommand) : RequestEnvelope :=
  ⟨protocolVersion, operationIdOf number, command⟩

/-- What was written for a request. -/
structure IsRequest (connection : ByteConnection) (sent : Sent) : Prop where
  issued : ∃ command, connection.issued[sent.number]? = some command ∧
    requestDocument sent.number command ∈ connection.written ∧
    sent.chunk.payload = toBytes (requestDocument sent.number command)
  fits : sent.chunk.payload.length ≤ maxFrameBytes

/-- The daemon has read the frame that was written for a request, and its end. -/
def IsOwn (connection : ByteConnection) (number : Nat) (command : DaemonCommand) : Prop :=
  connection.issued[number]? = some command ∧
    ∃ front sent back, connection.sent = front ++ sent :: back ∧ sent.number = number ∧
      sent.chunk.IsWhole ∧
      (stream (front.map Sent.chunk)).length + 4 + sent.chunk.payload.length ≤ connection.consumed

/-- A request with this result was carried out. -/
def Succeeded (connection : ByteConnection) (number : Nat) (state : SentState) : Prop :=
  ∃ command, connection.issued[number]? = some command ∧
    ⟨requestOf number command, .ok state⟩ ∈ connection.handled

structure IsReply (connection : ByteConnection) (reply : Reply) : Prop where
  written : responseFormat.write reply.response ∈ connection.written
  payload : reply.chunk.payload = toBytes (responseFormat.write reply.response)
  fits : reply.chunk.payload.length ≤ maxFrameBytes
  success : ∀ state, reply.response.result = .ok state → ∃ number,
    reply.response.operationId = operationIdOf number ∧ number < connection.issued.length ∧
      connection.Succeeded number state

structure Sound (connection : ByteConnection) : Prop where
  nextId : connection.issued.length + 1 < 2 ^ 64 →
    connection.client.nextOperationId = operationIdOf connection.issued.length
  waiting : ∀ operationId, connection.waiting = some operationId →
    connection.issued ≠ [] ∧ operationId = operationIdOf (connection.issued.length - 1)
  sent : ∀ sent ∈ connection.sent, connection.IsRequest sent
  order : (connection.sent.map Sent.number).Pairwise (· < ·)
  handled : ∀ handled ∈ connection.handled, ∃ number command,
    handled.request = requestOf number command ∧ connection.IsOwn number command
  /-- Requests are carried out in their order, and each of them once. -/
  once : (connection.handled.map Handled.request).Pairwise fun request later =>
    request.operationId.toNat < later.operationId.toNat
  replies : ∀ reply ∈ connection.replies, connection.IsReply reply
  returned : ∀ number state, (number, .ok state) ∈ connection.returned →
    connection.Succeeded number state

theorem pairwise_short {α : Type} {related : α → α → Prop} {items : List α}
    (single : items.length ≤ 1) : items.Pairwise related := by
  match items, single with
  | [], _ => exact List.Pairwise.nil
  | [item], _ => exact List.pairwise_singleton _ _

section Steps

variable {connection : ByteConnection}

theorem sound_opened : Sound opened where
  nextId _ := rfl
  waiting := by simp [opened]
  sent := by simp [opened]
  order := by simp [opened]
  handled := by simp [opened]
  once := by simp [opened]
  replies := by simp [opened]
  returned := by simp [opened]

theorem IsRequest.lt {sent : Sent} (request : connection.IsRequest sent) :
    sent.number < connection.issued.length := by
  obtain ⟨command, issued, _⟩ := request.issued
  exact (List.getElem?_eq_some_iff.1 issued).1

/-- The frames that were written for requests, as envelopes. -/
theorem envelopes_sent (sound : Sound connection) :
    ∀ chunk ∈ connection.sent.map Sent.chunk, IsEnvelope connection.written chunk.payload := by
  intro chunk member
  obtain ⟨sent, listed, rfl⟩ := List.mem_map.1 member
  obtain ⟨⟨command, _, written, payload⟩, fits⟩ := sound.sent sent listed
  exact ⟨_, _, written, isIntegral_request (requestOf sent.number command), payload, fits⟩

theorem envelopes_replies (sound : Sound connection) :
    ∀ chunk ∈ connection.replies.map Reply.chunk, IsEnvelope connection.written chunk.payload := by
  intro chunk member
  obtain ⟨reply, listed, rfl⟩ := List.mem_map.1 member
  obtain ⟨written, payload, fits, _⟩ := sound.replies reply listed
  exact ⟨_, _, written, isIntegral_response reply.response, payload, fits⟩

/-- What is read of the bytes that have arrived stands in the whole stream. -/
theorem position_of_read {bytes payload rest : Bytes} {arrived place : Nat}
    (read : readFrame maxFrameBytes ((bytes.take arrived).drop place) = .frame payload rest) :
    place ≤ bytes.length ∧ ∃ after,
      readFrame maxFrameBytes (bytes.drop place) = .frame payload after := by
  constructor
  · obtain ⟨a, b, c, d, isGiven, _⟩ := readFrame_eq_frame read
    have positive : 0 < ((bytes.take arrived).drop place).length := by
      rw [isGiven]
      simp
    rw [List.length_drop, List.length_take] at positive
    omega
  · have isPrefix : (bytes.take arrived).drop place <+: bytes.drop place :=
      (List.take_prefix arrived bytes).drop place
    obtain ⟨more, whole⟩ := isPrefix
    rw [← whole]
    exact ⟨_, readFrame_append read⟩

section Reading

variable {read : Bytes → Option Value} {parseUrl : String → Option Core.Url}

theorem document_of_request {payload : Bytes} {request : RequestEnvelope}
    (decoded : decodeRequestFrame (byteWire read parseUrl) payload = .ok request) :
    ∃ document, read payload = some document ∧ requestFormat.read document = some request := by
  rw [decodeRequestFrame] at decoded
  obtain ⟨_, _, decoded⟩ := bind_eq_ok.1 decoded
  obtain ⟨found, isRead, decoded⟩ := bind_eq_ok.1 decoded
  obtain ⟨_, _, returned⟩ := bind_eq_ok.1 decoded
  cases returned
  rw [needed_eq_ok] at isRead
  exact Option.bind_eq_some_iff.1 isRead

theorem document_of_response {payload : Bytes} {response : ResponseEnvelope}
    (decoded : decodeResponseFrame (byteWire read parseUrl) payload = .ok response) :
    ∃ document, read payload = some document ∧ responseFormat.read document = some response := by
  rw [decodeResponseFrame] at decoded
  obtain ⟨_, _, decoded⟩ := bind_eq_ok.1 decoded
  obtain ⟨found, isRead, decoded⟩ := bind_eq_ok.1 decoded
  obtain ⟨_, _, returned⟩ := bind_eq_ok.1 decoded
  cases returned
  rw [needed_eq_ok] at isRead
  exact Option.bind_eq_some_iff.1 isRead

/-- A frame that the daemon accepts is the frame of a request at the place where it reads. -/
theorem request_of_read (sound : Sound connection) (lawful : Lawful read connection.written)
    {payload after : Bytes} (inside : connection.consumed ≤ connection.toDaemon.length)
    (isRead : readFrame maxFrameBytes (connection.toDaemon.drop connection.consumed) =
      .frame payload after)
    {request : RequestEnvelope}
    (decoded : decodeRequestFrame (byteWire read parseUrl) payload = .ok request) :
    ∃ front sent back command, connection.sent = front ++ sent :: back ∧
      (stream (front.map Sent.chunk)).length = connection.consumed ∧ sent.chunk.IsWhole ∧
      payload = sent.chunk.payload ∧ connection.issued[sent.number]? = some command ∧
      request = requestOf sent.number command := by
  obtain ⟨document, found, isRequest⟩ := document_of_request decoded
  have several : ¬topParts document ≤ 1 := by
    intro few
    rw [request_few few] at isRequest
    cases isRequest
  have accepted := acceptable_of_read lawful (envelopes_sent sound) found several
  obtain ⟨front, chunk, back, parts, whole, place, isPayload⟩ :=
    written_of_read large_opening
      (fun chunk member => shaped_of_envelope (envelopes_sent sound chunk member))
      (List.take_append_drop connection.consumed connection.toDaemon).symm isRead accepted
  obtain ⟨left, others, isSent, rfl, tail⟩ := List.map_eq_append_iff.1 parts
  obtain ⟨sent, right, isOthers, rfl, rfl⟩ := List.map_eq_cons_iff.1 tail
  have listed : sent ∈ connection.sent := by
    rw [isSent, isOthers]
    exact List.mem_append_right _ List.mem_cons_self
  obtain ⟨command, issued, written, wrote⟩ := (sound.sent sent listed).issued
  refine ⟨left, sent, right, command, by rw [isSent, isOthers], ?_, whole, isPayload, issued, ?_⟩
  · rw [← place, List.length_take, Nat.min_eq_left inside]
  · rw [isPayload, wrote, lawful.readsBack _ written, Option.some.injEq] at found
    rw [← found, requestDocument, requestFormat.readsBack, Option.some.injEq] at isRequest
    exact isRequest.symm

/-- A frame that the client decodes is the frame of a response. -/
theorem reply_of_read (sound : Sound connection) (lawful : Lawful read connection.written)
    {payload after : Bytes} {place : Nat}
    (isRead : readFrame maxFrameBytes (connection.toClient.drop place) = .frame payload after)
    {response : ResponseEnvelope}
    (decoded : decodeResponseFrame (byteWire read parseUrl) payload = .ok response) :
    ∃ reply ∈ connection.replies, reply.chunk.IsWhole ∧ response = reply.response := by
  obtain ⟨document, found, isResponse⟩ := document_of_response decoded
  have several : ¬topParts document ≤ 1 := by
    intro few
    rw [response_few few] at isResponse
    cases isResponse
  have accepted := acceptable_of_read lawful (envelopes_replies sound) found several
  obtain ⟨front, chunk, back, parts, whole, _, isPayload⟩ :=
    written_of_read large_opening
      (fun chunk member => shaped_of_envelope (envelopes_replies sound chunk member))
      (List.take_append_drop place connection.toClient).symm isRead accepted
  have member : chunk ∈ connection.replies.map Reply.chunk := by
    rw [parts]
    exact List.mem_append_right _ List.mem_cons_self
  obtain ⟨reply, listed, rfl⟩ := List.mem_map.1 member
  obtain ⟨written, wrote, _, _⟩ := sound.replies reply listed
  refine ⟨reply, listed, whole, ?_⟩
  rw [isPayload, wrote, lawful.readsBack _ written, Option.some.injEq] at found
  rw [← found, responseFormat.readsBack, Option.some.injEq] at isResponse
  exact isResponse.symm

end Reading

/-! ### What grows -/

/-- Nothing of what has happened is taken back. -/
structure Grows (before after : ByteConnection) : Prop where
  issued : before.issued <+: after.issued
  sent : before.sent <+: after.sent
  consumed : before.consumed ≤ after.consumed
  handled : before.handled ⊆ after.handled
  written : before.written ⊆ after.written

section Grows

variable {later : ByteConnection}

theorem getElem?_of_grows {α : Type} {items more : List α} {index : Nat} {item : α}
    (isPrefix : items <+: more) (found : items[index]? = some item) : more[index]? = some item := by
  obtain ⟨rest, rfl⟩ := isPrefix
  rwa [List.getElem?_append_left (List.getElem?_eq_some_iff.1 found).1]

theorem IsRequest.mono {sent : Sent} (request : connection.IsRequest sent)
    (grows : Grows connection later) : later.IsRequest sent := by
  obtain ⟨⟨command, issued, written, payload⟩, fits⟩ := request
  exact ⟨⟨command, getElem?_of_grows grows.issued issued, grows.written written, payload⟩, fits⟩

theorem IsOwn.mono {number : Nat} {command : DaemonCommand} (own : connection.IsOwn number command)
    (grows : Grows connection later) : later.IsOwn number command := by
  obtain ⟨issued, front, sent, back, parts, same, whole, place⟩ := own
  obtain ⟨more, isSent⟩ := grows.sent
  refine ⟨getElem?_of_grows grows.issued issued, front, sent, back ++ more, ?_, same, whole,
    Nat.le_trans place grows.consumed⟩
  rw [← isSent, parts, List.append_assoc, List.cons_append]

theorem Succeeded.mono {number : Nat} {state : SentState}
    (succeeded : connection.Succeeded number state) (grows : Grows connection later) :
    later.Succeeded number state := by
  obtain ⟨command, issued, handled⟩ := succeeded
  exact ⟨command, getElem?_of_grows grows.issued issued, grows.handled handled⟩

theorem IsReply.mono {reply : Reply} (isReply : connection.IsReply reply)
    (grows : Grows connection later) : later.IsReply reply where
  written := grows.written isReply.written
  payload := isReply.payload
  fits := isReply.fits
  success state ok := by
    obtain ⟨number, named, known, succeeded⟩ := isReply.success state ok
    exact ⟨number, named, Nat.lt_of_lt_of_le known grows.issued.length_le, succeeded.mono grows⟩

end Grows

theorem Grows.refl : Grows connection connection :=
  ⟨List.prefix_refl _, List.prefix_refl _, Nat.le_refl _, List.Subset.refl _, List.Subset.refl _⟩

/-- A step that adds to none of the lists. -/
theorem Grows.same {later : ByteConnection} (issued : later.issued = connection.issued)
    (sent : later.sent = connection.sent) (consumed : later.consumed = connection.consumed)
    (handled : later.handled = connection.handled) (written : later.written = connection.written) :
    Grows connection later :=
  ⟨issued ▸ List.prefix_refl _, sent ▸ List.prefix_refl _, consumed ▸ Nat.le_refl _,
    handled ▸ List.Subset.refl _, written ▸ List.Subset.refl _⟩

/-! ### Steps of the client -/

/-- A request returns, with a success only when the daemon had one for it. -/
theorem sound_finish (sound : Sound connection) {result : Except ClientError SentState}
    (success : ∀ state, result = .ok state →
      connection.Succeeded (connection.issued.length - 1) state) :
    Sound (connection.finish result) where
  nextId := sound.nextId
  waiting := by simp [finish]
  sent entry member := (sound.sent entry member).mono (.same rfl rfl rfl rfl rfl)
  order := sound.order
  handled := sound.handled
  once := sound.once
  replies reply member := (sound.replies reply member).mono (.same rfl rfl rfl rfl rfl)
  returned := by
    intro number state member
    cases List.mem_append.1 member with
    | inl earlier => exact sound.returned number state earlier
    | inr last =>
        rw [List.mem_singleton, Prod.mk.injEq] at last
        exact last.1 ▸ success state last.2.symm

/-- Bytes can be taken from the stream to the client, or dropped. -/
theorem sound_taken (sound : Sound connection) (taken : Nat) (client : DaemonClient)
    (same : client.nextOperationId = connection.client.nextOperationId) :
    Sound { connection with client, taken } where
  nextId few := same.trans (sound.nextId few)
  waiting := sound.waiting
  sent entry member := (sound.sent entry member).mono (.same rfl rfl rfl rfl rfl)
  order := sound.order
  handled := sound.handled
  once := sound.once
  replies reply member := (sound.replies reply member).mono (.same rfl rfl rfl rfl rfl)
  returned := sound.returned

theorem sound_giveUp (sound : Sound connection) (error : ClientError) (dropped : Nat) :
    Sound (giveUp error dropped connection) := by
  rw [giveUp]
  split
  next => exact sound
  next => exact sound_finish (sound_taken sound _ _ rfl) fun _ failed => nomatch failed

theorem sound_receive (sound : Sound connection) (few : connection.issued.length < 2 ^ 64)
    {read : Bytes → Option Value} {parseUrl : String → Option Core.Url}
    (lawful : Lawful read connection.written) (arrived : Nat) :
    Sound (receive (byteWire read parseUrl) arrived connection) := by
  rw [receive]
  split
  next => exact sound
  next operationId asked =>
    split
    next => exact sound
    next => exact sound_finish (sound_taken sound _ _ rfl) fun _ failed => nomatch failed
    next payload rest isRead =>
      apply sound_finish (sound_taken sound _ _ (conclude_client operationId payload _))
      intro state ok
      obtain ⟨response, decoded, matching, given⟩ := conclude_ok ok
      obtain ⟨_, after, whole⟩ := position_of_read isRead
      obtain ⟨reply, listed, _, rfl⟩ := reply_of_read sound lawful whole decoded
      obtain ⟨number, named, known, succeeded⟩ := (sound.replies reply listed).success state given
      obtain ⟨begun, current⟩ := sound.waiting operationId asked
      have positive : 0 < connection.issued.length := List.length_pos_iff.2 begun
      have own : number = connection.issued.length - 1 := by
        apply operationIdOf_injective _ _ (named.symm.trans (matching.trans current))
        · exact Nat.lt_of_le_of_lt known few
        · omega
      exact own ▸ succeeded

/-- A request begins, and its frame may be written. -/
theorem sound_begin (sound : Sound connection) (idle : connection.waiting = none)
    (few : connection.issued.length + 1 < 2 ^ 64) (command : DaemonCommand) (sent : List Sent)
    (documents : List Value) (single : sent.length ≤ 1)
    (own : ∀ entry ∈ sent, entry.number = connection.issued.length ∧
      requestDocument connection.issued.length command ∈ documents ∧
      entry.chunk.payload = toBytes (requestDocument connection.issued.length command) ∧
      entry.chunk.payload.length ≤ maxFrameBytes) :
    Sound { connection with
      client := connection.client.takeOperationId.2
      issued := connection.issued ++ [command]
      sent := connection.sent ++ sent
      written := connection.written ++ documents } := by
  have grows : Grows connection { connection with
      client := connection.client.takeOperationId.2
      issued := connection.issued ++ [command]
      sent := connection.sent ++ sent
      written := connection.written ++ documents } :=
    ⟨List.prefix_append _ _, List.prefix_append _ _, Nat.le_refl _, List.Subset.refl _,
      List.subset_append_left _ _⟩
  constructor
  · intro more
    rw [List.length_append, List.length_singleton] at more ⊢
    change max (connection.client.nextOperationId + 1) 1 = _
    rw [sound.nextId few, operationIdOf_succ more]
  · intro operationId asked
    cases idle.symm.trans asked
  · intro entry member
    cases List.mem_append.1 member with
    | inl earlier => exact (sound.sent entry earlier).mono grows
    | inr last =>
        obtain ⟨isLast, listed, payload, fits⟩ := own entry last
        refine ⟨⟨command, ?_, ?_, ?_⟩, fits⟩
        · rw [isLast, List.getElem?_concat_length]
        · rw [isLast]
          exact List.mem_append_right _ listed
        · rw [isLast, payload]
  · rw [List.map_append]
    apply List.pairwise_append.2 ⟨sound.order, ?_, ?_⟩
    · exact pairwise_short (by rwa [List.length_map])
    · intro earlier member later last
      obtain ⟨before, listed, rfl⟩ := List.mem_map.1 member
      obtain ⟨entry, isLast, rfl⟩ := List.mem_map.1 last
      rw [(own entry isLast).1]
      exact (sound.sent before listed).lt
  · intro handled member
    obtain ⟨number, known, same, isOwn⟩ := sound.handled handled member
    exact ⟨number, known, same, isOwn.mono grows⟩
  · exact sound.once
  · intro reply member
    exact (sound.replies reply member).mono grows
  · intro number state member
    exact (sound.returned number state member).mono grows

theorem sound_wait (sound : Sound connection) (begun : connection.issued ≠ [])
    {operationId : UInt64} (current : operationId = operationIdOf (connection.issued.length - 1)) :
    Sound { connection with waiting := some operationId } where
  nextId := sound.nextId
  waiting := by
    intro asked same
    exact ⟨begun, (Option.some.inj same).symm.trans current⟩
  sent entry member := (sound.sent entry member).mono (.same rfl rfl rfl rfl rfl)
  order := sound.order
  handled := sound.handled
  once := sound.once
  replies reply member := (sound.replies reply member).mono (.same rfl rfl rfl rfl rfl)
  returned := sound.returned

theorem encodeFrame_fits {read : Bytes → Option Value} {parseUrl : String → Option Core.Url}
    {document : Value} {payload : Bytes}
    (encoded : encodeFrame (byteWire read parseUrl) document = .ok payload) :
    payload = toBytes document ∧ payload.length ≤ maxFrameBytes := by
  have same := encodeFrame_eq_ok encoded
  rw [encodeFrame] at encoded
  by_cases large : maxFrameBytes < (byteWire read parseUrl).length
      ((byteWire read parseUrl).write document)
  · rw [if_pos large] at encoded
    cases encoded
  · exact ⟨same, same ▸ Nat.le_of_not_lt large⟩

theorem sound_send (sound : Sound connection) (read : Bytes → Option Value)
    (parseUrl : String → Option Core.Url) (command : DaemonCommand) (writing : ByteWriting)
    (few : connection.waiting = none → connection.issued.length + 1 < 2 ^ 64) :
    Sound (send (byteWire read parseUrl) command writing connection) := by
  rw [send]
  cases idle : connection.waiting with
  | some operationId => exact sound
  | none =>
      have ids := few idle
      have id : connection.client.takeOperationId.1 = operationIdOf connection.issued.length :=
        sound.nextId ids
      dsimp only
      rw [id]
      cases encoded : encodeFrame (byteWire read parseUrl)
          (requestFormat.write
            ⟨protocolVersion, operationIdOf connection.issued.length, command⟩) with
      | error code =>
          have begun := sound_begin sound idle ids command [] [] (Nat.zero_le _) (by simp)
          rw [List.append_nil, List.append_nil] at begun
          exact sound_finish begun fun _ failed => nomatch failed
      | ok payload =>
          obtain ⟨isPayload, fits⟩ := encodeFrame_fits encoded
          have begun (count : Nat) := sound_begin sound idle ids command
            [⟨connection.issued.length, payload, count⟩]
            [requestDocument connection.issued.length command] (Nat.le_refl 1) (by
              intro entry member
              rw [List.mem_singleton.1 member]
              exact ⟨rfl, List.mem_singleton_self _, isPayload, fits⟩)
          cases writing with
          | done =>
              apply sound_wait (begun (frame payload).length)
              · simp
              · simp
          | failed error count => exact sound_finish (begun count) fun _ failed => nomatch failed

/-! ### Steps of the daemon -/

/-- What lies before a place in the stream was written earlier. -/
theorem number_lt_of_place (sound : Sound connection) {front back front' back' : List Sent}
    {sent later : Sent} (parts : connection.sent = front ++ sent :: back)
    (laterParts : connection.sent = front' ++ later :: back')
    (before : (stream (front.map Sent.chunk)).length < (stream (front'.map Sent.chunk)).length) :
    sent.number < later.number := by
  have isPrefix : front ++ [sent] <+: front' := by
    have all : front <+: connection.sent := ⟨_, parts.symm⟩
    have all' : front' <+: connection.sent := ⟨_, laterParts.symm⟩
    cases List.prefix_or_prefix_of_prefix all all' with
    | inr shorter =>
        obtain ⟨rest, isFront⟩ := shorter
        rw [← isFront, List.map_append, stream, List.flatMap_append, List.length_append] at before
        exact absurd before (by rw [stream]; omega)
    | inl longer =>
        obtain ⟨rest, isFront⟩ := longer
        cases rest with
        | nil =>
            rw [List.append_nil] at isFront
            rw [isFront] at before
            exact absurd before (Nat.lt_irrefl _)
        | cons first rest =>
            rw [← isFront, parts, List.append_assoc, List.append_cancel_left_eq,
              List.cons_append, List.cons.injEq] at laterParts
            exact ⟨rest, by rw [← isFront, laterParts.1, List.append_assoc]; rfl⟩
  have inFront : sent ∈ front' := isPrefix.subset (by simp)
  have ordered := sound.order
  rw [laterParts, List.map_append, List.map_cons] at ordered
  exact (List.pairwise_append.1 ordered).2.2 _ (List.mem_map_of_mem inFront) _ List.mem_cons_self

theorem sound_hangUp (sound : Sound connection) (hungUp : Bool) :
    Sound { connection with hungUp } where
  nextId := sound.nextId
  waiting := sound.waiting
  sent entry member := (sound.sent entry member).mono (.same rfl rfl rfl rfl rfl)
  order := sound.order
  handled handled member := by
    obtain ⟨number, command, same, own⟩ := sound.handled handled member
    exact ⟨number, command, same, own.mono (.same rfl rfl rfl rfl rfl)⟩
  once := sound.once
  replies reply member := (sound.replies reply member).mono (.same rfl rfl rfl rfl rfl)
  returned := sound.returned

/-- The daemon has read a frame, and may have carried out the request in it. -/
theorem sound_consume (sound : Sound connection) (few : connection.issued.length < 2 ^ 64)
    {consumed : Nat} (further : connection.consumed ≤ consumed) (handled : List Handled)
    (single : handled.length ≤ 1)
    (own : ∀ entry ∈ handled, ∃ front sent back command, connection.sent = front ++ sent :: back ∧
      (stream (front.map Sent.chunk)).length = connection.consumed ∧ sent.chunk.IsWhole ∧
      connection.consumed + 4 + sent.chunk.payload.length ≤ consumed ∧
      connection.issued[sent.number]? = some command ∧
      entry.request = requestOf sent.number command) :
    Sound { connection with consumed, handled := connection.handled ++ handled } := by
  have grows : Grows connection
      { connection with consumed, handled := connection.handled ++ handled } :=
    ⟨List.prefix_refl _, List.prefix_refl _, further, List.subset_append_left _ _,
      List.Subset.refl _⟩
  constructor
  · exact sound.nextId
  · exact sound.waiting
  · intro entry member
    exact (sound.sent entry member).mono grows
  · exact sound.order
  · intro entry member
    cases List.mem_append.1 member with
    | inl earlier =>
        obtain ⟨number, command, same, isOwn⟩ := sound.handled entry earlier
        exact ⟨number, command, same, isOwn.mono grows⟩
    | inr last =>
        obtain ⟨front, sent, back, command, parts, place, whole, ends, issued, same⟩ := own entry last
        exact ⟨sent.number, command, same, issued, front, sent, back, parts, rfl, whole,
          place ▸ ends⟩
  · rw [List.map_append]
    apply List.pairwise_append.2 ⟨sound.once, ?_, ?_⟩
    · exact pairwise_short (by rwa [List.length_map])
    · intro earlier member later last
      obtain ⟨before, wasHandled, rfl⟩ := List.mem_map.1 member
      obtain ⟨entry, isLast, rfl⟩ := List.mem_map.1 last
      obtain ⟨front, sent, back, command, parts, place, _, _, issued, same⟩ := own entry isLast
      obtain ⟨number, known, isBefore, _, front', sent', back', parts', isNumber, _, ends⟩ :=
        sound.handled before wasHandled
      have smaller : number < sent.number := by
        rw [← isNumber]
        exact number_lt_of_place sound parts' parts (by omega)
      have bound : sent.number < connection.issued.length :=
        (List.getElem?_eq_some_iff.1 issued).1
      rw [same, isBefore]
      change (operationIdOf number).toNat < (operationIdOf sent.number).toNat
      rw [operationIdOf_toNat (by omega), operationIdOf_toNat (by omega)]
      exact Nat.succ_lt_succ smaller
  · intro reply member
    exact (sound.replies reply member).mono grows
  · intro number state member
    exact (sound.returned number state member).mono grows

/-- The daemon writes a response. -/
theorem sound_reply (sound : Sound connection) {response : ResponseEnvelope} {payload : Bytes}
    (isPayload : payload = toBytes (responseFormat.write response))
    (fits : payload.length ≤ maxFrameBytes)
    (success : ∀ state, response.result = .ok state → ∃ number,
      response.operationId = operationIdOf number ∧ number < connection.issued.length ∧
        connection.Succeeded number state) (count : Nat) :
    Sound { connection with
      replies := connection.replies ++ [⟨response, payload, count⟩]
      written := connection.written ++ [responseFormat.write response] } := by
  have grows : Grows connection { connection with
      replies := connection.replies ++ [⟨response, payload, count⟩]
      written := connection.written ++ [responseFormat.write response] } :=
    ⟨List.prefix_refl _, List.prefix_refl _, Nat.le_refl _, List.Subset.refl _,
      List.subset_append_left _ _⟩
  constructor
  · exact sound.nextId
  · exact sound.waiting
  · intro entry member
    exact (sound.sent entry member).mono grows
  · exact sound.order
  · intro entry member
    obtain ⟨number, command, same, own⟩ := sound.handled entry member
    exact ⟨number, command, same, own.mono grows⟩
  · exact sound.once
  · intro reply member
    cases List.mem_append.1 member with
    | inl earlier => exact (sound.replies reply earlier).mono grows
    | inr last =>
        rw [List.mem_singleton.1 last]
        exact ⟨List.mem_append_right _ (List.mem_singleton_self _), isPayload, fits, success⟩
  · exact sound.returned

/-- The daemon carries out the request in a frame, if there is one, and has a response. -/
theorem sound_answer (sound : Sound connection) (few : connection.issued.length < 2 ^ 64)
    {read : Bytes → Option Value} {parseUrl : String → Option Core.Url}
    (lawful : Lawful read connection.written) (daemonVersion : String)
    (result : Except DaemonError SentState) {payload after : Bytes}
    (inside : connection.consumed ≤ connection.toDaemon.length)
    (isRead : readFrame maxFrameBytes (connection.toDaemon.drop connection.consumed) =
      .frame payload after) :
    let decoded := decodeRequestFrame (byteWire read parseUrl) payload
    let served := { connection with
      consumed := connection.consumed + 4 + payload.length
      handled := connection.handled ++ handledOf result decoded }
    Sound served ∧ ∀ state,
      (respond (byteWire read parseUrl) daemonVersion result payload decoded).result = .ok state →
        ∃ number, (respond (byteWire read parseUrl) daemonVersion result payload decoded).operationId
          = operationIdOf number ∧ number < served.issued.length ∧
            served.Succeeded number state := by
  have further : connection.consumed ≤ connection.consumed + 4 + payload.length := by omega
  cases decoded : decodeRequestFrame (byteWire read parseUrl) payload with
  | error code =>
      exact ⟨sound_consume sound few further [] (Nat.zero_le _) (by simp),
        fun _ failed => nomatch failed⟩
  | ok request =>
      obtain ⟨front, sent, back, command, parts, place, whole, isPayload, issued, same⟩ :=
        request_of_read sound lawful inside isRead decoded
      constructor
      · apply sound_consume sound few further [⟨request, result⟩] (Nat.le_refl 1)
        intro entry member
        rw [List.mem_singleton.1 member]
        exact ⟨front, sent, back, command, parts, place, whole, isPayload ▸ Nat.le_refl _, issued,
          same⟩
      · intro state ok
        refine ⟨sent.number, congrArg RequestEnvelope.operationId same,
          (List.getElem?_eq_some_iff.1 issued).1, command, issued, ?_⟩
        rw [← same, ← show result = .ok state from ok]
        exact List.mem_append_right _ (List.mem_singleton_self _)

theorem sound_serve (sound : Sound connection) (few : connection.issued.length < 2 ^ 64)
    {read : Bytes → Option Value} {parseUrl : String → Option Core.Url}
    (lawful : Lawful read connection.written) (daemonVersion : String) (arrived : Nat)
    (result : Except DaemonError SentState) (count : Nat) :
    Sound (serve (byteWire read parseUrl) daemonVersion arrived result count connection) := by
  rw [serve]
  split
  next => exact sound
  next =>
    split
    next => exact sound
    next => exact sound_hangUp sound true
    next payload rest isRead =>
      obtain ⟨inside, after, whole⟩ := position_of_read isRead
      obtain ⟨served, success⟩ := @sound_answer connection sound few read parseUrl lawful
        daemonVersion result payload after inside whole
      dsimp only
      split
      next => exact sound_hangUp served true
      next reply encoded =>
        obtain ⟨isPayload, fits⟩ := encodeFrame_fits encoded
        exact sound_hangUp (sound_reply served isPayload fits success count) _

end Steps

/-! ## Runs -/

section Runs

variable {connection : ByteConnection} {read : Bytes → Option Value}
variable {parseUrl : String → Option Core.Url}

theorem send_issued (command : DaemonCommand) (writing : ByteWriting)
    (idle : connection.waiting = none) :
    (send (byteWire read parseUrl) command writing connection).issued =
      connection.issued ++ [command] := by
  rw [send, idle]
  dsimp only
  split
  next => rfl
  next => cases writing <;> rfl

theorem send_grows (command : DaemonCommand) (writing : ByteWriting) :
    Grows connection (send (byteWire read parseUrl) command writing connection) := by
  rw [send]
  split
  next => exact .refl
  next =>
    dsimp only
    split
    next => exact ⟨List.prefix_append _ _, List.prefix_refl _, Nat.le_refl _,
      List.Subset.refl _, List.Subset.refl _⟩
    next =>
      cases writing <;> exact ⟨List.prefix_append _ _, List.prefix_append _ _, Nat.le_refl _,
        List.Subset.refl _, List.subset_append_left _ _⟩

theorem receive_grows (wire : Wire Bytes) (arrived : Nat) :
    Grows connection (receive wire arrived connection) := by
  rw [receive]
  split
  next => exact .refl
  next =>
    split
    next => exact .refl
    next => exact .same rfl rfl rfl rfl rfl
    next => exact .same rfl rfl rfl rfl rfl

theorem giveUp_grows (error : ClientError) (dropped : Nat) :
    Grows connection (giveUp error dropped connection) := by
  rw [giveUp]
  split
  next => exact .refl
  next => exact .same rfl rfl rfl rfl rfl

theorem serve_grows (wire : Wire Bytes) (daemonVersion : String) (arrived : Nat)
    (result : Except DaemonError SentState) (count : Nat) :
    Grows connection (serve wire daemonVersion arrived result count connection) := by
  rw [serve]
  split
  next => exact .refl
  next =>
    split
    next => exact .refl
    next => exact .same rfl rfl rfl rfl rfl
    next =>
      have further (length : Nat) : connection.consumed ≤ connection.consumed + 4 + length :=
        Nat.le_trans (Nat.le_add_right _ _) (Nat.le_add_right _ _)
      dsimp only
      split
      next => exact ⟨List.prefix_refl _, List.prefix_refl _, further _,
        List.subset_append_left _ _, List.Subset.refl _⟩
      next => exact ⟨List.prefix_refl _, List.prefix_refl _, further _,
        List.subset_append_left _ _, List.subset_append_left _ _⟩

/-- A step takes nothing back. -/
theorem step_grows (daemonVersion : String) (event : ByteEvent) :
    Grows connection (step (byteWire read parseUrl) daemonVersion connection event) := by
  cases event with
  | send command writing =>
      rw [step]
      exact send_grows command writing
  | receive arrived => exact receive_grows _ arrived
  | giveUp error dropped => exact giveUp_grows error dropped
  | serve arrived result count =>
      rw [step]
      exact serve_grows _ daemonVersion arrived result count
  | hangUp => exact .same rfl rfl rfl rfl rfl

theorem sound_step (sound : Sound connection) (daemonVersion : String) (event : ByteEvent)
    (few : (step (byteWire read parseUrl) daemonVersion connection event).issued.length < 2 ^ 64)
    (lawful : Lawful read
      (step (byteWire read parseUrl) daemonVersion connection event).written) :
    Sound (step (byteWire read parseUrl) daemonVersion connection event) := by
  have grows := @step_grows connection read parseUrl daemonVersion event
  have fewBefore := Nat.lt_of_le_of_lt grows.issued.length_le few
  have lawfulBefore := lawful.subset grows.written
  cases event with
  | send command writing =>
      rw [step] at few ⊢
      apply sound_send sound
      intro idle
      have begun := congrArg List.length (@send_issued connection read parseUrl command writing idle)
      rw [List.length_append, List.length_singleton] at begun
      exact begun ▸ few
  | receive arrived => exact sound_receive sound fewBefore lawfulBefore arrived
  | giveUp error dropped => exact sound_giveUp sound error dropped
  | serve arrived result count =>
      rw [step]
      exact sound_serve sound fewBefore lawfulBefore daemonVersion arrived result count
  | hangUp => exact sound_hangUp sound true

/-- Every connection of bytes is sound while its ids last. -/
theorem sound_run (daemonVersion : String) (events : List ByteEvent)
    (few : (events.foldl (step (byteWire read parseUrl) daemonVersion) opened).issued.length <
      2 ^ 64)
    (lawful : Lawful read
      (events.foldl (step (byteWire read parseUrl) daemonVersion) opened).written) :
    Sound (events.foldl (step (byteWire read parseUrl) daemonVersion) opened) := by
  -- the two conditions are about the end of the run, and hold all along it
  let invariant (connection : ByteConnection) : Prop :=
    connection.issued.length < 2 ^ 64 → Lawful read connection.written → Sound connection
  have preserved : ∀ connection event, invariant connection → True →
      invariant (step (byteWire read parseUrl) daemonVersion connection event) := by
    intro connection event kept _ few lawful
    have grows := @step_grows connection read parseUrl daemonVersion event
    apply sound_step _ daemonVersion event few lawful
    exact kept (Nat.lt_of_le_of_lt grows.issued.length_le few) (lawful.subset grows.written)
  exact invariant_foldl preserved events opened (fun _ _ => sound_opened)
    (everyStep_true events opened) few lawful

end Runs

end ByteConnection

open ByteConnection Connection

/-- Whatever parts of frames are written, dropped or read late: the daemon carries out only
requests that were written as a whole, in their order and each at most once, and a success
that a request returns is what the daemon made of that request. -/
theorem bytes_belong_to_requests (read : Bytes → Option Value)
    (parseUrl : String → Option Core.Url) (daemonVersion : String) (events : List ByteEvent)
    (few : (events.foldl (ByteConnection.step (byteWire read parseUrl) daemonVersion)
      ByteConnection.opened).issued.length < 2 ^ 64)
    (lawful : Lawful read (events.foldl
      (ByteConnection.step (byteWire read parseUrl) daemonVersion)
        ByteConnection.opened).written) :
    let reached := events.foldl (ByteConnection.step (byteWire read parseUrl) daemonVersion)
      ByteConnection.opened
    (∀ handled ∈ reached.handled, ∃ number command,
      handled.request = requestOf number command ∧ reached.issued[number]? = some command ∧
        ∃ sent ∈ reached.sent, sent.number = number ∧ sent.chunk.IsWhole) ∧
    ((reached.handled.map Handled.request).Pairwise fun request later =>
      request.operationId.toNat < later.operationId.toNat) ∧
    ∀ number state, (number, .ok state) ∈ reached.returned →
      ∃ command, reached.issued[number]? = some command ∧
        ⟨requestOf number command, .ok state⟩ ∈ reached.handled := by
  have sound := ByteConnection.sound_run daemonVersion events few lawful
  refine ⟨?_, sound.once, sound.returned⟩
  intro handled member
  obtain ⟨number, command, same, issued, front, sent, back, parts, isNumber, whole, _⟩ :=
    sound.handled handled member
  have listed : sent ∈ front ++ sent :: back := List.mem_append_right _ List.mem_cons_self
  exact ⟨number, command, same, issued, sent, parts ▸ listed, isNumber, whole⟩

/-! ### A table as reader -/

/-- The documents of a table, read from their bytes. -/
def readTable (documents : List Value) (bytes : Bytes) : Option Value :=
  documents.find? fun document => toBytes document == bytes

/-- The documents of the table are envelopes, and none starts another one. -/
structure IsTable (documents : List Value) : Prop where
  apart : ∀ document ∈ documents, ∀ other ∈ documents,
    toBytes other <+: toBytes document → other = document
  envelope : ∀ document ∈ documents, document.isIntegral = true ∧
    [0x7b, 0x22, 0x76, 0x65] <+: toBytes document

section Table

variable {documents : List Value} {bytes : Bytes} {document found : Value}

theorem readTable_eq_some (read : readTable documents bytes = some document) :
    document ∈ documents ∧ bytes = toBytes document := by
  have same := @List.find?_some _ (fun document => toBytes document == bytes) _ _ read
  exact ⟨List.mem_of_find?_eq_some read, (beq_iff_eq.1 same).symm⟩

theorem readTable_eq_none (missing : ∀ document ∈ documents, toBytes document ≠ bytes) :
    readTable documents bytes = none := by
  apply List.find?_eq_none.2
  intro document member same
  exact missing document member (beq_iff_eq.1 same)

/-- Behind stray bytes the table has no document. -/
theorem IsTable.stray_nil (table : IsTable documents) (member : document ∈ documents)
    (listed : found ∈ documents) {stray front : Bytes} (few : stray.length ≤ 3)
    (isPrefix : front <+: toBytes document) (whole : stray ++ front = toBytes found) :
    stray = [] := by
  obtain ⟨after, starts⟩ := (table.envelope document member).2
  obtain ⟨rest, opens⟩ := (table.envelope found listed).2
  obtain ⟨more, longer⟩ := isPrefix
  rw [← opens] at whole
  rw [← starts] at longer
  match stray, few with
  | [], _ => rfl
  | [a], _ =>
      simp at whole
      rw [whole.2] at longer
      simp at longer
  | [a, b], _ =>
      simp at whole
      rw [whole.2.2] at longer
      simp at longer
  | [a, b, c], _ =>
      simp at whole
      rw [whole.2.2.2] at longer
      simp at longer

theorem readTable_lawful (table : IsTable documents) : Lawful (readTable documents) documents where
  readsBack := by
    intro document member
    cases isRead : readTable documents (toBytes document) with
    | none =>
        have missing := List.find?_eq_none.1 isRead document member
        exact absurd (beq_self_eq_true (toBytes document)) missing
    | some found =>
        obtain ⟨listed, same⟩ := readTable_eq_some isRead
        rw [table.apart _ member _ listed (same ▸ List.prefix_refl _)]
  empty := by
    apply readTable_eq_none
    intro document member same
    obtain ⟨rest, starts⟩ := (table.envelope document member).2
    rw [← starts] at same
    cases same
  control := by
    intro bytes zero
    apply readTable_eq_none
    intro document member same
    have printed := printed_toBytes (table.envelope document member).1 0 (same ▸ zero)
    exact absurd printed (by decide)
  letter := by
    intro rest
    apply readTable_eq_none
    intro document member same
    obtain ⟨after, starts⟩ := (table.envelope document member).2
    rw [← starts] at same
    exact absurd (List.cons.inj same).1 (by decide)
  cut := by
    intro document member stray front few isPrefix different found isRead
    obtain ⟨listed, same⟩ := readTable_eq_some isRead
    have noStray := table.stray_nil member listed few isPrefix same
    rw [noStray, List.nil_append] at same
    have own := table.apart _ member _ listed (same ▸ isPrefix)
    exact absurd (own ▸ same) different
  blank := by
    intro document member stray few isRead
    obtain ⟨found, isFound⟩ := Option.isSome_iff_exists.1 isRead
    obtain ⟨listed, same⟩ := readTable_eq_some isFound
    rw [table.stray_nil member listed few (List.prefix_refl _) same]
    simp

end Table

/-- A request for the status, and its reply. -/
def statusTraffic : List ByteEvent :=
  [.send .status .done, .serve 200 (.ok idleState) 200, .receive 200]

set_option maxRecDepth 10000 in
theorem statusDocuments_isTable : IsTable statusDocuments where
  apart := by
    intro document member other listed isPrefix
    simp only [statusDocuments, List.mem_cons, List.not_mem_nil, or_false] at member listed
    obtain rfl | rfl := member <;> obtain rfl | rfl := listed
    · rfl
    · exact absurd isPrefix (by decide +kernel)
    · exact absurd isPrefix (by decide +kernel)
    · rfl
  envelope := by
    intro document member
    simp only [statusDocuments, List.mem_cons, List.not_mem_nil, or_false] at member
    cases member with
    | inl request =>
        rw [request]
        exact ⟨isIntegral_request _, by decide +kernel⟩
    | inr reply =>
        rw [reply]
        exact ⟨isIntegral_response _, by decide +kernel⟩

set_option maxRecDepth 10000 in
theorem statusTraffic_reach :
    let reached := statusTraffic.foldl
      (ByteConnection.step (byteWire (readTable statusDocuments) fun _ => none) "")
        ByteConnection.opened
    reached.issued = [.status] ∧ reached.written = statusDocuments ∧
      reached.returned = [(0, .ok idleState)] := by
  exact ⟨rfl, rfl, rfl⟩

/-- The client has the daemon's answer to its request. -/
theorem bytes_of_status : ∃ command,
    ⟨requestOf 0 command, .ok idleState⟩ ∈ (statusTraffic.foldl
      (ByteConnection.step (byteWire (readTable statusDocuments) fun _ => none) "")
        ByteConnection.opened).handled := by
  obtain ⟨issued, written, returned⟩ := statusTraffic_reach
  have belongs := bytes_belong_to_requests (readTable statusDocuments) (fun _ => none) ""
    statusTraffic (by rw [issued]; decide)
    (by rw [written]; exact readTable_lawful statusDocuments_isTable)
  obtain ⟨command, _, handled⟩ := belongs.2.2 0 idleState
    (by rw [returned]; exact List.mem_singleton_self _)
  exact ⟨command, handled⟩

end Varmlen.Contract
