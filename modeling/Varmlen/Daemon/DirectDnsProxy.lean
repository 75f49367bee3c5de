import Varmlen.Foundation.Run
import Varmlen.Daemon.DirectDns

/-!
# The proxy of direct DNS

The proxy serves datagrams and connections side by side, a bounded number of them at a time
(`daemon/src/direct_dns.rs`).  It asks all resolvers about a query and returns the first
response that answers it.  Whatever arrives in whatever order, a response belongs to the query
that it is returned for, and no query gets two.
-/

namespace Varmlen.Daemon

open Foundation.Run
open Foundation.Files (Bytes)

/-! ## Frames of a connection -/

/-- A message behind its length in two bytes. -/
def tcpFrame (message : Bytes) : Bytes :=
  .ofNat (message.length / 256) :: .ofNat message.length :: message

def sizeOf16 (high low : UInt8) : Nat := high.toNat * 256 + low.toNat

/-- The message at the front of a stream, as soon as it is complete, and what follows. -/
def readTcpFrame : Bytes → Option (Bytes × Bytes)
  | high :: low :: rest =>
      if rest.length < sizeOf16 high low then none
      else some (rest.take (sizeOf16 high low), rest.drop (sizeOf16 high low))
  | _ => none

theorem readTcpFrame_eq_some {stream message rest : Bytes}
    (read : readTcpFrame stream = some (message, rest)) :
    stream = tcpFrame message ++ rest ∧ message.length ≤ maxDnsPacket := by
  match stream, read with
  | high :: low :: tail, read =>
      rw [readTcpFrame, Option.ite_none_left_eq_some] at read
      obtain ⟨enough, parts⟩ := read
      cases parts
      have length : (tail.take (sizeOf16 high low)).length = sizeOf16 high low := by
        rw [List.length_take, Nat.min_eq_left (Nat.le_of_not_lt enough)]
      have highSmall := high.toNat_lt
      have lowSmall := low.toNat_lt
      have isHigh : UInt8.ofNat (sizeOf16 high low / 256) = high := by
        apply UInt8.toNat_inj.1
        rw [UInt8.toNat_ofNat', sizeOf16]
        omega
      have isLow : UInt8.ofNat (sizeOf16 high low) = low := by
        apply UInt8.toNat_inj.1
        rw [UInt8.toNat_ofNat', sizeOf16]
        omega
      constructor
      · rw [tcpFrame, length, isHigh, isLow, List.cons_append, List.cons_append,
          List.take_append_drop]
      · rw [length, sizeOf16, maxDnsPacket]
        omega

/-! ## Tasks -/

/-- A datagram that is being answered, or has been. -/
structure UdpQuery (Peer : Type) where
  peer : Peer
  packet : Bytes
  /-- The resolvers that have not replied; none when the task has ended. -/
  pending : List SocketAddr
  response : Option Bytes

inductive Stage where
  | reading
  | asking (query : Bytes) (pending : List SocketAddr)
  | ended
  deriving DecidableEq, Repr

structure TcpClient where
  /-- All that the client has sent. -/
  received : Bytes
  /-- What of it is not read yet. -/
  input : Bytes
  output : Bytes
  stage : Stage

structure Proxy (Peer : Type) where
  /-- All datagrams that have arrived. -/
  datagrams : List (Peer × Bytes)
  queries : List (UdpQuery Peer)
  clients : List TcpClient

inductive ProxyEvent (Peer : Type) where
  | datagram (peer : Peer) (packet : Bytes)
  /-- A resolver replies to a datagram, or fails to. -/
  | udpReply (index : Nat) (upstream : SocketAddr) (reply : Option Bytes)
  | accept
  | bytes (index : Nat) (sent : Bytes)
  /-- A client leaves, or cannot be written to. -/
  | hangUp (index : Nat)
  /-- What a resolver sends on a connection of its own, up to the time limit. -/
  | tcpReply (index : Nat) (upstream : SocketAddr) (stream : Bytes)

namespace UdpQuery

variable {Peer : Type}

def running (query : UdpQuery Peer) : Bool := !query.pending.isEmpty

/-- `first_udp_response` when one of the resolvers is done. -/
def hear (upstream : SocketAddr) (reply : Option Bytes) (query : UdpQuery Peer) : UdpQuery Peer :=
  if upstream ∉ query.pending then query
  else
    match reply.filter fun reply => validDnsResponse query.packet (reply.take maxDnsPacket) with
    | some reply => { query with pending := [], response := some (reply.take maxDnsPacket) }
    | none => { query with pending := query.pending.erase upstream }

end UdpQuery

namespace TcpClient

def running (client : TcpClient) : Bool := decide (client.stage ≠ .ended)

/-- Read the next query and ask all resolvers about it; an invalid one ends the connection. -/
def readQuery (upstreams : List SocketAddr) (client : TcpClient) : TcpClient :=
  match client.stage, client.input with
  | .reading, high :: low :: _ =>
      if sizeOf16 high low < 12 then { client with stage := .ended }
      else
        match readTcpFrame client.input with
        | none => client
        | some (query, rest) =>
            if validDnsQuery query then
              { client with
                input := rest
                stage := if upstreams.isEmpty then .ended else .asking query upstreams }
            else { client with stage := .ended }
  | _, _ => client

def hear (upstreams : List SocketAddr) (upstream : SocketAddr) (stream : Bytes)
    (client : TcpClient) : TcpClient :=
  match client.stage with
  | .asking query pending =>
      if upstream ∉ pending then client
      else
        match (readTcpFrame stream).filter fun frame => validDnsResponse query frame.1 with
        | some (response, _) =>
            readQuery upstreams
              { client with output := client.output ++ tcpFrame response, stage := .reading }
        | none =>
            if (pending.erase upstream).isEmpty then { client with stage := .ended }
            else { client with stage := .asking query (pending.erase upstream) }
  | _ => client

end TcpClient

namespace Proxy

variable {Peer : Type}

def idle : Proxy Peer := ⟨[], [], []⟩

/-- The permits that are taken. -/
def inFlight (proxy : Proxy Peer) : Nat :=
  proxy.queries.countP UdpQuery.running + proxy.clients.countP TcpClient.running

def step (upstreams : List SocketAddr) (proxy : Proxy Peer) : ProxyEvent Peer → Proxy Peer
  | .datagram peer datagram =>
      let packet := datagram.take maxDnsPacket
      let proxy := { proxy with datagrams := proxy.datagrams ++ [(peer, packet)] }
      if validDnsQuery packet = true ∧ proxy.inFlight < maxInFlight then
        { proxy with queries := proxy.queries ++ [⟨peer, packet, upstreams, none⟩] }
      else proxy
  | .udpReply index upstream reply =>
      { proxy with queries := proxy.queries.modify index (UdpQuery.hear upstream reply) }
  | .accept =>
      if proxy.inFlight < maxInFlight then
        { proxy with clients := proxy.clients ++ [⟨[], [], [], .reading⟩] }
      else proxy
  | .bytes index sent =>
      { proxy with
        clients := proxy.clients.modify index fun client =>
          TcpClient.readQuery upstreams
            { client with received := client.received ++ sent, input := client.input ++ sent } }
  | .hangUp index =>
      { proxy with
        clients := proxy.clients.modify index fun client => { client with stage := .ended } }
  | .tcpReply index upstream stream =>
      { proxy with
        clients := proxy.clients.modify index (TcpClient.hear upstreams upstream stream) }

end Proxy

/-! ## The invariant -/

/-- A task keeps to its query: what it has returned answers it, and then it asks no longer. -/
structure UdpQuery.Sound {Peer : Type} (upstreams : List SocketAddr) (query : UdpQuery Peer) :
    Prop where
  valid : validDnsQuery query.packet = true
  asked : query.pending ⊆ upstreams
  answered : ∀ response, query.response = some response →
    validDnsResponse query.packet response = true ∧ query.running = false

/-- A query and the response that was returned for it. -/
def IsExchange (exchange : Bytes × Bytes) : Prop :=
  validDnsQuery exchange.1 = true ∧ validDnsResponse exchange.1 exchange.2 = true

def queriesOf (exchanges : List (Bytes × Bytes)) : Bytes :=
  exchanges.flatMap fun exchange => tcpFrame exchange.1

def responsesOf (exchanges : List (Bytes × Bytes)) : Bytes :=
  exchanges.flatMap fun exchange => tcpFrame exchange.2

namespace TcpClient

/-- What a client has sent, up to the place that is read, is its queries. -/
def IsAt (client : TcpClient) (exchanges : List (Bytes × Bytes)) : Prop :=
  match client.stage with
  | .reading => client.received = queriesOf exchanges ++ client.input
  | .asking query _ =>
      validDnsQuery query = true ∧
        client.received = queriesOf exchanges ++ tcpFrame query ++ client.input
  | .ended => queriesOf exchanges <+: client.received

def Sound (client : TcpClient) : Prop :=
  ∃ exchanges, (∀ exchange ∈ exchanges, IsExchange exchange) ∧
    client.output = responsesOf exchanges ∧ client.IsAt exchanges

variable {client : TcpClient} {exchanges : List (Bytes × Bytes)}

theorem IsAt.isPrefix (isAt : client.IsAt exchanges) : queriesOf exchanges <+: client.received := by
  rw [IsAt] at isAt
  split at isAt
  next => exact ⟨_, isAt.symm⟩
  next => exact ⟨_, (isAt.2.trans (List.append_assoc _ _ _)).symm⟩
  next => exact isAt

/-- A client that ends keeps what it has. -/
theorem Sound.end (sound : client.Sound) : Sound { client with stage := .ended } := by
  obtain ⟨exchanges, valid, output, isAt⟩ := sound
  exact ⟨exchanges, valid, output, isAt.isPrefix⟩

theorem Sound.readQuery (upstreams : List SocketAddr) (sound : client.Sound) :
    (client.readQuery upstreams).Sound := by
  rw [TcpClient.readQuery]
  split
  next high low rest reading isInput =>
    split
    next => exact sound.end
    next =>
      split
      next => exact sound
      next query rest read =>
        split
        next valid =>
          obtain ⟨exchanges, each, output, isAt⟩ := sound
          rw [IsAt, reading] at isAt
          obtain ⟨parts, _⟩ := readTcpFrame_eq_some read
          refine ⟨exchanges, each, output, ?_⟩
          have received : client.received = queriesOf exchanges ++ tcpFrame query ++ rest := by
            rw [isAt, parts, List.append_assoc]
          rw [IsAt]
          dsimp only
          split
          next ended =>
            split at ended
            next => cases ended
            next => cases ended
          next asked pending asking =>
            split at asking
            next => cases asking
            next =>
              cases asking
              exact ⟨valid, received⟩
          next =>
            rw [received, List.append_assoc]
            exact List.prefix_append _ _
        next => exact sound.end
  next => exact sound

theorem Sound.hear (upstreams : List SocketAddr) (upstream : SocketAddr) (stream : Bytes)
    (sound : client.Sound) : (client.hear upstreams upstream stream).Sound := by
  rw [TcpClient.hear]
  split
  next query pending asking =>
    split
    next => exact sound
    next =>
      split
      next response rest heard =>
        apply Sound.readQuery
        obtain ⟨exchanges, each, output, isAt⟩ := sound
        rw [IsAt, asking] at isAt
        have answers := (Option.filter_eq_some_iff.1 heard).2
        refine ⟨exchanges ++ [(query, response)], ?_, ?_, ?_⟩
        · intro exchange member
          cases List.mem_append.1 member with
          | inl earlier => exact each exchange earlier
          | inr last => exact List.mem_singleton.1 last ▸ ⟨isAt.1, answers⟩
        · simp [output, responsesOf]
        · simpa [IsAt, queriesOf] using isAt.2
      next =>
        split
        next => exact sound.end
        next =>
          obtain ⟨exchanges, each, output, isAt⟩ := sound
          rw [IsAt, asking] at isAt
          exact ⟨exchanges, each, output, isAt⟩
  next => exact sound

theorem Sound.receive (sent : Bytes) (sound : client.Sound) :
    Sound { client with received := client.received ++ sent, input := client.input ++ sent } := by
  obtain ⟨exchanges, each, output, isAt⟩ := sound
  refine ⟨exchanges, each, output, ?_⟩
  cases stage : client.stage with
  | reading =>
      rw [IsAt, stage] at isAt
      exact (congrArg (· ++ sent) isAt).trans (List.append_assoc _ _ _)
  | asking query pending =>
      rw [IsAt, stage] at isAt
      exact ⟨isAt.1, (congrArg (· ++ sent) isAt.2).trans (List.append_assoc _ _ _)⟩
  | ended =>
      rw [IsAt, stage] at isAt
      exact isAt.trans (List.prefix_append _ _)

end TcpClient

/-! ## Runs -/

namespace Proxy

variable {Peer : Type}

/-- No more tasks run than there are permits, and each does its own work. -/
structure Sound (upstreams : List SocketAddr) (proxy : Proxy Peer) : Prop where
  bounded : proxy.inFlight ≤ maxInFlight
  /-- The tasks are for datagrams that have arrived, in their order and one for each. -/
  queries : (proxy.queries.map fun query => (query.peer, query.packet)).Sublist proxy.datagrams
  udp : ∀ query ∈ proxy.queries, query.Sound upstreams
  tcp : ∀ client ∈ proxy.clients, client.Sound

theorem countP_modify_le {α : Type} {counted : α → Bool} {change : α → α}
    (less : ∀ item, counted (change item) = true → counted item = true) (items : List α)
    (index : Nat) : (items.modify index change).countP counted ≤ items.countP counted := by
  induction items generalizing index with
  | nil => simp
  | cons item rest ih =>
      cases index with
      | zero =>
          rw [List.modify_zero_cons, List.countP_cons, List.countP_cons]
          have step := less item
          split <;> split <;> simp_all
      | succ index =>
          rw [List.modify_succ_cons, List.countP_cons, List.countP_cons]
          exact Nat.add_le_add_right (ih index) _

theorem forall_modify {α : Type} {property : α → Prop} {change : α → α} {items : List α}
    (all : ∀ item ∈ items, property item) (kept : ∀ item, property item → property (change item))
    (index : Nat) : ∀ item ∈ items.modify index change, property item := by
  induction items generalizing index with
  | nil => simp
  | cons item rest ih =>
      rw [List.forall_mem_cons] at all
      cases index with
      | zero =>
          rw [List.modify_zero_cons, List.forall_mem_cons]
          exact ⟨kept item all.1, all.2⟩
      | succ index =>
          rw [List.modify_succ_cons, List.forall_mem_cons]
          exact ⟨all.1, ih all.2 index⟩

theorem map_modify_same {α β : Type} {value : α → β} {change : α → α}
    (same : ∀ item, value (change item) = value item) (items : List α) (index : Nat) :
    (items.modify index change).map value = items.map value := by
  induction items generalizing index with
  | nil => simp
  | cons item rest ih =>
      cases index with
      | zero => rw [List.modify_zero_cons, List.map_cons, List.map_cons, same]
      | succ index => rw [List.modify_succ_cons, List.map_cons, List.map_cons, ih]

variable {upstreams : List SocketAddr} {proxy : Proxy Peer}

theorem sound_idle : Sound upstreams (idle : Proxy Peer) where
  bounded := Nat.zero_le _
  queries := List.Sublist.refl _
  udp := by simp [idle]
  tcp := by simp [idle]

/-- A datagram arrives, and may get a task. -/
theorem sound_datagram (sound : Sound upstreams proxy) (peer : Peer) (packet : Bytes) :
    Sound upstreams (step upstreams proxy (.datagram peer packet)) := by
  have dropped : Sound upstreams
      { proxy with datagrams := proxy.datagrams ++ [(peer, packet.take maxDnsPacket)] } :=
    ⟨sound.bounded, sound.queries.trans (List.sublist_append_left _ _), sound.udp, sound.tcp⟩
  rw [step]
  split
  next taken =>
    obtain ⟨valid, room⟩ := taken
    constructor
    · have one : [(⟨peer, packet.take maxDnsPacket, upstreams, none⟩ : UdpQuery Peer)].countP
          UdpQuery.running ≤ 1 := List.countP_le_length
      rw [inFlight] at room ⊢
      rw [List.countP_append]
      dsimp only at room ⊢
      omega
    · rw [List.map_append]
      exact sound.queries.append (List.Sublist.refl _)
    · intro query member
      cases List.mem_append.1 member with
      | inl earlier => exact sound.udp query earlier
      | inr last =>
          rw [List.mem_singleton.1 last]
          exact ⟨valid, List.Subset.refl _, fun _ given => nomatch given⟩
    · exact sound.tcp
  next => exact dropped

theorem sound_hear {query : UdpQuery Peer} (sound : query.Sound upstreams)
    (upstream : SocketAddr) (reply : Option Bytes) :
    (query.hear upstream reply).Sound upstreams := by
  rw [UdpQuery.hear]
  split
  next => exact sound
  next asked =>
    have open' : query.response = none := by
      cases given : query.response with
      | none => rfl
      | some response =>
          have stopped := (sound.answered response given).2
          rw [UdpQuery.running, Bool.not_eq_false', List.isEmpty_iff] at stopped
          rw [stopped] at asked
          exact absurd List.not_mem_nil asked
    split
    next response heard =>
      have answers := (Option.filter_eq_some_iff.1 heard).2
      refine ⟨sound.valid, List.nil_subset _, ?_⟩
      intro given isGiven
      cases isGiven
      exact ⟨answers, rfl⟩
    next =>
      refine ⟨sound.valid, List.Subset.trans List.erase_subset sound.asked, ?_⟩
      intro given isGiven
      exact nomatch open'.symm.trans isGiven

theorem hear_running {query : UdpQuery Peer} {upstream : SocketAddr} {reply : Option Bytes}
    (runs : (query.hear upstream reply).running = true) : query.running = true := by
  rw [UdpQuery.hear] at runs
  split at runs
  next => exact runs
  next asked =>
    rw [UdpQuery.running]
    cases pending : query.pending with
    | nil => simp [pending] at asked
    | cons first rest => rfl

theorem hear_same (query : UdpQuery Peer) (upstream : SocketAddr) (reply : Option Bytes) :
    ((query.hear upstream reply).peer, (query.hear upstream reply).packet) =
      (query.peer, query.packet) := by
  rw [UdpQuery.hear]
  split
  next => rfl
  next => split <;> rfl

/-- A client that has ended stays so. -/
theorem readQuery_running {client : TcpClient}
    (runs : (client.readQuery upstreams).running = true) : client.running = true := by
  rw [TcpClient.readQuery] at runs
  split at runs
  next reading _ => simp [TcpClient.running, reading]
  next => exact runs

theorem tcpHear_running {client : TcpClient} {upstream : SocketAddr} {stream : Bytes}
    (runs : (client.hear upstreams upstream stream).running = true) : client.running = true := by
  rw [TcpClient.hear] at runs
  split at runs
  next asking => simp [TcpClient.running, asking]
  next => exact runs

/-- What is done with one client changes nothing for the others. -/
theorem sound_modify (sound : Sound upstreams proxy) (index : Nat)
    {change : TcpClient → TcpClient} (kept : ∀ client, client.Sound → (change client).Sound)
    (less : ∀ client, (change client).running = true → client.running = true) :
    Sound upstreams { proxy with clients := proxy.clients.modify index change } where
  bounded := Nat.le_trans (Nat.add_le_add_left (countP_modify_le less proxy.clients index) _)
    sound.bounded
  queries := sound.queries
  udp := sound.udp
  tcp := forall_modify sound.tcp kept index

theorem sound_step (sound : Sound upstreams proxy) (event : ProxyEvent Peer) :
    Sound upstreams (step upstreams proxy event) := by
  cases event with
  | datagram peer packet => exact sound_datagram sound peer packet
  | udpReply index upstream reply =>
      constructor
      · exact Nat.le_trans (Nat.add_le_add_right (countP_modify_le (fun _ => hear_running)
          proxy.queries index) _) sound.bounded
      · change ((proxy.queries.modify index (UdpQuery.hear upstream reply)).map _).Sublist _
        rw [map_modify_same fun query => hear_same query upstream reply]
        exact sound.queries
      · exact forall_modify sound.udp (fun query asks => sound_hear asks upstream reply) index
      · exact sound.tcp
  | accept =>
      rw [step]
      split
      next room =>
        refine ⟨?_, sound.queries, sound.udp, ?_⟩
        · have one : [(⟨[], [], [], .reading⟩ : TcpClient)].countP TcpClient.running ≤ 1 :=
            List.countP_le_length
          rw [inFlight] at room ⊢
          rw [List.countP_append]
          dsimp only at room ⊢
          omega
        · intro client member
          cases List.mem_append.1 member with
          | inl earlier => exact sound.tcp client earlier
          | inr last =>
              rw [List.mem_singleton.1 last]
              exact ⟨[], by simp, rfl, rfl⟩
      next => exact sound
  | bytes index sent =>
      apply sound_modify sound index
      · intro client serves
        exact (serves.receive sent).readQuery upstreams
      · intro client runs
        have ran := readQuery_running runs
        exact ran
  | hangUp index =>
      apply sound_modify sound index
      · intro client serves
        exact serves.end
      · intro client runs
        cases runs
  | tcpReply index upstream stream =>
      apply sound_modify sound index
      · intro client serves
        exact serves.hear upstreams upstream stream
      · intro client runs
        exact tcpHear_running runs

end Proxy

/-- In every run of the proxy: a task for each of some datagrams, in their order, and no more
tasks at a time than permits; a response to a datagram answers it and is the only one; and what
is written on a connection answers, one by one, the queries that its client has sent first. -/
theorem proxy_answers_queries {Peer : Type} (upstreams : List SocketAddr)
    (events : List (ProxyEvent Peer)) :
    let reached := events.foldl (Proxy.step upstreams) Proxy.idle
    reached.inFlight ≤ maxInFlight ∧
    (reached.queries.map fun query => (query.peer, query.packet)).Sublist reached.datagrams ∧
    (∀ query ∈ reached.queries, ∀ response, query.response = some response →
      validDnsQuery query.packet = true ∧ validDnsResponse query.packet response = true ∧
        query.running = false) ∧
    ∀ client ∈ reached.clients, ∃ exchanges, (∀ exchange ∈ exchanges, IsExchange exchange) ∧
      queriesOf exchanges <+: client.received ∧ client.output = responsesOf exchanges := by
  have preserved : ∀ (proxy : Proxy Peer) event, Proxy.Sound upstreams proxy → True →
      Proxy.Sound upstreams (Proxy.step upstreams proxy event) :=
    fun _ event kept _ => Proxy.sound_step kept event
  have sound : Proxy.Sound upstreams (events.foldl (Proxy.step upstreams) Proxy.idle) :=
    invariant_foldl preserved events Proxy.idle Proxy.sound_idle (everyStep_true events Proxy.idle)
  refine ⟨sound.bounded, sound.queries, ?_, ?_⟩
  · intro query member response given
    obtain ⟨answers, stopped⟩ := (sound.udp query member).answered response given
    exact ⟨(sound.udp query member).valid, answers, stopped⟩
  · intro client member
    obtain ⟨exchanges, each, output, isAt⟩ := sound.tcp client member
    exact ⟨exchanges, each, isAt.isPrefix, output⟩

end Varmlen.Daemon
