import Varmlen.Helper.Flows

/-!
# What the pins of existing flows reach

The kernel's tables are read as the kernel writes them, so that the rules mark what the
sockets of excluded processes send, and nothing else.
-/

namespace Varmlen.Helper

open Foundation.Hex Foundation.Ip Foundation.Nft Foundation.Text
open Varmlen.Daemon (bypassMark)

/-! ## The tables -/

/-- Octets as one number, the lowest first. -/
def leWord (a b c d : Fin 256) : Nat :=
  a.val + b.val * 256 + c.val * 65536 + d.val * 16777216

def segmentHex (first second : Fin 65536) : List Char :=
  hexWord 8 (leWord (.ofNat 256 (first / 256)) (.ofNat 256 first) (.ofNat 256 (second / 256))
    (.ofNat 256 second))

/-- An address as the kernel writes it. -/
def addressHex : IpAddr → List Char
  | .v4 address => hexWord 8 (leWord address.a address.b address.c address.d)
  | .v6 address =>
      segmentHex address.s0 address.s1 ++ (segmentHex address.s2 address.s3 ++
        (segmentHex address.s4 address.s5 ++ segmentHex address.s6 address.s7))

def isV6 : IpAddr → Bool
  | .v4 _ => false
  | .v6 _ => true

structure Socket where
  address : IpAddr
  port : Fin 65536
  peer : IpAddr
  peerPort : Fin 65536
  inode : Nat

def endpointText (address : IpAddr) (port : Fin 65536) : String :=
  String.ofList (addressHex address ++ ':' :: hexWord 4 port)

/-- A line of a table; the columns may be any distance apart. -/
def Shows (is6 : Bool) (line : String) (socket : Socket) : Prop :=
  isV6 socket.peer = is6 ∧
    ∃ slot state queues timer retransmits uid timeout rest,
      splitWhitespace line = slot :: endpointText socket.address socket.port ::
        endpointText socket.peer socket.peerPort :: state :: queues :: timer :: retransmits ::
          uid :: timeout :: toString socket.inode :: rest

/-- A file with a header and a line for each socket; one that cannot be read shows none. -/
def ShowsTable (is6 : Bool) (content : Option String) (sockets : List Socket) : Prop :=
  match content with
  | none => sockets = []
  | some content => List.Forall₂ (Shows is6) ((lines content).drop 1) sockets

theorem leBytes_leWord (a b c d : Fin 256) : leBytes (leWord a b c d) = (a, b, c, d) := by
  simp only [leBytes, leWord, Prod.mk.injEq, Fin.ext_iff, Fin.val_ofNat]
  omega

theorem leWord_lt (a b c d : Fin 256) : leWord a b c d < 4294967296 := by
  simp only [leWord]
  omega

theorem fromStrRadix_leWord (a b c d : Fin 256) :
    fromStrRadix 16 4294967296 (hexWord 8 (leWord a b c d)) = some (leWord a b c d) :=
  fromStrRadix_hexWord (by decide) (leWord_lt a b c d) (leWord_lt a b c d)

theorem segment_bytes (group : Fin 65536) :
    segment (.ofNat 256 (group / 256)) (.ofNat 256 group) = group := by
  simp only [segment, Fin.ext_iff, Fin.val_ofNat]
  omega

theorem wordSegments_segmentHex (first second : Fin 65536) (rest : List Char) :
    wordSegments (segmentHex first second ++ rest) = some (first, second) := by
  have first8 : (segmentHex first second ++ rest).take 8 = segmentHex first second := by
    apply List.take_left'
    simp [segmentHex]
  rw [wordSegments, first8, segmentHex, fromStrRadix_leWord, Option.map_some, leBytes_leWord]
  simp only [segment_bytes]

theorem hexToIpv4_addressHex (address : Ipv4Addr) :
    hexToIpv4 (addressHex (.v4 address)) = some address := by
  rw [hexToIpv4, if_neg (by simp [addressHex]), addressHex, fromStrRadix_leWord, Option.map_some,
    leBytes_leWord]

theorem hexToIpv6_addressHex (address : Ipv6Addr) :
    hexToIpv6 (addressHex (.v6 address)) = some address := by
  have width (first second : Fin 65536) : (segmentHex first second).length = 8 := by
    simp [segmentHex]
  have after (first second : Fin 65536) (count : Nat) (rest : List Char) :
      (segmentHex first second ++ rest).drop (8 + count) = rest.drop count := by
    rw [← width first second, List.drop_length_add_append]
  have last : wordSegments (segmentHex address.s6 address.s7) = some (address.s6, address.s7) := by
    simpa using wordSegments_segmentHex address.s6 address.s7 []
  rw [hexToIpv6, if_neg (by simp [addressHex, width]), addressHex, wordSegments_segmentHex,
    after _ _ 0, after _ _ 8, after _ _ 16, after _ _ 0, after _ _ 8, after _ _ 0]
  simp only [List.drop_zero, wordSegments_segmentHex, last, Option.pure_def, Option.bind_eq_bind,
    Option.bind_some]

theorem fromStrRadix_port (port : Fin 65536) : hexPort (String.ofList (hexWord 4 port)) = port := by
  rw [hexPort, String.toList_ofList, fromStrRadix_hexWord (by decide) port.isLt port.isLt]
  rfl

theorem colon_not_mem_hexWord (width value : Nat) : ':' ∉ hexWord width value := by
  intro member
  exact absurd (isDigit_of_mem_hexWord member) (by decide)

theorem colon_not_mem_addressHex (address : IpAddr) : ':' ∉ addressHex address := by
  cases address with
  | v4 address => exact colon_not_mem_hexWord _ _
  | v6 address => simp [addressHex, segmentHex, colon_not_mem_hexWord]

theorem splitOnce_endpointText (address : IpAddr) (port : Fin 65536) :
    splitOnce ':' (endpointText address port) =
      some (String.ofList (addressHex address), String.ofList (hexWord 4 port)) := by
  apply splitOnce_eq
  · simp [endpointText]
  · simpa using colon_not_mem_addressHex address

/-! ## Pins -/

/-- What a rule marks. -/
inductive Pin where
  | peer (address : IpAddr)
  | sport (port : Nat)
  deriving DecidableEq, Repr

namespace Pin

def line : Pin → String
  | .peer (.v4 address) => pinRule ("ip daddr " ++ toText (.v4 address))
  | .peer (.v6 address) => pinRule ("ip6 daddr " ++ toText (.v6 address))
  | .sport port => pinRule ("udp sport " ++ toString port)

/-- The rule applies to a packet that is sent from this port. -/
def marks (source : Nat) (packet : Packet) : Pin → Bool
  | .peer address => packet.daddr = address
  | .sport port =>
      match packet.transport with
      | .udp _ => source = port
      | .tcp _ | .other => false

end Pin

def Pins.all (pins : Pins) : List Pin :=
  pins.peers4.map (fun address => .peer (.v4 address)) ++
    pins.peers6.map (fun address => .peer (.v6 address)) ++ pins.udpSports.map .sport

theorem pinRulesBatch_eq (pins : Pins) :
    pinRulesBatch pins = String.join (pins.all.map Pin.line) := by
  rw [pinRulesBatch, Pins.all]
  simp only [List.map_append, List.map_map, String.join_append]
  rfl

/-- Neither the machine itself nor no address at all. -/
def IsRemote : IpAddr → Prop
  | .v4 address => address.isLoopback = false ∧ address.isUnspecified = false
  | .v6 address => address.isLoopback = false ∧ address.isUnspecified = false

/-- The pin for a socket: its peer, or the own port of a UDP socket that has none. -/
def Socket.HasPin (udp : Bool) (socket : Socket) : Pin → Prop
  | .peer address => socket.peerPort ≠ 0 ∧ IsRemote socket.peer ∧ socket.peer = address
  | .sport port => udp = true ∧ socket.peerPort = 0 ∧ port ≠ 0 ∧ socket.port.val = port

section Reading

variable {pins : Pins} {pin : Pin}

theorem mem_all_addPeer4 (address : Ipv4Addr) :
    pin ∈ (pins.addPeer4 address).all ↔
      pin ∈ pins.all ∨ (IsRemote (.v4 address) ∧ .peer (.v4 address) = pin) := by
  rw [Pins.addPeer4]
  by_cases remote : IsRemote (.v4 address)
  · have kept : (address.isLoopback || address.isUnspecified) = false := by
      rw [remote.1, remote.2]
      rfl
    rw [kept, if_neg Bool.false_ne_true]
    cases pin with
    | sport port => simp [Pins.all]
    | peer other =>
        cases other with
        | v4 other => simp [Pins.all, remote, or_comm, eq_comm]
        | v6 other => simp [Pins.all]
  · have left : (address.isLoopback || address.isUnspecified) = true := by
      simpa [IsRemote, or_iff_not_imp_left] using remote
    rw [left, if_pos rfl]
    simp [remote]

theorem mem_all_addPeer6 (address : Ipv6Addr) :
    pin ∈ (pins.addPeer6 address).all ↔
      pin ∈ pins.all ∨ (IsRemote (.v6 address) ∧ .peer (.v6 address) = pin) := by
  rw [Pins.addPeer6]
  by_cases remote : IsRemote (.v6 address)
  · have kept : (address.isLoopback || address.isUnspecified) = false := by
      rw [remote.1, remote.2]
      rfl
    rw [kept, if_neg Bool.false_ne_true]
    cases pin with
    | sport port => simp [Pins.all]
    | peer other =>
        cases other with
        | v4 other => simp [Pins.all]
        | v6 other => simp [Pins.all, remote, or_comm, eq_comm]
  · have left : (address.isLoopback || address.isUnspecified) = true := by
      simpa [IsRemote, or_iff_not_imp_left] using remote
    rw [left, if_pos rfl]
    simp [remote]

theorem mem_all_addSport (port : Nat) :
    pin ∈ (pins.addSport port).all ↔ pin ∈ pins.all ∨ (port ≠ 0 ∧ .sport port = pin) := by
  rw [Pins.addSport]
  by_cases none : port = 0
  · simp [none]
  · rw [if_neg none]
    cases pin with
    | sport other => simp [Pins.all, none, or_comm, eq_comm]
    | peer other => cases other <;> simp [Pins.all]

variable {inodes : List String} {is6 udp : Bool}

/-- A line adds the pin of its socket, when that is one of an excluded process. -/
theorem mem_all_pinRow {line : String} {socket : Socket} (shows : Shows is6 line socket) :
    pin ∈ (pinRow inodes is6 udp pins line).all ↔
      pin ∈ pins.all ∨ (toString socket.inode ∈ inodes ∧ socket.HasPin udp pin) := by
  obtain ⟨family, slot, state, queues, timer, retransmits, uid, timeout, rest, cols⟩ := shows
  rw [pinRow, cols]
  simp only [List.getElem?_cons_succ, List.getElem?_cons_zero, List.getD_cons_succ,
    List.getD_cons_zero, splitOnce_endpointText, fromStrRadix_port, String.toList_ofList]
  by_cases owned : toString socket.inode ∈ inodes
  · rw [if_neg (not_not.2 owned)]
    by_cases noPeer : socket.peerPort = 0
    · rw [if_pos (by rw [noPeer]; rfl)]
      cases udp with
      | false =>
          cases pin <;> simp [Socket.HasPin, noPeer]
      | true =>
          rw [if_pos rfl, mem_all_addSport]
          cases pin with
          | peer address => simp [Socket.HasPin, noPeer]
          | sport port =>
              simp only [Socket.HasPin, owned, noPeer, true_and, Pin.sport.injEq]
              constructor
              · rintro (before | ⟨visible, rfl⟩)
                · exact .inl before
                · exact .inr ⟨visible, rfl⟩
              · rintro (before | ⟨visible, rfl⟩)
                · exact .inl before
                · exact .inr ⟨visible, rfl⟩
    · have peerPort : ¬socket.peerPort.val = 0 := fun zero => noPeer (Fin.ext zero)
      rw [if_neg peerPort]
      have same : socket.HasPin udp pin ↔ IsRemote socket.peer ∧ .peer socket.peer = pin := by
        cases pin <;> simp [Socket.HasPin, noPeer]
      rw [same]
      cases isPeer : socket.peer with
      | v4 address =>
          rw [isPeer] at family
          rw [← family, isV6, if_neg Bool.false_ne_true, hexToIpv4_addressHex]
          simp only [mem_all_addPeer4, owned, true_and]
      | v6 address =>
          rw [isPeer] at family
          rw [← family, isV6, if_pos rfl, hexToIpv6_addressHex]
          simp only [mem_all_addPeer6, owned, true_and]
  · rw [if_pos owned]
    exact ⟨.inl, fun either => either.resolve_right fun both => owned both.1⟩

theorem mem_all_pinRows {rows : List String} {sockets : List Socket}
    (shows : List.Forall₂ (Shows is6) rows sockets) :
    pin ∈ (rows.foldl (pinRow inodes is6 udp) pins).all ↔
      pin ∈ pins.all ∨
        ∃ socket ∈ sockets, toString socket.inode ∈ inodes ∧ socket.HasPin udp pin := by
  induction shows generalizing pins with
  | nil => simp
  | cons first rest ih =>
      rw [List.foldl_cons, ih, mem_all_pinRow first]
      simp [or_assoc]

theorem mem_all_pinTable {content : Option String} {sockets : List Socket}
    (shows : ShowsTable is6 content sockets) :
    pin ∈ (pinTable inodes is6 udp content pins).all ↔
      pin ∈ pins.all ∨
        ∃ socket ∈ sockets, toString socket.inode ∈ inodes ∧ socket.HasPin udp pin := by
  cases content with
  | none =>
      rw [ShowsTable] at shows
      simp [pinTable, shows]
  | some content => exact mem_all_pinRows shows

end Reading

/-! ## What the rules reach -/

theorem socketInode_eq_some {link inode : String} :
    socketInode link = some inode ↔ link = "socket:[" ++ inode ++ "]" := by
  rw [socketInode, afterPrefix, Option.bind_eq_some_iff]
  constructor
  · rintro ⟨rest, isPrefix, isSuffix⟩
    obtain ⟨chars, cut, rfl⟩ := Option.map_eq_some_iff.1 isPrefix
    obtain ⟨number, ends, rfl⟩ := Option.map_eq_some_iff.1 isSuffix
    obtain ⟨front, whole, same⟩ := List.dropPrefix?_eq_some_iff.1 cut
    obtain ⟨back, whole', same'⟩ := List.dropSuffix?_eq_some_iff.1 ends
    rw [eq_of_beq same] at whole
    rw [String.toList_ofList, eq_of_beq same'] at whole'
    apply String.toList_injective
    rw [whole, whole']
    simp
  · intro isLink
    refine ⟨inode ++ "]", ?_, ?_⟩
    · rw [isLink, String.append_assoc, String.toList_append,
        List.dropPrefix?_eq_some_iff.2 ⟨_, rfl, beq_self_eq_true _⟩, Option.map_some,
        String.ofList_toList]
    · have ends : (inode ++ "]").toList.dropSuffix? [']'] = some inode.toList :=
        List.dropSuffix?_eq_some_iff.2 ⟨_, String.toList_append, beq_self_eq_true _⟩
      rw [ends, Option.map_some, String.ofList_toList]

/-- A process on the list of excluded ones has the socket open. -/
def Excluded (excluded : List String) (entries : List ProcEntry) (inode : Nat) : Prop :=
  ∃ entry ∈ entries, entry.isProcess = true ∧ entry.matchesExcluded excluded = true ∧
    some ("socket:[" ++ toString inode ++ "]") ∈ entry.fds

theorem mem_excludedInodes {excluded : List String} {entries : List ProcEntry} {inode : Nat} :
    toString inode ∈ excludedInodes excluded entries ↔ Excluded excluded entries inode := by
  simp only [excludedInodes, Excluded, List.mem_flatMap, List.mem_filter, Bool.and_eq_true,
    List.mem_filterMap, Option.bind_eq_some_iff, socketInode_eq_some, and_assoc,
    exists_eq_right]

/-- The sockets of the machine, by transport and family. -/
abbrev Sockets := (udp is6 : Bool) → List Socket

def ProcNet.table (net : ProcNet) : (udp is6 : Bool) → Option String
  | false, false => net.tcp
  | true, false => net.udp
  | false, true => net.tcp6
  | true, true => net.udp6

variable {excluded : List String} {entries : List ProcEntry} {net : ProcNet} {sockets : Sockets}

theorem mem_all_existingPins
    (shows : ∀ udp is6, ShowsTable is6 (net.table udp is6) (sockets udp is6)) {pin : Pin} :
    pin ∈ (existingPins excluded entries net).all ↔
      ∃ udp is6, ∃ socket ∈ sockets udp is6, Excluded excluded entries socket.inode ∧
        socket.HasPin udp pin := by
  rw [existingPins]
  by_cases none : excludedInodes excluded entries = []
  · have free (inode : Nat) : ¬Excluded excluded entries inode := by
      rw [← mem_excludedInodes, none]
      exact List.not_mem_nil
    rw [if_pos none]
    simp [Pins.all, Pins.empty, free]
  · have tcp : ShowsTable false net.tcp (sockets false false) := shows false false
    have udp : ShowsTable false net.udp (sockets true false) := shows true false
    have tcp6 : ShowsTable true net.tcp6 (sockets false true) := shows false true
    have udp6 : ShowsTable true net.udp6 (sockets true true) := shows true true
    have nothing : pin ∉ Pins.empty.all := by simp [Pins.all, Pins.empty]
    rw [if_neg none, mem_all_pinTable udp6, mem_all_pinTable tcp6, mem_all_pinTable udp,
      mem_all_pinTable tcp]
    simp only [mem_excludedInodes]
    simp only [nothing, false_or, Bool.exists_bool]
    exact (or_congr_left or_right_comm).trans or_assoc

/-- A socket of an excluded process sends the packet: to its peer, or from its own port when
it is a UDP socket without a peer.  What an IPv6 socket sends to a mapped IPv4 peer goes to
another address than the table shows, so it is none of these. -/
def SentByExcluded (excluded : List String) (entries : List ProcEntry) (sockets : Sockets)
    (source : Nat) (packet : Packet) : Prop :=
  ∃ udp is6, ∃ socket ∈ sockets udp is6, Excluded excluded entries socket.inode ∧
    ((socket.peerPort ≠ 0 ∧ IsRemote socket.peer ∧ packet.daddr = socket.peer) ∨
      (udp = true ∧ socket.peerPort = 0 ∧ socket.port ≠ 0 ∧ source = socket.port ∧
        ∃ dport, packet.transport = .udp dport))

/-- What the rules leave of a packet. -/
def markPinned (pins : List Pin) (source : Nat) (packet : Packet) : Packet :=
  if pins.any (Pin.marks source packet) then { packet with mark := bypassMark } else packet

theorem marks_of_hasPin {udp : Bool} {socket : Socket} {source : Nat} {packet : Packet} :
    (∃ pin, socket.HasPin udp pin ∧ pin.marks source packet = true) ↔
      (socket.peerPort ≠ 0 ∧ IsRemote socket.peer ∧ packet.daddr = socket.peer) ∨
        (udp = true ∧ socket.peerPort = 0 ∧ socket.port ≠ 0 ∧ source = socket.port ∧
          ∃ dport, packet.transport = .udp dport) := by
  constructor
  · rintro ⟨pin, has, marks⟩
    cases pin with
    | peer address =>
        obtain ⟨connected, remote, rfl⟩ := has
        exact .inl ⟨connected, remote, by simpa [Pin.marks] using marks⟩
    | sport port =>
        obtain ⟨isUdp, noPeer, visible, rfl⟩ := has
        rw [Pin.marks] at marks
        cases transport : packet.transport with
        | udp dport =>
            rw [transport] at marks
            exact .inr ⟨isUdp, noPeer, fun zero => visible (by rw [zero]; rfl),
              of_decide_eq_true marks, dport, rfl⟩
        | tcp dport => simp [transport] at marks
        | other => simp [transport] at marks
  · rintro (⟨connected, remote, isPeer⟩ | ⟨isUdp, noPeer, visible, isPort, dport, transport⟩)
    · exact ⟨.peer socket.peer, ⟨connected, remote, rfl⟩, by simpa [Pin.marks] using isPeer⟩
    · refine ⟨.sport socket.port, ⟨isUdp, noPeer, fun zero => visible (Fin.ext zero), rfl⟩, ?_⟩
      simpa [Pin.marks, transport] using isPort

theorem any_marks_iff
    (shows : ∀ udp is6, ShowsTable is6 (net.table udp is6) (sockets udp is6)) (source : Nat)
    (packet : Packet) :
    (existingPins excluded entries net).all.any (Pin.marks source packet) = true ↔
      SentByExcluded excluded entries sockets source packet := by
  rw [List.any_eq_true]
  simp only [mem_all_existingPins shows, SentByExcluded, ← marks_of_hasPin]
  constructor
  · rintro ⟨pin, ⟨udp, is6, socket, member, owned, has⟩, marks⟩
    exact ⟨udp, is6, socket, member, owned, pin, has, marks⟩
  · rintro ⟨udp, is6, socket, member, owned, pin, has, marks⟩
    exact ⟨pin, ⟨udp, is6, socket, member, owned, has⟩, marks⟩

/-- The kill switch lets out what is marked for the bypass. -/
theorem killswitchChain_bypass (serverIps : List IpAddr) (allowLan : Bool) (packet : Packet) :
    ((killswitchChain serverIps allowLan).run { packet with mark := bypassMark }).1 = .accept := by
  have same : ∀ rule ∈ sanctionedRules, rule.action = .verdict .accept := by
    simp [sanctionedRules]
  have matched : sanctionedRules.any
      (·.matchedBy { packet with mark := bypassMark }) = true := by
    rw [List.any_eq_true]
    have bits : (lowBits bypassMark == 0x2025) = true := by decide
    refine ⟨⟨[.metaMark true 0x2025], .verdict .accept⟩, by simp [sanctionedRules], ?_⟩
    simp only [Rule.matchedBy, Condition.holds, List.all_cons, List.all_nil, bits, beq_self_eq_true,
      Bool.and_true]
  rw [Chain.run, killswitchChain, runRules_group same, if_pos matched]

/-- The rules are written for every flow of an excluded application that is there when the
tunnel comes up, and for no other: what it sends is marked and passes the kill switch, and
every other packet is left as it is. -/
theorem existingFlows_pinned
    (shows : ∀ udp is6, ShowsTable is6 (net.table udp is6) (sockets udp is6))
    (serverIps : List IpAddr) (allowLan : Bool) (source : Nat) (packet : Packet) :
    let pins := (existingPins excluded entries net).all
    (pinExistingExcludedFlows excluded entries net).getD "" = String.join (pins.map Pin.line) ∧
    (SentByExcluded excluded entries sockets source packet →
      markPinned pins source packet = { packet with mark := bypassMark } ∧
      ((killswitchChain serverIps allowLan).run (markPinned pins source packet)).1 = .accept) ∧
    (¬SentByExcluded excluded entries sockets source packet →
      markPinned pins source packet = packet) := by
  intro pins
  refine ⟨?_, fun sent => ?_, fun other => ?_⟩
  · rw [pinExistingExcludedFlows, ← pinRulesBatch_eq]
    by_cases none : pinRulesBatch (existingPins excluded entries net) = ""
    · simp [none]
    · simp [none]
  · have marked : markPinned pins source packet = { packet with mark := bypassMark } := by
      rw [markPinned, if_pos ((any_marks_iff shows source packet).2 sent)]
    refine ⟨marked, ?_⟩
    rw [marked]
    exact killswitchChain_bypass serverIps allowLan packet
  · rw [markPinned, if_neg (fun marks => other ((any_marks_iff shows source packet).1 marks))]

/-- A running game with one connection. -/
def gameEntry : ProcEntry where
  name := "321"
  comm := some "cs2\n"
  exe := some "/games/cs2"
  cmdline := none
  fds := [none, some "socket:[4242]"]

def gameSocket : Socket where
  address := .v4 ⟨192, 168, 0, 1⟩
  port := 54321
  peer := .v4 ⟨149, 154, 167, 220⟩
  peerPort := 443
  inode := 4242

def gameRow : String :=
  "   0: 0100A8C0:D431 DCA79A95:01BB 01 00000000:00000000 00:00000000 00000000  1000        0 4242 1"

def gameNet : ProcNet where
  tcp := some ("  sl  local_address rem_address   st\n" ++ gameRow ++ "\n")
  udp := none
  tcp6 := none
  udp6 := none

def gameSockets : Sockets := fun udp is6 => if udp || is6 then [] else [gameSocket]

theorem gameNet_shows : ∀ udp is6, ShowsTable is6 (gameNet.table udp is6) (gameSockets udp is6) := by
  have row : Shows false gameRow gameSocket :=
    ⟨rfl, "0:", "01", "00000000:00000000", "00:00000000", "00000000", "1000", "0", ["1"],
      by decide +kernel⟩
  have rows : (lines ("  sl  local_address rem_address   st\n" ++ gameRow ++ "\n")).drop 1 =
      [gameRow] := by
    decide +kernel
  intro udp is6
  cases udp with
  | true => cases is6 <;> rfl
  | false =>
      cases is6 with
      | true => rfl
      | false =>
          change List.Forall₂ (Shows false) (List.drop 1 (lines _)) [gameSocket]
          rw [rows]
          exact .cons row .nil

def gamePacket : Packet where
  oifname := "varmlen0"
  daddr := .v4 ⟨149, 154, 167, 220⟩
  toLocal := false
  transport := .tcp 443
  mark := 0
  ctMark := 0
  ctState := .established
  ctDirection := .original

/-- What the game sends to its server is marked. -/
theorem existingFlows_pinned_game :
    (markPinned (existingPins ["cs2"] [gameEntry] gameNet).all 54321 gamePacket).mark =
      bypassMark := by
  have owned : Excluded ["cs2"] [gameEntry] 4242 :=
    ⟨gameEntry, .head _, by decide +kernel, by decide +kernel, by decide +kernel⟩
  have remote : IsRemote gameSocket.peer := ⟨by decide, by decide⟩
  have sent : SentByExcluded ["cs2"] [gameEntry] gameSockets 54321 gamePacket :=
    ⟨false, false, gameSocket, .head _, owned, .inl ⟨by decide, remote, rfl⟩⟩
  rw [((existingFlows_pinned gameNet_shows [] false 54321 gamePacket).2.1 sent).1]

end Varmlen.Helper
