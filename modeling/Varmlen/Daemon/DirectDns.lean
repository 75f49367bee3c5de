import Varmlen.Foundation.Files
import Varmlen.Foundation.TextParts
import Varmlen.Foundation.Utf8
import Varmlen.Daemon.Nft
import Varmlen.Core.SafeDns

/-!
# Direct DNS

Applications outside the tunnel have their local DNS queries redirected to a proxy of the
daemon, which asks the resolvers of the physical network (`daemon/src/direct_dns.rs`).
-/

namespace Varmlen.Daemon

open Foundation Foundation.Ip Foundation.Nft Foundation.Text
open Foundation.Files (Bytes)
open Varmlen.Core (isMulticast isUnspecified)

structure SocketAddr where
  address : IpAddr
  port : Nat
  deriving DecidableEq, Repr

def directDnsPort : Nat := 15353

def maxDnsPacket : Nat := 65535

def maxInFlight : Nat := 128

/-! ## Resolvers -/

def isLoopback : IpAddr → Bool
  | .v4 address => address.isLoopback
  | .v6 address => address.isLoopback

/-- The address in a line of `resolv.conf`. -/
def parseNameserver (line : String) : Option SocketAddr :=
  let line := ((splitOnce '#' line).map Prod.fst).getD line
  match splitWhitespace line with
  | "nameserver" :: field :: _ =>
      match parse field with
      | none => none
      | some address =>
          if isLoopback address || isUnspecified address || isMulticast address then none
          else some ⟨address, 53⟩
  | _ => none

def parseNameservers (contents : String) : List SocketAddr :=
  (lines contents).filterMap parseNameserver

def resolverFiles : List String :=
  ["/run/systemd/resolve/resolv.conf", "/run/NetworkManager/no-stub-resolv.conf",
    "/run/NetworkManager/resolv.conf", "/run/resolvconf/resolv.conf", "/etc/resolv.conf"]

def fallbackUpstreams : List SocketAddr :=
  [⟨.v4 ⟨1, 1, 1, 1⟩, 53⟩, ⟨.v4 ⟨8, 8, 8, 8⟩, 53⟩, ⟨.v4 ⟨9, 9, 9, 9⟩, 53⟩]

/-- Add what is not there yet. -/
def addUpstreams (upstreams found : List SocketAddr) : List SocketAddr :=
  found.foldl (fun upstreams upstream =>
    if upstream ∈ upstreams then upstreams else upstreams ++ [upstream]) upstreams

/-- The resolvers that the files name, and some that are known. -/
def discoverUpstreams (files : String → Option String) : List SocketAddr :=
  let configured := resolverFiles.foldl (fun upstreams path =>
    match files path with
    | none => upstreams
    | some contents => addUpstreams upstreams (parseNameservers contents)) []
  addUpstreams configured fallbackUpstreams

section Upstreams

variable {upstreams found : List SocketAddr} {upstream : SocketAddr}

theorem mem_addUpstreams :
    upstream ∈ addUpstreams upstreams found ↔ upstream ∈ upstreams ∨ upstream ∈ found := by
  rw [addUpstreams]
  induction found generalizing upstreams with
  | nil => simp
  | cons first rest ih =>
      rw [List.foldl_cons, ih]
      by_cases known : first ∈ upstreams
      · rw [if_pos known, List.mem_cons]
        constructor
        · exact Or.imp_right .inr
        · intro either
          obtain earlier | rfl | later := either
          · exact .inl earlier
          · exact .inl known
          · exact .inr later
      · rw [if_neg known, List.mem_append, List.mem_singleton, List.mem_cons, or_assoc]

theorem nodup_addUpstreams (distinct : upstreams.Nodup) : (addUpstreams upstreams found).Nodup := by
  rw [addUpstreams]
  induction found generalizing upstreams with
  | nil => exact distinct
  | cons first rest ih =>
      rw [List.foldl_cons]
      apply ih
      by_cases known : first ∈ upstreams
      · rwa [if_pos known]
      · rw [if_neg known, List.nodup_append]
        exact ⟨distinct, List.pairwise_singleton _ _, fun other listed last isLast same =>
          known (List.mem_singleton.1 isLast ▸ same ▸ listed)⟩

/-- A resolver that may be asked: queries to it are not redirected to the proxy again. -/
structure IsResolver (upstream : SocketAddr) : Prop where
  port : upstream.port = 53
  notLoopback : isLoopback upstream.address = false
  notUnspecified : isUnspecified upstream.address = false
  notMulticast : isMulticast upstream.address = false

theorem isResolver_of_parse {line : String} (parsed : parseNameserver line = some upstream) :
    IsResolver upstream := by
  rw [parseNameserver] at parsed
  split at parsed
  next =>
    split at parsed
    next => cases parsed
    next address _ =>
      rw [Option.ite_none_left_eq_some] at parsed
      obtain ⟨kept, same⟩ := parsed
      cases same
      simp only [Bool.or_eq_true, not_or, Bool.not_eq_true] at kept
      exact ⟨rfl, kept.1.1, kept.1.2, kept.2⟩
  next => cases parsed

theorem isResolver_fallback : ∀ upstream ∈ fallbackUpstreams, IsResolver upstream := by
  intro upstream member
  simp only [fallbackUpstreams, List.mem_cons, List.not_mem_nil, or_false] at member
  obtain rfl | rfl | rfl := member <;> exact ⟨rfl, rfl, rfl, rfl⟩

/-- The resolvers of the files that can be read. -/
theorem mem_configured (files : String → Option String) (paths : List String) :
    upstream ∈ paths.foldl (fun upstreams path =>
        match files path with
        | none => upstreams
        | some contents => addUpstreams upstreams (parseNameservers contents)) upstreams ↔
      upstream ∈ upstreams ∨
        ∃ path ∈ paths, ∃ contents, files path = some contents ∧
          upstream ∈ parseNameservers contents := by
  induction paths generalizing upstreams with
  | nil => simp
  | cons path rest ih =>
      rw [List.foldl_cons, ih]
      cases file : files path with
      | none => simp [file]
      | some contents => simp [file, mem_addUpstreams, or_assoc]

theorem nodup_configured (files : String → Option String) (paths : List String)
    (distinct : upstreams.Nodup) :
    (paths.foldl (fun upstreams path =>
        match files path with
        | none => upstreams
        | some contents => addUpstreams upstreams (parseNameservers contents)) upstreams).Nodup := by
  induction paths generalizing upstreams with
  | nil => exact distinct
  | cons path rest ih =>
      rw [List.foldl_cons]
      apply ih
      cases files path with
      | none => exact distinct
      | some contents => exact nodup_addUpstreams distinct

end Upstreams

/-- The proxy asks every resolver that the system has configured, and the known ones, each of
them once, and never asks itself. -/
theorem discoverUpstreams_resolvers (files : String → Option String) :
    (discoverUpstreams files).Nodup ∧
    (∀ upstream ∈ discoverUpstreams files, IsResolver upstream) ∧
    fallbackUpstreams ⊆ discoverUpstreams files ∧
    ∀ path ∈ resolverFiles, ∀ contents, files path = some contents →
      parseNameservers contents ⊆ discoverUpstreams files := by
  refine ⟨nodup_addUpstreams (nodup_configured files resolverFiles List.nodup_nil), ?_, ?_, ?_⟩
  · intro upstream member
    rw [discoverUpstreams, mem_addUpstreams, mem_configured] at member
    obtain (fromNowhere | ⟨path, _, contents, _, listed⟩) | known := member
    · cases fromNowhere
    · obtain ⟨line, _, parsed⟩ := List.mem_filterMap.1 listed
      exact isResolver_of_parse parsed
    · exact isResolver_fallback upstream known
  · intro upstream known
    exact mem_addUpstreams.2 (.inr known)
  · intro path listed contents file upstream member
    rw [discoverUpstreams, mem_addUpstreams, mem_configured]
    exact .inl (.inr ⟨path, listed, contents, file, member⟩)

/-! ## Messages -/

def validDnsQuery (packet : Bytes) : Bool :=
  decide (12 ≤ packet.length) && packet.getD 2 0 &&& 0x80 == 0

def validDnsResponse (query response : Bytes) : Bool :=
  decide (12 ≤ response.length) && decide (2 ≤ query.length) && response.take 2 == query.take 2 &&
    response.getD 2 0 &&& 0x80 != 0

/-! ## Redirection -/

def renderDirectDnsRules (port : Nat) : String :=
  "table inet varmlen_split_dns \x7b\n" ++
  "  chain redirect_output \x7b\n" ++
  "    type nat hook output priority dstnat; policy accept;\n" ++
  "    meta mark & 0x0000ffff == 0x2025 ip daddr 127.0.0.0/8 udp dport 53 redirect to :" ++
    toString port ++ "\n" ++
  "    meta mark & 0x0000ffff == 0x2025 ip daddr 127.0.0.0/8 tcp dport 53 redirect to :" ++
    toString port ++ "\n" ++
  "    meta mark & 0x0000ffff == 0x2025 ip6 daddr ::1 udp dport 53 redirect to :" ++
    toString port ++ "\n" ++
  "    meta mark & 0x0000ffff == 0x2025 ip6 daddr ::1 tcp dport 53 redirect to :" ++
    toString port ++ "\n" ++
  "  \x7d\n" ++
  "  chain guard_output \x7b\n" ++
  "    type filter hook output priority filter - 20; policy accept;\n" ++
  "    ip daddr 127.0.0.0/8 udp dport " ++ toString port ++
    " meta mark & 0x0000ffff != 0x2025 reject\n" ++
  "    ip daddr 127.0.0.0/8 tcp dport " ++ toString port ++
    " meta mark & 0x0000ffff != 0x2025 reject\n" ++
  "    ip6 daddr ::1 udp dport " ++ toString port ++
    " meta mark & 0x0000ffff != 0x2025 reject\n" ++
  "    ip6 daddr ::1 tcp dport " ++ toString port ++
    " meta mark & 0x0000ffff != 0x2025 reject\n" ++
  "  \x7d\n" ++
  "\x7d\n"

def loopbackV4 : Condition := .ipDaddr [(⟨127, 0, 0, 0⟩, 8)]

def loopbackV6 : Condition := .ip6Daddr [(⟨0, 0, 0, 0, 0, 0, 0, 1⟩, 128)]

/-- The conditions of the rules that redirect. -/
def redirectConditions : List (List Condition) :=
  [[.metaMark true bypassMark, loopbackV4, .udpDport 53],
    [.metaMark true bypassMark, loopbackV4, .tcpDport 53],
    [.metaMark true bypassMark, loopbackV6, .udpDport 53],
    [.metaMark true bypassMark, loopbackV6, .tcpDport 53]]

/-- The chain that lets nothing but the redirected queries to the proxy. -/
def proxyGuard (port : Nat) : Chain where
  policy := .accept
  rules :=
    [⟨[loopbackV4, .udpDport port, .metaMark false bypassMark], .verdict .reject⟩,
      ⟨[loopbackV4, .tcpDport port, .metaMark false bypassMark], .verdict .reject⟩,
      ⟨[loopbackV6, .udpDport port, .metaMark false bypassMark], .verdict .reject⟩,
      ⟨[loopbackV6, .tcpDport port, .metaMark false bypassMark], .verdict .reject⟩]

def redirectText (port : Nat) : String :=
  "  chain redirect_output \x7b\n    type nat hook output priority dstnat; policy accept;\n" ++
    String.join (redirectConditions.map fun conditions =>
      "    " ++ String.intercalate " " (conditions.map Condition.text) ++ " redirect to :" ++
        toString port ++ "\n") ++ "  \x7d\n"

/-- The text is that of the two chains. -/
theorem renderDirectDnsRules_eq :
    renderDirectDnsRules directDnsPort = tableText "varmlen_split_dns"
      [redirectText directDnsPort,
        (proxyGuard directDnsPort).text "guard_output"
          "type filter hook output priority filter - 20;" false] := by
  decide +kernel

/-- A packet with another port, for the machine itself. -/
def redirected (port : Nat) (packet : Packet) : Packet :=
  { packet with
    daddr := match packet.daddr with
      | .v4 _ => .v4 ⟨127, 0, 0, 1⟩
      | .v6 _ => .v6 ⟨0, 0, 0, 0, 0, 0, 0, 1⟩
    transport := match packet.transport with
      | .udp _ => .udp port
      | .tcp _ => .tcp port
      | .other => .other }

def redirectOutput (port : Nat) (packet : Packet) : Packet :=
  if redirectConditions.any fun conditions => conditions.all (·.holds packet) then
    redirected port packet
  else packet

/-- The chains of an output packet, by their priorities. -/
def outputPath (port : Nat) (packet : Packet) : Verdict × Packet :=
  match markOutput.run packet with
  | (.accept, packet) =>
      match (proxyGuard port).run (redirectOutput port packet) with
      | (.accept, packet) => guardOutput.run packet
      | refused => refused
  | refused => refused

section Redirection

variable {packet : Packet}

/-- The destination is the machine itself, by one of the addresses that stub resolvers have. -/
def toLoopback (packet : Packet) : Bool := loopbackV4.holds packet || loopbackV6.holds packet

def usesPort (port : Nat) (packet : Packet) : Bool :=
  packet.transport == .udp port || packet.transport == .tcp port

def isBypassed (packet : Packet) : Bool := lowBits packet.mark == bypassMark

theorem metaMark_holds (equal : Bool) :
    Condition.holds packet (.metaMark equal bypassMark) = (isBypassed packet == equal) :=
  rfl

theorem udpDport_holds (port : Nat) :
    Condition.holds packet (.udpDport port) = (packet.transport == .udp port) :=
  rfl

theorem tcpDport_holds (port : Nat) :
    Condition.holds packet (.tcpDport port) = (packet.transport == .tcp port) :=
  rfl

theorem redirectConditions_any (packet : Packet) :
    (redirectConditions.any fun conditions => conditions.all (·.holds packet)) =
      (isBypassed packet && toLoopback packet && usesPort 53 packet) := by
  simp only [redirectConditions, List.any_cons, List.any_nil, List.all_cons, List.all_nil,
    metaMark_holds, udpDport_holds, tcpDport_holds, toLoopback, usesPort]
  cases isBypassed packet <;> cases loopbackV4.holds packet <;> cases loopbackV6.holds packet <;>
    cases packet.transport == .udp 53 <;> cases packet.transport == .tcp 53 <;> rfl

/-- The guard of the proxy rejects what comes from other applications. -/
theorem proxyGuard_run (port : Nat) (packet : Packet) :
    (proxyGuard port).run packet =
      (if toLoopback packet && usesPort port packet && !isBypassed packet then .reject else .accept,
        packet) := by
  have any : ((proxyGuard port).rules.any (·.matchedBy packet)) =
      (toLoopback packet && usesPort port packet && !isBypassed packet) := by
    simp only [proxyGuard, List.any_cons, List.any_nil, Rule.matchedBy, List.all_cons, List.all_nil,
      metaMark_holds, udpDport_holds, tcpDport_holds, toLoopback, usesPort]
    cases isBypassed packet <;> cases loopbackV4.holds packet <;>
      cases loopbackV6.holds packet <;> cases packet.transport == .udp port <;>
        cases packet.transport == .tcp port <;> rfl
  have rules := @runRules_group .accept .reject [] packet (proxyGuard port).rules
    (by simp [proxyGuard])
  rw [List.append_nil, any] at rules
  rw [Chain.run, show (proxyGuard port).policy = .accept from rfl, rules]
  split
  next => rfl
  next => rfl

/-- Queries on the loopback interface are none of the DNS table's business. -/
theorem markOutput_loopback (local' : toLoopback packet = true) :
    markOutput.run packet = (.accept, packet) := by
  rw [toLoopback, Bool.or_eq_true] at local'
  rw [Chain.run, markOutput]
  cases local' with
  | inl v4 =>
      have first : Condition.holds packet (.ipDaddr [(⟨127, 0, 0, 0⟩, 8)]) = true := v4
      simp [runRules, Rule.matchedBy, first]
  | inr v6 =>
      have second : Condition.holds packet (.ip6Daddr [(⟨0, 0, 0, 0, 0, 0, 0, 1⟩, 128)]) = true := v6
      simp [runRules, Rule.matchedBy, second]

theorem guardOutput_lo (lo : packet.oifname = "lo") :
    guardOutput.run packet = (.accept, packet) := by
  simp [Chain.run, guardOutput, runRules, Rule.matchedBy, Condition.holds, lo]

theorem toLoopback_redirected (port : Nat) (packet : Packet) :
    toLoopback (redirected port packet) = true := by
  cases destination : packet.daddr with
  | v4 address =>
      have covers : coversV4 (⟨127, 0, 0, 0⟩, 8) ⟨127, 0, 0, 1⟩ = true := by decide
      simp [toLoopback, loopbackV4, Condition.holds, redirected, destination, covers]
  | v6 address =>
      have covers : coversV6 (⟨0, 0, 0, 0, 0, 0, 0, 1⟩, 128) ⟨0, 0, 0, 0, 0, 0, 0, 1⟩ = true :=
        (coversV6_single _ _).2 rfl
      simp [toLoopback, loopbackV6, Condition.holds, redirected, destination, covers]

/-- The last chain decides and changes nothing. -/
theorem guardOutput_packet (packet : Packet) : (guardOutput.run packet).2 = packet := by
  have verdicts (rules : List Rule)
      (decides : ∀ rule ∈ rules, ∃ verdict, rule.action = .verdict verdict) :
      (runRules .accept rules packet).2 = packet := by
    induction rules with
    | nil => rfl
    | cons rule rest ih =>
        rw [List.forall_mem_cons] at decides
        obtain ⟨verdict, action⟩ := decides.1
        rw [runRules, action]
        split
        next => rfl
        next => exact ih decides.2
  apply verdicts
  simp [guardOutput]

theorem redirectOutput_of_bypassed {port : Nat} (bypassed : isBypassed packet = true)
    (local' : toLoopback packet = true) (dns : usesPort 53 packet = true) :
    redirectOutput port packet = redirected port packet := by
  rw [redirectOutput, redirectConditions_any, bypassed, local', dns]
  rfl

theorem redirectOutput_of_other {port : Nat}
    (other : (isBypassed packet && toLoopback packet && usesPort 53 packet) = false) :
    redirectOutput port packet = packet := by
  rw [redirectOutput, redirectConditions_any, other]
  rfl

/-- What the first chain leaves alone. -/
theorem markOutput_cases (packet : Packet) :
    ∃ left, markOutput.run packet = (.accept, left) ∧ left.daddr = packet.daddr ∧
      left.transport = packet.transport ∧ left.oifname = packet.oifname ∧
        (isBypassed left = true → isBypassed packet = true) := by
  obtain ⟨mark, ctMark, ran, kept⟩ := markOutput_run packet
  refine ⟨_, ran, rfl, rfl, rfl, ?_⟩
  intro bypassed
  by_contra outside
  exact kept (by simpa [isBypassed] using outside) (by simpa [isBypassed] using bypassed)

theorem toLoopback_congr {other : Packet} (same : other.daddr = packet.daddr) :
    toLoopback other = toLoopback packet := by
  simp only [toLoopback, loopbackV4, loopbackV6, Condition.holds, same]

/-- The path of a packet that is not redirected. -/
theorem outputPath_of_other {port : Nat}
    (other : (isBypassed packet && toLoopback packet && usesPort 53 packet) = false) :
    (outputPath port packet).2.daddr = packet.daddr ∧
      (outputPath port packet).2.transport = packet.transport ∧
      ((outputPath port packet).1 = .accept → toLoopback packet = true →
        usesPort port packet = true → isBypassed packet = true) := by
  obtain ⟨left, ran, sameDaddr, sameTransport, _, bypassed⟩ := markOutput_cases packet
  have sameLocal := toLoopback_congr sameDaddr
  have samePort (port : Nat) : usesPort port left = usesPort port packet := by
    rw [usesPort, usesPort, sameTransport]
  have stays : (isBypassed left && toLoopback left && usesPort 53 left) = false := by
    rw [sameLocal, samePort]
    cases outside : isBypassed packet with
    | true =>
        rw [outside, Bool.true_and] at other
        rw [Bool.and_assoc, other, Bool.and_false]
    | false =>
        have unmarked : isBypassed left = false := by
          by_contra marked
          rw [bypassed (by simpa using marked)] at outside
          cases outside
        rw [unmarked, Bool.false_and, Bool.false_and]
  rw [outputPath, ran]
  dsimp only
  rw [redirectOutput_of_other stays, proxyGuard_run, sameLocal, samePort]
  cases refused : toLoopback packet && usesPort port packet && !isBypassed left with
  | true =>
      exact ⟨sameDaddr, sameTransport, fun accepted => nomatch accepted⟩
  | false =>
      simp only [Bool.false_eq_true, if_false, guardOutput_packet]
      refine ⟨sameDaddr, sameTransport, ?_⟩
      intro _ isLocal isPort
      rw [isLocal, isPort, Bool.true_and, Bool.true_and, Bool.not_eq_false'] at refused
      exact bypassed refused

/-- An application outside the tunnel has its queries to local resolvers answered by the proxy;
other queries go where they went, and nothing else reaches the proxy. -/
theorem directDns_for_bypassed (packet : Packet) :
    (packet.oifname = "lo" → toLoopback packet = true → usesPort 53 packet = true →
      outputPath directDnsPort packet =
        (.accept, if isBypassed packet then redirected directDnsPort packet else packet)) ∧
    ((isBypassed packet && toLoopback packet && usesPort 53 packet) = false →
      (outputPath directDnsPort packet).2.daddr = packet.daddr ∧
        (outputPath directDnsPort packet).2.transport = packet.transport) ∧
    ((outputPath directDnsPort packet).1 = .accept →
      toLoopback (outputPath directDnsPort packet).2 = true →
        usesPort directDnsPort (outputPath directDnsPort packet).2 = true →
          isBypassed packet = true) := by
  refine ⟨?_, ?_, ?_⟩
  · intro lo isLocal dns
    rw [outputPath, markOutput_loopback isLocal]
    dsimp only
    cases bypassed : isBypassed packet with
    | true =>
        have stillBypassed : isBypassed (redirected directDnsPort packet) = true := bypassed
        rw [redirectOutput_of_bypassed bypassed isLocal dns, proxyGuard_run, stillBypassed,
          Bool.not_true, Bool.and_false]
        exact guardOutput_lo lo
    | false =>
        have notProxy : usesPort directDnsPort packet = false := by
          rw [usesPort, Bool.or_eq_true, beq_iff_eq, beq_iff_eq] at dns
          obtain udp | tcp := dns
          · rw [usesPort, udp]
            decide
          · rw [usesPort, tcp]
            decide
        rw [redirectOutput_of_other (by rw [bypassed]; rfl), proxyGuard_run, notProxy,
          Bool.and_false, Bool.false_and]
        exact guardOutput_lo lo
  · intro other
    obtain ⟨sameDaddr, sameTransport, _⟩ := @outputPath_of_other packet directDnsPort other
    exact ⟨sameDaddr, sameTransport⟩
  · intro accepted isLocal isPort
    cases other : isBypassed packet && toLoopback packet && usesPort 53 packet with
    | true =>
        rw [Bool.and_eq_true, Bool.and_eq_true] at other
        exact other.1.1
    | false =>
        obtain ⟨sameDaddr, sameTransport, reaches⟩ := @outputPath_of_other packet directDnsPort other
        apply reaches accepted
        · rw [← toLoopback_congr sameDaddr, isLocal]
        · rw [usesPort, ← sameTransport]
          exact isPort

end Redirection

end Varmlen.Daemon
