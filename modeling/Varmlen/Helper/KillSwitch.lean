import Varmlen.Daemon.Nft

/-!
# The kill switch

The ruleset of `helper/src/main.rs`: everything that leaves is dropped except what the
tunnel itself needs and, on request, the local network.  It stands behind the two chains
of the DNS table.
-/

namespace Varmlen.Helper

open Foundation.Ip Foundation.Nft Varmlen.Daemon

/-- Up to the rules for the servers. -/
def fixedLines : String :=
  "add table inet varmlen_ks\n" ++
  "delete table inet varmlen_ks\n" ++
  "table inet varmlen_ks \x7b\n" ++
  "  chain out \x7b\n" ++
  "    type filter hook output priority 0; policy drop;\n" ++
  "    oifname \"lo\" counter accept\n" ++
  "    oifname \"varmlen0\" counter accept\n" ++
  "    ct state established,related ct direction reply counter accept\n" ++
  "    fib daddr type local counter accept\n" ++
  "    meta mark & 0x0000ffff == 0x2023 counter accept\n" ++
  "    meta mark & 0x0000ffff == 0x2024 counter accept\n" ++
  "    meta mark & 0x0000ffff == 0x2025 counter accept\n" ++
  "    ct mark & 0x0000ffff == 0x2023 counter accept\n" ++
  "    ct mark & 0x0000ffff == 0x2024 counter accept\n" ++
  "    ct mark & 0x0000ffff == 0x2025 counter accept\n" ++
  "    ip daddr 1.1.1.1 udp dport 53 counter accept\n" ++
  "    ip daddr 1.1.1.1 tcp dport 53 counter accept\n" ++
  "    ip daddr 1.1.1.1 tcp dport 443 counter accept\n"

def serverLine : IpAddr → String
  | .v4 address => "    ip daddr " ++ toText (.v4 address) ++ " counter accept\n"
  | .v6 address => "    ip6 daddr " ++ toText (.v6 address) ++ " counter accept\n"

/-- Queries for system DNS never reach a neighbour. -/
def lanDnsLines : String :=
  "    udp dport 53 ip daddr \x7b 10.0.0.0/8, 172.16.0.0/12, 192.168.0.0/16, " ++
  "169.254.0.0/16, 100.64.0.0/10 \x7d counter drop\n" ++
  "    tcp dport 53 ip daddr \x7b 10.0.0.0/8, 172.16.0.0/12, 192.168.0.0/16, " ++
  "169.254.0.0/16, 100.64.0.0/10 \x7d counter drop\n" ++
  "    udp dport 53 ip6 daddr \x7b fe80::/10, fc00::/7 \x7d counter drop\n" ++
  "    tcp dport 53 ip6 daddr \x7b fe80::/10, fc00::/7 \x7d counter drop\n"

def lanLines (allowLan : Bool) : String :=
  if allowLan then
    "    ip daddr \x7b 10.0.0.0/8, 172.16.0.0/12, 192.168.0.0/16, 169.254.0.0/16, " ++
    "100.64.0.0/10 \x7d counter accept\n" ++
    "    ip6 daddr \x7b fe80::/10, fc00::/7 \x7d counter accept\n"
  else ""

def dropLines : String :=
  "    limit rate 30/second log prefix \"varmlen_ks_drop \" level info\n" ++
  "    counter drop\n" ++
  "  \x7d\n\x7d\n"

def killswitchRuleset (serverIps : List IpAddr) (allowLan : Bool) : String :=
  fixedLines ++ String.join (serverIps.map serverLine) ++ lanDnsLines ++ lanLines allowLan ++
    dropLines

/-! ## The rules -/

/-- What the tunnel needs: the loopback and the tunnel, replies to inbound connections,
the machine itself and marked connections. -/
def sanctionedRules : List Rule :=
  [⟨[.oifname "lo"], .verdict .accept⟩,
    ⟨[.oifname "varmlen0"], .verdict .accept⟩,
    ⟨[.ctState [.established, .related], .ctDirection .reply], .verdict .accept⟩,
    ⟨[.fibDaddrLocal], .verdict .accept⟩,
    ⟨[.metaMark true 0x2023], .verdict .accept⟩,
    ⟨[.metaMark true 0x2024], .verdict .accept⟩,
    ⟨[.metaMark true 0x2025], .verdict .accept⟩,
    ⟨[.ctMark 0x2023], .verdict .accept⟩,
    ⟨[.ctMark 0x2024], .verdict .accept⟩,
    ⟨[.ctMark 0x2025], .verdict .accept⟩]

/-- The resolver that names are looked up with before there is a tunnel. -/
def bootstrapResolver : Ipv4Addr := ⟨1, 1, 1, 1⟩

def bootstrapRules : List Rule :=
  [⟨[.ipDaddr [(bootstrapResolver, 32)], .udpDport 53], .verdict .accept⟩,
    ⟨[.ipDaddr [(bootstrapResolver, 32)], .tcpDport 53], .verdict .accept⟩,
    ⟨[.ipDaddr [(bootstrapResolver, 32)], .tcpDport 443], .verdict .accept⟩]

def serverRule : IpAddr → Rule
  | .v4 address => ⟨[.ipDaddr [(address, 32)]], .verdict .accept⟩
  | .v6 address => ⟨[.ip6Daddr [(address, 128)]], .verdict .accept⟩

def lanV4 : List Ipv4Block :=
  [(⟨10, 0, 0, 0⟩, 8), (⟨172, 16, 0, 0⟩, 12), (⟨192, 168, 0, 0⟩, 16),
    (⟨169, 254, 0, 0⟩, 16), (⟨100, 64, 0, 0⟩, 10)]

def lanV6 : List Ipv6Block :=
  [(⟨0xfe80, 0, 0, 0, 0, 0, 0, 0⟩, 10), (⟨0xfc00, 0, 0, 0, 0, 0, 0, 0⟩, 7)]

/-- Queries for system DNS never reach a neighbour. -/
def lanDnsRules : List Rule :=
  [⟨[.udpDport 53, .ipDaddr lanV4], .verdict .drop⟩,
    ⟨[.tcpDport 53, .ipDaddr lanV4], .verdict .drop⟩,
    ⟨[.udpDport 53, .ip6Daddr lanV6], .verdict .drop⟩,
    ⟨[.tcpDport 53, .ip6Daddr lanV6], .verdict .drop⟩]

def lanRules (allowLan : Bool) : List Rule :=
  if allowLan then
    [⟨[.ipDaddr lanV4], .verdict .accept⟩, ⟨[.ip6Daddr lanV6], .verdict .accept⟩]
  else []

def dropRules : List Rule :=
  [⟨[], .log "limit rate 30/second log prefix \"varmlen_ks_drop \" level info"⟩,
    ⟨[], .verdict .drop⟩]

def killswitchChain (serverIps : List IpAddr) (allowLan : Bool) : Chain where
  policy := .drop
  rules := sanctionedRules ++ (bootstrapRules ++ (serverIps.map serverRule ++
    (lanDnsRules ++ (lanRules allowLan ++ dropRules))))

/-- The rules of a group on their lines. -/
def groupText (rules : List Rule) : String := String.join (rules.map (Rule.line true))

theorem serverRule_line (server : IpAddr) :
    (serverRule server).line true = serverLine server := by
  have accepted :
      " " ++ (Action.text true (.verdict .accept) ++ "\n") = " counter accept\n" := by
    decide
  cases server with
  | v4 address =>
      have indented : "    " ++ "ip daddr " = "    ip daddr " := by decide
      change _ = "    ip daddr " ++ toText (.v4 address) ++ " counter accept\n"
      rw [serverRule, Rule.line_single, ipDaddr_text, accepted, ← indented]
      simp only [String.append_assoc]
  | v6 address =>
      have indented : "    " ++ "ip6 daddr " = "    ip6 daddr " := by decide
      change _ = "    ip6 daddr " ++ toText (.v6 address) ++ " counter accept\n"
      rw [serverRule, Rule.line_single, ip6Daddr_text, accepted, ← indented]
      simp only [String.append_assoc]

theorem fixedLines_eq :
    fixedLines = "add table inet varmlen_ks\n" ++ "delete table inet varmlen_ks\n" ++
      ("table inet " ++ "varmlen_ks" ++ " \x7b\n" ++ ("  chain " ++ "out" ++ " \x7b\n    " ++
        "type filter hook output priority 0;" ++ " policy " ++ Verdict.drop.text ++ ";\n" ++
          (groupText sanctionedRules ++ groupText bootstrapRules))) := by
  decide +kernel

theorem lanDnsLines_eq : lanDnsLines = groupText lanDnsRules := by
  decide +kernel

theorem lanLines_eq (allowLan : Bool) : lanLines allowLan = groupText (lanRules allowLan) := by
  cases allowLan <;> decide +kernel

theorem dropLines_eq : dropLines = groupText dropRules ++ ("  \x7d\n" ++ "\x7d\n") := by
  decide +kernel

/-- The text is that of the chain. -/
theorem killswitchRuleset_eq (serverIps : List IpAddr) (allowLan : Bool) :
    killswitchRuleset serverIps allowLan =
      "add table inet varmlen_ks\n" ++ "delete table inet varmlen_ks\n" ++
        tableText "varmlen_ks" [(killswitchChain serverIps allowLan).text "out"
          "type filter hook output priority 0;" true] := by
  have servers : String.join (serverIps.map serverLine) = groupText (serverIps.map serverRule) := by
    rw [groupText, List.map_map]
    exact congrArg String.join (List.map_congr_left fun server _ => (serverRule_line server).symm)
  unfold killswitchRuleset tableText Chain.text killswitchChain
  rewrite [fixedLines_eq, servers, lanDnsLines_eq, lanLines_eq, dropLines_eq]
  simp only [groupText, List.map_append, String.join_append, String.join_cons, String.join_nil,
    String.append_assoc, String.append_empty]

/-! ## What each group of rules matches -/

/-- Nothing that the tunnel needs: a new packet that leaves on another interface for
another machine, and neither it nor its connection is marked. -/
structure Unsanctioned (packet : Packet) : Prop where
  fresh : packet.ctState = .new
  notLoopback : packet.oifname ≠ "lo"
  notTunnel : packet.oifname ≠ "varmlen0"
  notLocal : packet.toLocal = false
  unmarked : lowBits packet.mark ∉ [dnsMark, dialMark, bypassMark]
  connectionUnmarked : lowBits packet.ctMark ∉ [dnsMark, dialMark, bypassMark]

def isBootstrap (packet : Packet) : Bool :=
  packet.daddr == .v4 bootstrapResolver && (isDns packet || packet.transport == .tcp 443)

def inLan : IpAddr → Bool
  | .v4 address => lanV4.any (coversV4 · address)
  | .v6 address => lanV6.any (coversV6 · address)

section Groups

variable {packet : Packet}

theorem sanctionedRules_unmatched (unsanctioned : Unsanctioned packet) :
    ∀ rule ∈ sanctionedRules, rule.matchedBy packet = false := by
  have unmarked := unsanctioned.unmarked
  have connectionUnmarked := unsanctioned.connectionUnmarked
  simp [dnsMark, dialMark, bypassMark] at unmarked connectionUnmarked
  simp [sanctionedRules, Rule.matchedBy, Condition.holds, unsanctioned.fresh,
    unsanctioned.notLoopback, unsanctioned.notTunnel, unsanctioned.notLocal, unmarked,
    connectionUnmarked]

theorem serverRule_matchedBy (server : IpAddr) :
    (serverRule server).matchedBy packet = true ↔ packet.daddr = server := by
  cases server with
  | v4 base =>
      rw [serverRule, Rule.matchedBy, List.all_cons, List.all_nil, Bool.and_true,
        Condition.holds]
      cases packet.daddr with
      | v4 address => simp [coversV4_single]
      | v6 address => simp
  | v6 base =>
      rw [serverRule, Rule.matchedBy, List.all_cons, List.all_nil, Bool.and_true,
        Condition.holds]
      cases packet.daddr with
      | v4 address => simp
      | v6 address => simp [coversV6_single]

theorem any_serverRules (serverIps : List IpAddr) :
    (serverIps.map serverRule).any (·.matchedBy packet) = true ↔
      packet.daddr ∈ serverIps := by
  simp [List.any_eq_true, serverRule_matchedBy]

theorem any_bootstrapRules :
    bootstrapRules.any (·.matchedBy packet) = isBootstrap packet := by
  have resolver : Condition.holds packet (.ipDaddr [(bootstrapResolver, 32)]) =
      (packet.daddr == .v4 bootstrapResolver) := by
    rw [Bool.eq_iff_iff, beq_iff_eq, ← serverRule_matchedBy]
    simp [serverRule, Rule.matchedBy]
  simp only [bootstrapRules, List.any_cons, List.any_nil, Rule.matchedBy, List.all_cons,
    List.all_nil, resolver, isBootstrap, isDns]
  simp only [Condition.holds]
  cases packet.daddr == .v4 bootstrapResolver <;> simp [Bool.or_assoc]

theorem any_lanRules (allowLan : Bool) :
    (lanRules allowLan).any (·.matchedBy packet) = (allowLan && inLan packet.daddr) := by
  cases allowLan with
  | false => rfl
  | true =>
      simp only [lanRules, if_true, List.any_cons, List.any_nil, Rule.matchedBy,
        List.all_cons, List.all_nil, Condition.holds]
      cases packet.daddr with
      | v4 address => simp [inLan]
      | v6 address => simp [inLan]

theorem any_lanDnsRules :
    lanDnsRules.any (·.matchedBy packet) = (isDns packet && inLan packet.daddr) := by
  simp only [lanDnsRules, List.any_cons, List.any_nil, Rule.matchedBy, List.all_cons,
    List.all_nil, Condition.holds, isDns]
  cases packet.daddr with
  | v4 address =>
      simp only [inLan]
      cases lanV4.any (coversV4 · address) <;> simp
  | v6 address =>
      simp only [inLan]
      cases lanV6.any (coversV6 · address) <;> simp

theorem killswitchChain_run (serverIps : List IpAddr) (allowLan : Bool)
    (unsanctioned : Unsanctioned packet) :
    ((killswitchChain serverIps allowLan).run packet).1 =
      if isBootstrap packet then .accept
      else if packet.daddr ∈ serverIps then .accept
      else if isDns packet && inLan packet.daddr then .drop
      else if allowLan && inLan packet.daddr then .accept
      else .drop := by
  rw [Chain.run, killswitchChain]
  dsimp only
  rw [runRules_unmatched (sanctionedRules_unmatched unsanctioned),
    @runRules_group _ .accept _ _ bootstrapRules (by decide),
    @runRules_group _ .accept _ _ (serverIps.map serverRule)
      (by
        intro rule member
        rcases List.mem_map.1 member with ⟨server, _, rfl⟩
        cases server <;> rfl),
    @runRules_group _ .drop _ _ lanDnsRules (by decide),
    @runRules_group _ .accept _ _ (lanRules allowLan) (by cases allowLan <;> decide),
    dropRules, runRules_log]
  simp only [any_bootstrapRules, any_serverRules, any_lanDnsRules, any_lanRules]
  rw [apply_ite Prod.fst, apply_ite Prod.fst, apply_ite Prod.fst, apply_ite Prod.fst]
  rfl

theorem killswitchChain_accepts (serverIps : List IpAddr) (allowLan : Bool)
    (unsanctioned : Unsanctioned packet) :
    ((killswitchChain serverIps allowLan).run packet).1 = .accept ↔
      packet.daddr ∈ serverIps ∨ isBootstrap packet = true ∨
        (allowLan = true ∧ inLan packet.daddr = true ∧ isDns packet = false) := by
  rw [killswitchChain_run serverIps allowLan unsanctioned]
  by_cases listed : packet.daddr ∈ serverIps
  · simp [listed]
  · cases isBootstrap packet <;> cases isDns packet <;> cases inLan packet.daddr <;>
      cases allowLan <;> simp [listed]

end Groups

/-! ## The chains together -/

/-- What becomes of an outgoing packet.  Marking a packet routes it again, so that the
filters see the interface `reroute` gives. -/
def outputVerdict (reroute : Packet → String) (serverIps : List IpAddr) (allowLan : Bool)
    (packet : Packet) : Verdict :=
  markOutput.pass packet fun marked =>
    guardOutput.pass { marked with oifname := reroute marked } fun guarded =>
      ((killswitchChain serverIps allowLan).run guarded).1

/-- No query for system DNS leaves outside the tunnel, except for an application that
stays outside it. -/
theorem outputVerdict_dns {packet : Packet} (reroute : Packet → String)
    (serverIps : List IpAddr) (allowLan : Bool) (dns : isDns packet = true)
    (notLoopback : reroute (markOutput.run packet).2 ≠ "lo")
    (notTunnel : reroute (markOutput.run packet).2 ≠ "varmlen0")
    (inside : lowBits packet.mark ≠ bypassMark) :
    outputVerdict reroute serverIps allowLan packet ≠ .accept := by
  rcases markOutput_run packet with ⟨mark, ctMark, ran, kept⟩
  rw [ran] at notLoopback notTunnel
  have rejected := @guardOutput_rejects
    { packet with oifname := reroute { packet with mark, ctMark }, mark, ctMark }
    dns notLoopback notTunnel (kept inside)
  rw [outputVerdict, Chain.pass, ran]
  apply Chain.pass_refused
  rw [rejected]
  exact Verdict.noConfusion

/-- The texts are those of the three chains, and this is what the chains let out. -/
theorem killswitch_dnsGuard_admit_sanctioned (serverIps : List IpAddr) (allowLan : Bool) :
    killswitchRuleset serverIps allowLan =
      "add table inet varmlen_ks\n" ++ "delete table inet varmlen_ks\n" ++
        tableText "varmlen_ks" [(killswitchChain serverIps allowLan).text "out"
          "type filter hook output priority 0;" true] ∧
    renderDnsRules = tableText "varmlen_dns"
      [markOutput.text "mark_output" "type route hook output priority mangle + 10;" false,
        guardOutput.text "guard_output" "type filter hook output priority filter - 10;"
          false] ∧
    (∀ packet, Unsanctioned packet →
      (((killswitchChain serverIps allowLan).run packet).1 = .accept ↔
        packet.daddr ∈ serverIps ∨
        (packet.daddr = .v4 ⟨1, 1, 1, 1⟩ ∧
          (packet.transport = .udp 53 ∨ packet.transport = .tcp 53 ∨
            packet.transport = .tcp 443)) ∨
        (allowLan = true ∧ inLan packet.daddr = true ∧
          packet.transport ≠ .udp 53 ∧ packet.transport ≠ .tcp 53))) ∧
    ∀ packet reroute,
      packet.transport = .udp 53 ∨ packet.transport = .tcp 53 →
      reroute (markOutput.run packet).2 ≠ "lo" →
      reroute (markOutput.run packet).2 ≠ "varmlen0" →
      lowBits packet.mark ≠ 0x2025 →
      outputVerdict reroute serverIps allowLan packet ≠ .accept := by
  refine ⟨killswitchRuleset_eq serverIps allowLan, renderDnsRules_eq, ?_, ?_⟩
  · intro packet unsanctioned
    rw [killswitchChain_accepts serverIps allowLan unsanctioned, isBootstrap, isDns]
    simp [bootstrapResolver, or_assoc]
  · intro packet reroute query notLoopback notTunnel inside
    have dns : isDns packet = true := by simpa [isDns] using query
    exact outputVerdict_dns reroute serverIps allowLan dns notLoopback notTunnel inside

/-- A neighbour on an IPv4 network, asked for a page and for a name. -/
def neighbourPacket (transport : Transport) : Packet where
  oifname := "eth0"
  daddr := .v4 ⟨192, 168, 1, 1⟩
  toLocal := false
  transport
  mark := 0
  ctMark := 0
  ctState := .new
  ctDirection := .original

theorem neighbour_admitted :
    (((killswitchChain [.v4 ⟨5, 6, 7, 8⟩] true).run (neighbourPacket (.tcp 80))).1 = .accept) ∧
    outputVerdict (fun _ => "eth0") [.v4 ⟨192, 168, 1, 1⟩] true (neighbourPacket (.udp 53)) ≠
      .accept :=
  ⟨((killswitch_dnsGuard_admit_sanctioned [.v4 ⟨5, 6, 7, 8⟩] true).2.2.1
      (neighbourPacket (.tcp 80))
      ⟨rfl, by decide, by decide, rfl, by decide, by decide⟩).2
      (.inr (.inr ⟨rfl, by decide, by decide, by decide⟩)),
    (killswitch_dnsGuard_admit_sanctioned [.v4 ⟨192, 168, 1, 1⟩] true).2.2.2
      (neighbourPacket (.udp 53)) (fun _ => "eth0") (.inl rfl) (by decide) (by decide)
      (by decide)⟩

end Varmlen.Helper
