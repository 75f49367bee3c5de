import Varmlen.Foundation.Nft

/-!
# The DNS table

The two chains that keep the DNS of applications inside the tunnel
(`daemon/src/nft.rs`): queries are marked, which routes them to the tunnel, and a query
that would leave anywhere else is rejected.
-/

namespace Varmlen.Daemon

open Foundation.Ip Foundation.Nft

/-- The marks of system DNS, of Xray's own dials and of applications outside the
tunnel. -/
def dnsMark : Mark := 0x2023

def dialMark : Mark := 0x2024

def bypassMark : Mark := 0x2025

def renderDnsRules : String :=
  "table inet varmlen_dns \x7b\n" ++
  "  chain mark_output \x7b\n" ++
  "    type route hook output priority mangle + 10; policy accept;\n" ++
  "    ip daddr 127.0.0.0/8 return\n" ++
  "    ip6 daddr ::1 return\n" ++
  "    meta mark & 0x0000ffff != 0x2024 meta mark & 0x0000ffff != 0x2025 udp dport 53 " ++
  "meta mark set 0x2023 ct mark set meta mark\n" ++
  "    meta mark & 0x0000ffff != 0x2024 meta mark & 0x0000ffff != 0x2025 tcp dport 53 " ++
  "meta mark set 0x2023 ct mark set meta mark\n" ++
  "  \x7d\n" ++
  "  chain guard_output \x7b\n" ++
  "    type filter hook output priority filter - 10; policy accept;\n" ++
  "    oifname \"lo\" accept\n" ++
  "    meta mark & 0x0000ffff == 0x2025 udp dport 53 accept\n" ++
  "    meta mark & 0x0000ffff == 0x2025 tcp dport 53 accept\n" ++
  "    meta mark & 0x0000ffff == 0x2025 tcp dport 853 accept\n" ++
  "    meta mark & 0x0000ffff == 0x2023 oifname \"varmlen0\" udp dport 53 accept\n" ++
  "    meta mark & 0x0000ffff == 0x2023 oifname \"varmlen0\" tcp dport 53 accept\n" ++
  "    oifname \"varmlen0\" tcp dport 853 accept\n" ++
  "    udp dport 53 reject\n" ++
  "    tcp dport 53 reject\n" ++
  "    tcp dport 853 reject\n" ++
  "  \x7d\n" ++
  "\x7d\n"

def markOutput : Chain where
  policy := .accept
  rules :=
    [⟨[.ipDaddr [(⟨127, 0, 0, 0⟩, 8)]], .return⟩,
      ⟨[.ip6Daddr [(⟨0, 0, 0, 0, 0, 0, 0, 1⟩, 128)]], .return⟩,
      ⟨[.metaMark false dialMark, .metaMark false bypassMark, .udpDport 53],
        .setMark dnsMark⟩,
      ⟨[.metaMark false dialMark, .metaMark false bypassMark, .tcpDport 53],
        .setMark dnsMark⟩]

def guardOutput : Chain where
  policy := .accept
  rules :=
    [⟨[.oifname "lo"], .verdict .accept⟩,
      ⟨[.metaMark true bypassMark, .udpDport 53], .verdict .accept⟩,
      ⟨[.metaMark true bypassMark, .tcpDport 53], .verdict .accept⟩,
      ⟨[.metaMark true bypassMark, .tcpDport 853], .verdict .accept⟩,
      ⟨[.metaMark true dnsMark, .oifname "varmlen0", .udpDport 53], .verdict .accept⟩,
      ⟨[.metaMark true dnsMark, .oifname "varmlen0", .tcpDport 53], .verdict .accept⟩,
      ⟨[.oifname "varmlen0", .tcpDport 853], .verdict .accept⟩,
      ⟨[.udpDport 53], .verdict .reject⟩,
      ⟨[.tcpDport 53], .verdict .reject⟩,
      ⟨[.tcpDport 853], .verdict .reject⟩]

/-- The text is that of the two chains. -/
theorem renderDnsRules_eq :
    renderDnsRules = tableText "varmlen_dns"
      [markOutput.text "mark_output" "type route hook output priority mangle + 10;" false,
        guardOutput.text "guard_output" "type filter hook output priority filter - 10;"
          false] := by
  decide +kernel

/-- A query for system DNS. -/
def isDns (packet : Packet) : Bool :=
  packet.transport == .udp 53 || packet.transport == .tcp 53

/-- What the first chain leaves of a packet is accepted, at most with another mark. -/
theorem markOutput_run (packet : Packet) :
    ∃ mark ctMark, markOutput.run packet = (.accept, { packet with mark, ctMark }) ∧
      (lowBits packet.mark ≠ bypassMark → lowBits mark ≠ bypassMark) := by
  have unmarked : lowBits dnsMark ≠ bypassMark := by decide
  have kept : ∃ mark ctMark, (Verdict.accept, packet) =
      (.accept, { packet with mark, ctMark }) ∧
      (lowBits packet.mark ≠ bypassMark → lowBits mark ≠ bypassMark) :=
    ⟨packet.mark, packet.ctMark, rfl, id⟩
  have marked : ∃ mark ctMark, (Verdict.accept,
      { packet with mark := dnsMark, ctMark := dnsMark }) =
      (.accept, { packet with mark, ctMark }) ∧
      (lowBits packet.mark ≠ bypassMark → lowBits mark ≠ bypassMark) :=
    ⟨dnsMark, dnsMark, rfl, fun _ => unmarked⟩
  rw [Chain.run, markOutput]
  simp only [runRules]
  split
  next => exact kept
  next =>
    split
    next => exact kept
    next =>
      split
      next =>
        -- the rule for TCP runs over the packet that the one for UDP has marked
        split
        next => exact marked
        next => exact marked
      next =>
        split
        next => exact marked
        next => exact kept

/-- A query that leaves on an interface other than the loopback and the tunnel is
rejected unless it belongs to an application outside the tunnel. -/
theorem guardOutput_rejects {packet : Packet} (dns : isDns packet = true)
    (notLoopback : packet.oifname ≠ "lo") (notTunnel : packet.oifname ≠ "varmlen0")
    (inside : lowBits packet.mark ≠ bypassMark) :
    (guardOutput.run packet).1 = .reject := by
  have unbypassed : (lowBits packet.mark == bypassMark) = false := by simpa using inside
  rw [isDns, Bool.or_eq_true, beq_iff_eq, beq_iff_eq] at dns
  rw [Chain.run, guardOutput]
  rcases dns with udp | tcp
  · simp [runRules, Rule.matchedBy, Condition.holds, notLoopback, notTunnel, unbypassed, udp]
  · simp [runRules, Rule.matchedBy, Condition.holds, notLoopback, notTunnel, unbypassed, tcp]

end Varmlen.Daemon
