import Mathlib.Data.List.Nodup
import Varmlen.Core.Config

/-!
# Pings of a location

How a location is probed: whether a handshake says anything of it, how long a probe may
take (`core/src/ping.rs`), and which ports a probe document names before the daemon
reserves its own (`core/src/xray.rs`).
-/

namespace Varmlen.Core

open Foundation.Text

/-! ## Budgets -/

/-- Budget in milliseconds for a location that answers over TCP. -/
def proxyPingTimeoutMs : UInt32 := 5000

/-- Budget in milliseconds for a location that only answers over UDP. -/
def udpProxyPingTimeoutMs : UInt32 := 15000

def udpOnlyProtocols : List String := ["hysteria", "hysteria2", "hy2", "wireguard"]

def udpOnlyTransports : List String := ["hysteria", "hysteria2", "hy2", "kcp", "quic"]

namespace VlessServer

variable (unicode : Unicode) (server : VlessServer)

def supportsTcpEndpointPing : Bool :=
  !(udpOnlyProtocols.contains (unicode.toLowercase (trim server.protocol)) ||
    udpOnlyTransports.contains (unicode.toLowercase (trim server.transport)))

/-- The budget of a probe through the proxy. -/
def proxyPingTimeoutMs : UInt32 :=
  if server.supportsTcpEndpointPing unicode then Core.proxyPingTimeoutMs
  else udpProxyPingTimeoutMs

end VlessServer

/-! ## Placeholder ports -/

section Ports

variable (parseJson : JsonParser) (order : HashOrder) (server : VlessServer)

def pingProxyCount : Except Fault Nat :=
  match outboundPlan parseJson order server with
  | .error fault => .error fault
  | .ok plan => .ok plan.proxies.length

/-- The placeholder for the port of the proxy at a place. -/
def placeholderPort (index : Nat) : UInt16 :=
  UInt16.ofNat connectionProbePortBase + UInt16.ofNat index

def pingPlaceholderPorts : Except Fault (List UInt16) :=
  match pingProxyCount parseJson order server with
  | .error fault => .error fault
  | .ok count =>
      if count < 1 ∨ 64 < count then
        .error (.error ("invalid proxy path count: " ++ toString count))
      else .ok ((List.range count).map placeholderPort)

end Ports

theorem toNat_placeholderPort {index : Nat} (small : index < 64) :
    (placeholderPort index).toNat = connectionProbePortBase + index := by
  rw [placeholderPort, UInt16.toNat_add, UInt16.toNat_ofNat', UInt16.toNat_ofNat',
    connectionProbePortBase]
  omega

/-- Between one and 64 ports, from the base on, each of them once. -/
theorem pingPlaceholderPorts_eq_ok {parseJson : JsonParser} {order : HashOrder}
    {server : VlessServer} {ports : List UInt16}
    (listed : pingPlaceholderPorts parseJson order server = .ok ports) :
    ports.length ≤ 64 ∧ ports.head? = some (placeholderPort 0) ∧ 0 ∉ ports ∧ ports.Nodup := by
  rw [pingPlaceholderPorts] at listed
  split at listed
  next => cases listed
  next count _ =>
    split at listed
    next => cases listed
    next within =>
      cases listed
      have few : count ≤ 64 := by omega
      have below (index : Nat) (member : index ∈ List.range count) : index < 64 :=
        Nat.lt_of_lt_of_le (List.mem_range.1 member) few
      refine ⟨?_, ?_, ?_, ?_⟩
      · rw [List.length_map, List.length_range]
        exact few
      · rcases Nat.exists_eq_add_of_le' (show 1 ≤ count by omega) with ⟨rest, rfl⟩
        rw [List.range_succ_eq_map]
        rfl
      · intro zero
        rcases List.mem_map.1 zero with ⟨index, member, isZero⟩
        have number := toNat_placeholderPort (below index member)
        rw [isZero, connectionProbePortBase] at number
        have none : (0 : UInt16).toNat = 0 := rfl
        omega
      · apply List.Nodup.map_on _ List.nodup_range
        intro left leftIn right rightIn same
        have leftNumber := toNat_placeholderPort (below left leftIn)
        have rightNumber := toNat_placeholderPort (below right rightIn)
        rw [same] at leftNumber
        omega

end Varmlen.Core
