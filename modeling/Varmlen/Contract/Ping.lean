import Varmlen.Core.Ping
import Varmlen.Contract.Connection
import Varmlen.Contract.Documents
import Varmlen.Foundation.JsonReading

/-!
# Pings from the command line

What the client sends to measure a location (`cli/src/main.rs`) and what the daemon takes
of it (`daemon/src/protocol.rs`).  The client asks for up to 20 seconds, the daemon grants
15.
-/

namespace Varmlen.Contract

open Foundation.Checks Foundation.Json Foundation.Text
open Core (Fault HashOrder JsonParser VlessServer)
open Daemon.Protocol

/-! ## The client -/

/-- The values of `--timeout` that the command line takes. -/
def timeoutAccepted (timeout : UInt32) : Bool := 100 ≤ timeout && timeout ≤ 20000

/-- The longest ping of an earlier daemon. -/
def legacyMaxPingTimeoutMs : UInt32 := 10000

section Client

variable (unicode : Unicode) (parseJson : JsonParser) (portOrder configOrder : HashOrder)
  (server : VlessServer)

def proxyPingCommand (timeout : UInt32) : Except Fault DaemonCommand := do
  let ports ← Core.pingPlaceholderPorts parseJson portOrder server
  let config ← Core.buildPingConfig parseJson configOrder server (ports.map UInt16.toNat)
  match ports.head? with
  | none => .error (.panic "index out of bounds: the len is 0 but the index is 0")
  | some socksPort =>
      .ok (.proxyPing {
        xrayConfig := config.toText
        socksPort
        socksPorts := ports
        dnsProbeUrls := []
        timeoutMs := timeout })

/-- A handshake was asked for, and the location has one. -/
def usesTcp (tcp : Bool) : Bool := tcp && server.supportsTcpEndpointPing unicode

/-- How long a probe may take. -/
def probeTimeout (tcp : Bool) (timeout : Option UInt32) : UInt32 :=
  timeout.getD
    (if usesTcp unicode server tcp then Core.proxyPingTimeoutMs
    else server.proxyPingTimeoutMs unicode)

/-- The command that a probe starts with. -/
def probeCommand (tcp : Bool) (timeout : Option UInt32) : Except Fault DaemonCommand :=
  let timeoutMs := probeTimeout unicode server tcp timeout
  if usesTcp unicode server tcp then
    .ok (.tcpPing { host := server.host, port := UInt16.ofNat server.port, timeoutMs })
  else proxyPingCommand parseJson portOrder configOrder server timeoutMs

/-- The command that follows when the daemon refused the first one as invalid. -/
def legacyProbeCommand (tcp : Bool) (timeout : Option UInt32) :
    Option (Except Fault DaemonCommand) :=
  if !usesTcp unicode server tcp &&
      legacyMaxPingTimeoutMs < probeTimeout unicode server tcp timeout then
    some (proxyPingCommand parseJson portOrder configOrder server legacyMaxPingTimeoutMs)
  else none

end Client

/-- The config and the host of a ping are as short as a daemon takes them. -/
def PingBounded : DaemonCommand → Prop
  | .tcpPing ping => Daemon.byteLength ping.host ≤ maxPingHostBytes
  | .proxyPing ping => Daemon.byteLength ping.xrayConfig ≤ Daemon.maxConfigBytes
  | _ => True

/-! ## What the daemon takes -/

theorem toText_ne_empty (fields : List (String × Value)) : (Value.object fields).toText ≠ "" := by
  have text : (Value.object fields).toText =
      bracketed .compact 0 "\x7b" "\x7d" (Value.writeFields .compact 1 fields) := rfl
  intro empty
  have chars := toList_bracketed 0 "\x7b" "\x7d" (Value.writeFields .compact 1 fields)
  rw [← text, empty] at chars
  cases chars

theorem pingConfig_object {plan : Core.OutboundPlan} {ports : List Nat} {config : Value}
    (built : Core.pingConfig plan ports = .ok config) : ∃ fields, config = .object fields := by
  rw [Core.pingConfig] at built
  split at built
  next => cases built
  next =>
    split at built
    next => cases built
    next =>
      cases built
      exact ⟨_, rfl⟩

section Daemon

variable {unicode : Unicode} {parseJson : JsonParser} {portOrder configOrder : HashOrder}
  {server : VlessServer} (parseUrl : String → Option Core.Url) (operationId : UInt64)

/-- A ping through the proxy is taken for every timeout that the daemon grants. -/
theorem validateRequest_proxyPing {timeout : UInt32} {command : DaemonCommand}
    (built : proxyPingCommand parseJson portOrder configOrder server timeout = .ok command)
    (bounded : PingBounded command) :
    validateRequest parseUrl ⟨protocolVersion, operationId, command⟩ = .ok () ↔
      pingTimeoutBounded timeout = true := by
  rw [proxyPingCommand] at built
  rcases bind_eq_ok.1 built with ⟨ports, listed, built⟩
  rcases bind_eq_ok.1 built with ⟨config, generated, built⟩
  rcases Core.pingPlaceholderPorts_eq_ok listed with ⟨few, head, nonzero, distinct⟩
  rw [head] at built
  cases built
  have written : config.toText ≠ "" := by
    rw [Core.buildPingConfig] at generated
    split at generated
    next => cases generated
    next =>
      rcases pingConfig_object generated with ⟨fields, rfl⟩
      exact toText_ne_empty fields
  have some_ports : ports ≠ [] := by
    rintro rfl
    cases head
  have first : Core.placeholderPort 0 ≠ 0 := by decide
  have permitted : ¬Daemon.maxServerIps < ports.length := Nat.not_lt.2 few
  have size : ¬Daemon.maxConfigBytes < Daemon.byteLength config.toText := Nat.not_lt.2 bounded
  have noUrls : dnsProbeUrlsAreValid parseUrl [] = true := by simp [dnsProbeUrlsAreValid]
  simp [validateRequest, validateProxyPingRequest, refuseIf_eq_ok,
    ProxyPingRequest.effectiveSocksPorts, written, size, first, some_ports, permitted, head,
    nonzero, distinct, noUrls]

/-- A handshake is taken with a host that can be dialled on a port, for every timeout that
the daemon grants. -/
theorem validateRequest_tcpPing {ping : TcpPingRequest}
    (bounded : Daemon.byteLength ping.host ≤ maxPingHostBytes) :
    validateRequest parseUrl ⟨protocolVersion, operationId, .tcpPing ping⟩ = .ok () ↔
      pingTimeoutBounded ping.timeoutMs = true ∧ trim ping.host ≠ "" ∧
        '\x00' ∉ ping.host.toList ∧ ping.port ≠ 0 := by
  have size : ¬maxPingHostBytes < Daemon.byteLength ping.host := Nat.not_lt.2 bounded
  simp only [validateRequest, ne_eq, not_true_eq_false, if_false, validateTcpPingRequest,
    refuseIf_eq_ok, size, decide_false, Bool.or_false, Bool.or_eq_false_iff, Bool.not_eq_false',
    beq_eq_false_iff_ne, List.contains_eq_mem, decide_eq_false_iff_not]
  rw [and_comm, and_assoc]

/-- The timeout of a probe is granted unless the command line gave one over 15 seconds. -/
theorem pingTimeoutBounded_probeTimeout {tcp : Bool} {timeout : Option UInt32}
    (accepted : ∀ given ∈ timeout, timeoutAccepted given = true) :
    pingTimeoutBounded (probeTimeout unicode server tcp timeout) = true ↔
      ∀ given ∈ timeout, given ≤ 15000 := by
  cases timeout with
  | none =>
      have granted : [Core.proxyPingTimeoutMs, Core.udpProxyPingTimeoutMs].all
          pingTimeoutBounded = true := by decide
      have budget : probeTimeout unicode server tcp none ∈
          [Core.proxyPingTimeoutMs, Core.udpProxyPingTimeoutMs] := by
        rw [probeTimeout, VlessServer.proxyPingTimeoutMs, Option.getD_none]
        split
        next => exact .head _
        next =>
          split
          next => exact .head _
          next => exact .tail _ (.head _)
      simp [List.all_eq_true.1 granted _ budget]
  | some given =>
      have lower : 100 ≤ given :=
        of_decide_eq_true (Bool.and_eq_true_iff.1 (accepted given rfl)).1
      rw [probeTimeout, Option.getD_some, pingTimeoutBounded, Bool.and_eq_true,
        decide_eq_true_iff, decide_eq_true_iff]
      simp [lower]

/-- The daemon takes the ping of a location exactly when the command line gave no timeout
over 15 seconds and what a handshake dials can be dialled. -/
theorem ping_accepted_iff {tcp : Bool} {timeout : Option UInt32} {command : DaemonCommand}
    (accepted : ∀ given ∈ timeout, timeoutAccepted given = true)
    (built : probeCommand unicode parseJson portOrder configOrder server tcp timeout =
      .ok command)
    (bounded : PingBounded command) :
    validateRequest parseUrl ⟨protocolVersion, operationId, command⟩ = .ok () ↔
      (∀ given ∈ timeout, given ≤ 15000) ∧
        (usesTcp unicode server tcp = true →
          trim server.host ≠ "" ∧ '\x00' ∉ server.host.toList ∧
            UInt16.ofNat server.port ≠ 0) := by
  have granted : pingTimeoutBounded (probeTimeout unicode server tcp timeout) = true ↔
      ∀ given ∈ timeout, given ≤ 15000 := pingTimeoutBounded_probeTimeout accepted
  rw [probeCommand] at built
  rw [← granted]
  split at built
  next handshake =>
    cases built
    rw [validateRequest_tcpPing parseUrl operationId bounded]
    simp [handshake]
  next proxied =>
    rw [validateRequest_proxyPing parseUrl operationId built bounded]
    simp [proxied]

-- A link may name neither a host nor a port.
example : ((Core.parseProxyUri (textLibraries []) "ss://aes-128-gcm:secret@[]:0").toOption.map
    fun server => (server.host, server.port)) = some ("", 0) := by
  decide +kernel

/-- The second ping, for an earlier daemon, is taken by a later one as well. -/
theorem legacyProbeCommand_accepted {tcp : Bool} {timeout : Option UInt32}
    {command : DaemonCommand}
    (built : legacyProbeCommand unicode parseJson portOrder configOrder server tcp timeout =
      some (.ok command))
    (bounded : PingBounded command) :
    validateRequest parseUrl ⟨protocolVersion, operationId, command⟩ = .ok () := by
  rw [legacyProbeCommand] at built
  split at built
  next =>
    have again : proxyPingCommand parseJson portOrder configOrder server
        legacyMaxPingTimeoutMs = .ok command := Option.some.inj built
    rw [validateRequest_proxyPing parseUrl operationId again bounded]
    decide
  next => cases built

end Daemon

/-! ## A location of a share link -/

def shadowsocksLink : String := "ss://aes-128-gcm:secret@example.com:443"

/-- The location of the link. -/
def shadowsocksServer : VlessServer :=
  { VlessServer.base "shadowsocks" "example.com" 443 "example.com:443" with
    method := some "aes-128-gcm"
    password := some "secret" }

/-- The handshake with the location. -/
def shadowsocksPing (timeoutMs : UInt32) : DaemonCommand :=
  .tcpPing { host := "example.com", port := 443, timeoutMs }

theorem probeCommand_shadowsocks (timeout : Option UInt32) :
    probeCommand .ascii (textLibraries []).parseJson .inserted .inserted
        shadowsocksServer true timeout =
      .ok (shadowsocksPing (probeTimeout .ascii shadowsocksServer true timeout)) := by
  have handshake : usesTcp .ascii shadowsocksServer true = true := by decide +kernel
  rw [probeCommand, if_pos handshake]
  rfl

/-- The location answers within the time that a client grants by itself. -/
theorem shadowsocks_ping_accepted :
    validateRequest (fun _ => none) ⟨protocolVersion, 1, shadowsocksPing 5000⟩ = .ok () := by
  have bounded : PingBounded (shadowsocksPing 5000) := by
    change _ ≤ _
    decide +kernel
  exact (ping_accepted_iff (fun _ => none) 1 (by simp) (probeCommand_shadowsocks none)
    bounded).2 ⟨by simp, fun _ => by decide +kernel⟩

/-- The command line takes a timeout that the daemon refuses. -/
theorem shadowsocks_ping_refused :
    Core.parseProxyUri (textLibraries []) shadowsocksLink = .ok shadowsocksServer ∧
      timeoutAccepted 20000 = true ∧
      probeCommand .ascii (textLibraries []).parseJson .inserted .inserted
        shadowsocksServer true (some 20000) = .ok (shadowsocksPing 20000) ∧
      PingBounded (shadowsocksPing 20000) ∧
      validateRequest (fun _ => none) ⟨protocolVersion, 1, shadowsocksPing 20000⟩ =
        .error .invalidRequest := by
  refine ⟨rfl, by decide, probeCommand_shadowsocks (some 20000), ?_, ?_⟩
  · change _ ≤ _
    decide +kernel
  · decide +kernel

end Varmlen.Contract
