import Varmlen.Foundation.Checks
import Varmlen.Foundation.Serde
import Varmlen.Core.Server
import Varmlen.Daemon.Request

/-!
# Envelopes and frames

What travels between a client and the daemon (`daemon/src/protocol.rs`): a request with
its operation id, the response to it, their JSON documents and the frames that carry
these.  A frame that cannot be decoded is answered with the operation id that can still
be found in it.
-/

namespace Varmlen.Daemon.Protocol

open Foundation.Checks Foundation.Ip Foundation.Json Foundation.Serde Foundation.Text

/-! ## Requests and responses -/

structure TcpPingRequest where
  host : String
  port : UInt16
  timeoutMs : UInt32
  deriving DecidableEq, Repr

structure ProxyPingRequest where
  xrayConfig : String
  socksPort : UInt16
  socksPorts : List UInt16
  dnsProbeUrls : List String
  timeoutMs : UInt32
  deriving DecidableEq, Repr

inductive DaemonCommand where
  | status
  | connect (request : ConnectRequest)
  | disconnect
  | updateSplit (applications : List String)
  | tcpPing (request : TcpPingRequest)
  | proxyPing (request : ProxyPingRequest)
  | logTail
  | clearLog
  deriving DecidableEq, Repr

structure RequestEnvelope where
  version : UInt16
  operationId : UInt64
  command : DaemonCommand
  deriving DecidableEq, Repr

/-- A state as it is sent: its round-trip time is a 32-bit number. -/
abbrev SentState := { state : DaemonState // ∀ rtt ∈ state.rttMs, rtt < 2 ^ 32 }

structure ResponseEnvelope where
  version : UInt16
  operationId : UInt64
  result : Except DaemonError SentState
  daemonVersion : String

def protocolVersion : UInt16 := 3

def maxFrameBytes : Nat := 1024 * 1024

/-! ## Bounds -/

def maxPingHostBytes : Nat := 253

def maxDnsProbeUrls : Nat := 8

def maxDnsProbeUrlBytes : Nat := 2048

def pingTimeoutBounded (timeoutMs : UInt32) : Bool := 100 ≤ timeoutMs && timeoutMs ≤ 15000

def validateTcpPingRequest (request : TcpPingRequest) : Except DaemonErrorCode Unit :=
  refuseIf
    (trim request.host == "" || maxPingHostBytes < byteLength request.host ||
      request.host.toList.contains '\x00' || request.port == 0 ||
      !pingTimeoutBounded request.timeoutMs)
    .invalidRequest

def ProxyPingRequest.effectiveSocksPorts (request : ProxyPingRequest) : List UInt16 :=
  if request.socksPorts.isEmpty then [request.socksPort] else request.socksPorts

/-- DNS servers are probed over HTTPS, by address and without credentials. -/
def dnsProbeUrlsAreValid (parseUrl : String → Option Core.Url) (urls : List String) : Bool :=
  urls.length ≤ maxDnsProbeUrls &&
    urls.all fun raw =>
      byteLength raw ≤ maxDnsProbeUrlBytes &&
        (parseUrl raw).any fun url =>
          url.scheme == "https" && url.username == "" && url.password.isNone &&
            url.fragment.isNone && (url.host.bind parse).isSome

def validateProxyPingRequest (parseUrl : String → Option Core.Url)
    (request : ProxyPingRequest) : Except DaemonErrorCode Unit :=
  let ports := request.effectiveSocksPorts
  refuseIf
    (request.xrayConfig == "" || maxConfigBytes < byteLength request.xrayConfig ||
      request.socksPort == 0 || ports.isEmpty || maxServerIps < ports.length ||
      ports.head? != some request.socksPort || ports.contains 0 || !decide ports.Nodup ||
      !dnsProbeUrlsAreValid parseUrl request.dnsProbeUrls ||
      !pingTimeoutBounded request.timeoutMs)
    .invalidRequest

def validateRequest (parseUrl : String → Option Core.Url) (request : RequestEnvelope) :
    Except DaemonErrorCode Unit :=
  if request.version ≠ protocolVersion then .error .unsupportedVersion
  else
    match request.command with
    | .connect connect => validateConnectRequest connect
    | .tcpPing ping => validateTcpPingRequest ping
    | .proxyPing ping => validateProxyPingRequest parseUrl ping
    | .updateSplit applications => validateApplications applications
    | .status => .ok ()
    | .disconnect => .ok ()
    | .logTail => .ok ()
    | .clearLog => .ok ()

/-! ## Documents -/

def ipFormat : Format IpAddr := .text toText parse parse_toText

def modeFormat : Format ConnectionMode :=
  .enumeration [.tun, .proxy]
    (fun
      | .tun => "tun"
      | .proxy => "proxy")
    (by intro mode; cases mode <;> rfl)

def phaseFormat : Format ConnectionPhase :=
  .enumeration [.disconnected, .preparing, .connected, .blocking, .reconnecting,
      .recoveryRequired]
    (fun
      | .disconnected => "disconnected"
      | .preparing => "preparing"
      | .connected => "connected"
      | .blocking => "blocking"
      | .reconnecting => "reconnecting"
      | .recoveryRequired => "recovery_required")
    (by intro phase; cases phase <;> rfl)

def errorCodeName : DaemonErrorCode → String
  | .unsupportedVersion => "unsupported_version"
  | .frameTooLarge => "frame_too_large"
  | .invalidFrame => "invalid_frame"
  | .unauthorized => "unauthorized"
  | .holdBlockFailed => "hold_block_failed"
  | .holdBlockVerificationFailed => "hold_block_verification_failed"
  | .holdBlockRemovalFailed => "hold_block_removal_failed"
  | .tunnelPreparationFailed => "tunnel_preparation_failed"
  | .tunnelCommitFailed => "tunnel_commit_failed"
  | .tunnelCleanupFailed => "tunnel_cleanup_failed"
  | .dnsInstallFailed => "dns_install_failed"
  | .dnsVerificationFailed => "dns_verification_failed"
  | .invalidRequest => "invalid_request"
  | .xrayUnavailable => "xray_unavailable"
  | .xrayValidationFailed => "xray_validation_failed"
  | .xrayStartFailed => "xray_start_failed"
  | .splitUnavailable => "split_unavailable"
  | .pingFailed => "ping_failed"
  | .internal => "internal"

def errorCodeFormat : Format DaemonErrorCode :=
  .enumeration [.unsupportedVersion, .frameTooLarge, .invalidFrame, .unauthorized,
      .holdBlockFailed, .holdBlockVerificationFailed, .holdBlockRemovalFailed,
      .tunnelPreparationFailed, .tunnelCommitFailed, .tunnelCleanupFailed, .dnsInstallFailed,
      .dnsVerificationFailed, .invalidRequest, .xrayUnavailable, .xrayValidationFailed,
      .xrayStartFailed, .splitUnavailable, .pingFailed, .internal]
    errorCodeName (by intro code; cases code <;> rfl)

def connectFormat : Format ConnectRequest where
  write request := .object
    [("mode", modeFormat.write request.mode),
      ("xray_config", .string request.xrayConfig),
      ("validation_config", .string request.validationConfig),
      ("server_ips", (Format.list ipFormat).write request.serverIps),
      ("excluded_apps", (Format.list .string).write request.excludedApps),
      ("killswitch", .bool request.killswitch),
      ("allow_lan", .bool request.allowLan)]
  read document :=
    match record ["mode", "xray_config", "validation_config", "server_ips", "excluded_apps",
        "killswitch", "allow_lan"] document with
    | some [mode, xrayConfig, validationConfig, serverIps, excludedApps, killswitch,
        allowLan] => do
        return {
          mode := ← required modeFormat.read mode
          xrayConfig := ← required readString xrayConfig
          validationConfig := ← required readString validationConfig
          serverIps := ← required (Format.list ipFormat).read serverIps
          excludedApps := ← required (Format.list .string).read excludedApps
          killswitch := ← required readBool killswitch
          allowLan := ← required readBool allowLan }
    | _ => none
  readsBack request := by
    simp [record, field, required, Format.readsBack, readString, readBool]

/-- The request that carries an exception list alone. -/
def applicationsFormat : Format (List String) where
  write applications :=
    .object [("applications", (Format.list .string).write applications)]
  read document :=
    match record ["applications"] document with
    | some [applications] => required (Format.list .string).read applications
    | _ => none
  readsBack applications := by simp [record, field, required, Format.readsBack]

def tcpPingFormat : Format TcpPingRequest where
  write request := .object
    [("host", .string request.host), ("port", Format.u16.write request.port),
      ("timeout_ms", Format.u32.write request.timeoutMs)]
  read document :=
    match record ["host", "port", "timeout_ms"] document with
    | some [host, port, timeoutMs] => do
        return {
          host := ← required readString host
          port := ← required Format.u16.read port
          timeoutMs := ← required Format.u32.read timeoutMs }
    | _ => none
  readsBack request := by simp [record, field, required, Format.readsBack, readString]

def proxyPingFormat : Format ProxyPingRequest where
  write request := .object
    ([("xray_config", .string request.xrayConfig),
      ("socks_port", Format.u16.write request.socksPort)] ++
      unlessEmpty "socks_ports" .u16 request.socksPorts ++
      unlessEmpty "dns_probe_urls" .string request.dnsProbeUrls ++
      [("timeout_ms", Format.u32.write request.timeoutMs)])
  read document :=
    match record ["xray_config", "socks_port", "socks_ports", "dns_probe_urls",
        "timeout_ms"] document with
    | some [xrayConfig, socksPort, socksPorts, dnsProbeUrls, timeoutMs] => do
        return {
          xrayConfig := ← required readString xrayConfig
          socksPort := ← required Format.u16.read socksPort
          socksPorts := ← defaulted [] (Format.list .u16).read socksPorts
          dnsProbeUrls := ← defaulted [] (Format.list .string).read dnsProbeUrls
          timeoutMs := ← required Format.u32.read timeoutMs }
    | _ => none
  readsBack request := by
    rcases request with ⟨xrayConfig, socksPort, socksPorts, dnsProbeUrls, timeoutMs⟩
    cases socksPorts <;> cases dnsProbeUrls <;>
      simp [record, field, required, defaulted, unlessEmpty, Format.readsBack, readString]

/-- A variant that carries nothing. -/
def unitVariant {α : Type} (value : α) (payload : Option Value) : Option α :=
  if carriesNothing payload then some value else none

def commandFormat : Format DaemonCommand where
  write
    | .status => .string "status"
    | .connect request => .object [("connect", connectFormat.write request)]
    | .disconnect => .string "disconnect"
    | .updateSplit applications =>
        .object [("update_split", applicationsFormat.write applications)]
    | .tcpPing request => .object [("tcp_ping", tcpPingFormat.write request)]
    | .proxyPing request => .object [("proxy_ping", proxyPingFormat.write request)]
    | .logTail => .string "log_tail"
    | .clearLog => .string "clear_log"
  read document :=
    match variant document with
    | some ("status", payload) => unitVariant .status payload
    | some ("connect", payload) => (required connectFormat.read payload).map .connect
    | some ("disconnect", payload) => unitVariant .disconnect payload
    | some ("update_split", payload) =>
        (required applicationsFormat.read payload).map .updateSplit
    | some ("tcp_ping", payload) => (required tcpPingFormat.read payload).map .tcpPing
    | some ("proxy_ping", payload) => (required proxyPingFormat.read payload).map .proxyPing
    | some ("log_tail", payload) => unitVariant .logTail payload
    | some ("clear_log", payload) => unitVariant .clearLog payload
    | _ => none
  readsBack command := by
    cases command <;>
      simp [variant, unitVariant, carriesNothing, required, Format.readsBack]

def requestFormat : Format RequestEnvelope where
  write request := .object
    [("version", Format.u16.write request.version),
      ("operation_id", Format.u64.write request.operationId),
      ("command", commandFormat.write request.command)]
  read document :=
    match record ["version", "operation_id", "command"] document with
    | some [version, operationId, command] => do
        return {
          version := ← required Format.u16.read version
          operationId := ← required Format.u64.read operationId
          command := ← required commandFormat.read command }
    | _ => none
  readsBack request := by simp [record, field, required, Format.readsBack]

/-- The 32-bit numbers of a state. -/
def writeU32 (number : Nat) : Value := .number (.int (.ofNat number))

def readU32 : Value → Option Nat := readUnsigned (2 ^ 32)

theorem readU32_writeU32 {number : Nat} (fits : number < 2 ^ 32) :
    readOption readU32 (writeU32 number) = some (some number) :=
  congrArg (Option.map some) (readUnsigned_ofNat fits)

def stateFormat : Format SentState where
  write state := .object
    ([("phase", phaseFormat.write state.1.phase), ("split_active", .bool state.1.splitActive),
      ("dns_protected", .bool state.1.dnsProtected)] ++
      whenSome "rtt_ms" writeU32 state.1.rttMs ++ whenSome "log_tail" .string state.1.logTail)
  read document :=
    match record ["phase", "split_active", "dns_protected", "rtt_ms", "log_tail"] document with
    | some [phase, splitActive, dnsProtected, rttMs, logTail] => do
        let state : DaemonState := {
          phase := ← required phaseFormat.read phase
          splitActive := ← required readBool splitActive
          dnsProtected := ← required readBool dnsProtected
          rttMs := ← defaulted none (readOption readU32) rttMs
          logTail := ← defaulted none (readOption readString) logTail }
        if fits : ∀ rtt ∈ state.rttMs, rtt < 2 ^ 32 then some ⟨state, fits⟩ else none
    | _ => none
  readsBack state := by
    rcases state with ⟨⟨phase, splitActive, dnsProtected, rttMs, logTail⟩, fits⟩
    cases rttMs with
    | none =>
        cases logTail <;>
          simp [record, field, required, defaulted, whenSome, Format.readsBack, readBool,
            readOption, readString]
    | some rtt =>
        have small : rtt < 2 ^ 32 := fits rtt rfl
        have read := readU32_writeU32 small
        cases logTail <;>
          simpa [record, field, required, defaulted, whenSome, Format.readsBack, readBool, read,
            readOption.eq_def readString, readString] using small

def errorFormat : Format DaemonError where
  write error := .object
    [("code", errorCodeFormat.write error.code), ("message", .string error.message)]
  read document :=
    match record ["code", "message"] document with
    | some [code, message] => do
        return ⟨← required errorCodeFormat.read code, ← required readString message⟩
    | _ => none
  readsBack error := by simp [record, field, required, Format.readsBack, readString]

def resultFormat : Format (Except DaemonError SentState) where
  write
    | .ok state => .object [("Ok", stateFormat.write state)]
    | .error error => .object [("Err", errorFormat.write error)]
  read document :=
    match variant document with
    | some ("Ok", payload) => (required stateFormat.read payload).map .ok
    | some ("Err", payload) => (required errorFormat.read payload).map .error
    | _ => none
  readsBack result := by cases result <;> simp [variant, required, Format.readsBack]

def responseFormat : Format ResponseEnvelope where
  write response := .object
    ([("version", Format.u16.write response.version),
      ("operation_id", Format.u64.write response.operationId),
      ("result", resultFormat.write response.result)] ++
      if response.daemonVersion = "" then []
      else [("daemon_version", .string response.daemonVersion)])
  read document :=
    match record ["version", "operation_id", "result", "daemon_version"] document with
    | some [version, operationId, result, daemonVersion] => do
        return {
          version := ← required Format.u16.read version
          operationId := ← required Format.u64.read operationId
          result := ← required resultFormat.read result
          daemonVersion := ← defaulted "" readString daemonVersion }
    | _ => none
  readsBack response := by
    rcases response with ⟨version, operationId, result, daemonVersion⟩
    by_cases unreported : daemonVersion = "" <;>
      simp [record, field, required, defaulted, Format.readsBack, readString, unreported]

/-- The part of a request that names the operation. -/
def readEnvelopeId (document : Value) : Option UInt64 :=
  match record ["operation_id"] document with
  | some [operationId] => required Format.u64.read operationId
  | _ => none

/-! ## Frames -/

/-- What the protocol takes from other crates: JSON documents as the bytes of a frame, and
URLs. -/
structure Wire (Frame : Type) where
  write : Value → Frame
  /-- The document in a frame, if that is what it holds. -/
  read : Frame → Option Value
  length : Frame → Nat
  parseUrl : String → Option Core.Url

variable {Frame : Type} (wire : Wire Frame)

def encodeFrame (document : Value) : Except DaemonErrorCode Frame :=
  let encoded := wire.write document
  if maxFrameBytes < wire.length encoded then .error .frameTooLarge else .ok encoded

def decodeRequestFrame (frame : Frame) : Except DaemonErrorCode RequestEnvelope := do
  refuseIf (decide (maxFrameBytes < wire.length frame)) .frameTooLarge
  let request ← needed ((wire.read frame).bind requestFormat.read) .invalidFrame
  validateRequest wire.parseUrl request
  return request

/-- The operation id inside a frame that could not be decoded. -/
def operationIdOfRejectedRequest (frame : Frame) : UInt64 :=
  ((wire.read frame).bind readEnvelopeId).getD 0

def decodeResponseFrame (frame : Frame) : Except DaemonErrorCode ResponseEnvelope := do
  refuseIf (decide (maxFrameBytes < wire.length frame)) .frameTooLarge
  let response ← needed ((wire.read frame).bind responseFormat.read) .invalidFrame
  refuseIf (response.version != protocolVersion) .unsupportedVersion
  return response

variable {wire}

theorem encodeFrame_eq_ok {document : Value} {frame : Frame}
    (encoded : encodeFrame wire document = .ok frame) : frame = wire.write document := by
  rw [encodeFrame] at encoded
  by_cases large : maxFrameBytes < wire.length (wire.write document)
  · rw [if_pos large] at encoded
    cases encoded
  · rw [if_neg large] at encoded
    cases encoded
    rfl

/-- What is decoded from a frame that reads back is what was encoded. -/
theorem decodeRequestFrame_write {request decoded : RequestEnvelope}
    (readsBack : wire.read (wire.write (requestFormat.write request)) =
      some (requestFormat.write request))
    (accepted : decodeRequestFrame wire (wire.write (requestFormat.write request)) =
      .ok decoded) : decoded = request := by
  rw [decodeRequestFrame] at accepted
  rcases bind_eq_ok.1 accepted with ⟨_, _, accepted⟩
  rcases bind_eq_ok.1 accepted with ⟨found, read, accepted⟩
  rcases bind_eq_ok.1 accepted with ⟨_, _, returned⟩
  cases returned
  rw [needed_eq_ok, readsBack, Option.bind_some, requestFormat.readsBack] at read
  exact (Option.some.inj read).symm

theorem decodeResponseFrame_write {response decoded : ResponseEnvelope}
    (readsBack : wire.read (wire.write (responseFormat.write response)) =
      some (responseFormat.write response))
    (accepted : decodeResponseFrame wire (wire.write (responseFormat.write response)) =
      .ok decoded) : decoded = response := by
  rw [decodeResponseFrame] at accepted
  rcases bind_eq_ok.1 accepted with ⟨_, _, accepted⟩
  rcases bind_eq_ok.1 accepted with ⟨found, read, accepted⟩
  rcases bind_eq_ok.1 accepted with ⟨_, _, returned⟩
  cases returned
  rw [needed_eq_ok, readsBack, Option.bind_some, responseFormat.readsBack] at read
  exact (Option.some.inj read).symm

/-- A document names an operation: it is an object that gives the id once, as a number of
64 bits. -/
def NamesOperation (document : Value) (operationId : UInt64) : Prop :=
  ∃ fields, document = .object fields ∧
    ("operation_id", .number (.int (.ofNat operationId.toNat))) ∈ fields ∧
    (fields.map Prod.fst).count "operation_id" = 1

/-- Whatever else is wrong with a frame, the id that it names is found. -/
theorem operationIdOfRejectedRequest_eq {frame : Frame} {document : Value}
    {operationId : UInt64} (read : wire.read frame = some document)
    (names : NamesOperation document operationId) :
    operationIdOfRejectedRequest wire frame = operationId := by
  rcases names with ⟨fields, rfl, member, once⟩
  have found := field_of_once member once
  have back := Format.u64.readsBack operationId
  rw [operationIdOfRejectedRequest, read, Option.bind_some, readEnvelopeId, record,
    List.mapM_cons, found]
  exact congrArg (Option.getD · 0) back

end Varmlen.Daemon.Protocol
