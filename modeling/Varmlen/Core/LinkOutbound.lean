import Varmlen.Core.Outbound

/-!
# The outbound of a share link

What the fields of an outbound are that is built from a link: its protocol, its settings
and the parts of its stream settings.
-/

namespace Varmlen.Core

open Foundation.Json Foundation.Text

variable {parseJson : JsonParser} {server : VlessServer}

/-- The blocks that transports have of their own. -/
def transportBlocks : List String :=
  ["xhttpSettings", "wsSettings", "httpupgradeSettings", "grpcSettings", "httpSettings",
    "kcpSettings", "hysteriaSettings", "tcpSettings"]

/-- A transport sets nothing but its own block. -/
theorem get_transportSettings {network key : String} {stream : Object}
    (apart : key ∉ transportBlocks) :
    (transportSettings parseJson server network stream).get key = stream.get key := by
  have kept (block : String) (value : Value) (listed : block ∈ transportBlocks) :
      (stream.insert block value).get key = stream.get key :=
    Object.get_insert_of_ne _ _ fun same => apart (same ▸ listed)
  unfold transportSettings
  dsimp only
  repeat' split
  all_goals first
    | exact kept _ _ (by decide)
    | rfl

/-- The security layer that is written for a link. -/
def securityLayer (security : String) : String :=
  if security = "reality" then "reality" else if security = "tls" then "tls" else "none"

theorem get_securitySettings_security (stream : Object) :
    (securitySettings server stream).get "security" =
      some (.string (securityLayer server.security)) := by
  rw [securitySettings, securityLayer]
  split
  next => simp [Object.get_insert]
  next =>
    split
    next => simp [Object.get_insert]
    next => simp

theorem get_securitySettings_network (stream : Object) :
    (securitySettings server stream).get "network" = stream.get "network" := by
  rw [securitySettings]
  split
  next => simp [Object.get_insert]
  next =>
    split
    next => simp [Object.get_insert]
    next => simp [Object.get_insert]

/-- The stream settings before the transport's block. -/
theorem get_buildStreamSettings {key : String} (apart : key ∉ transportBlocks)
    (noMark : key ≠ "sockopt") :
    (buildStreamSettings parseJson server).get key =
      (securitySettings server
        (Object.ofFields [("network", .string (xrayNetwork server.transport))])).get key := by
  rw [buildStreamSettings, Value.get_object, Object.get_insert_of_ne _ _ (Ne.symm noMark),
    get_transportSettings apart]

theorem network_buildStreamSettings :
    (buildStreamSettings parseJson server).getString "network" =
      some (xrayNetwork server.transport) := by
  rw [Value.getString, get_buildStreamSettings (by decide) (by decide),
    get_securitySettings_network]
  rfl

theorem security_buildStreamSettings :
    (buildStreamSettings parseJson server).getString "security" =
      some (securityLayer server.security) := by
  rw [Value.getString, get_buildStreamSettings (by decide) (by decide),
    get_securitySettings_security]
  rfl

/-! ## Blocks of the stream settings -/

/-- The object with a field that may be left out. -/
def withField (object : Object) (key : String) (value : Option Value) : Object :=
  match value with
  | some value => object.insert key value
  | none => object

theorem get_withField (object : Object) (key wanted : String) (value : Option Value) :
    (withField object key value).get wanted =
      if wanted = key then value.or (object.get wanted) else object.get wanted := by
  cases value with
  | none => simp [withField]
  | some value => simp [withField, Object.get_insert, eq_comm]

/-- The name that the server's certificate is for. -/
def serverName (server : VlessServer) : String := (nonEmpty server.sni).getD server.host

def fingerprintName (server : VlessServer) : String :=
  (nonEmpty server.fingerprint).getD "chrome"

def realityBlock (server : VlessServer) : Value :=
  .ofFields
    [("show", .bool false),
      ("serverName", .string (serverName server)),
      ("fingerprint", .string (fingerprintName server)),
      ("publicKey", .string (server.publicKey.getD "")),
      ("shortId", .string (server.shortId.getD "")),
      ("spiderX", .string ((server.param "spx").getD "/"))]

def allowsInsecure (server : VlessServer) : Bool :=
  decide (server.param "allowInsecure" = some "1" ∨ server.param "allowInsecure" = some "true")

/-- The protocols that a link offers. -/
def alpnList (server : VlessServer) : Option (List String) :=
  (nonEmpty (server.param "alpn")).map splitListParam

def tlsBlock (server : VlessServer) : Value :=
  .object (withField
    (Object.ofFields
      [("serverName", .string (serverName server)),
        ("fingerprint", .string (fingerprintName server)),
        ("allowInsecure", .bool (allowsInsecure server))])
    "alpn" ((alpnList server).map .strings))

theorem securitySettings_reality (reality : server.security = "reality") (stream : Object) :
    securitySettings server stream =
      (stream.insert "security" (.string "reality")).insert "realitySettings"
        (realityBlock server) := by
  rw [securitySettings, if_pos reality]
  rfl

theorem securitySettings_tls (tls : server.security = "tls") (stream : Object) :
    securitySettings server stream =
      (stream.insert "security" (.string "tls")).insert "tlsSettings" (tlsBlock server) := by
  rw [securitySettings, if_neg (by simp [tls]), if_pos tls, tlsBlock, alpnList]
  cases nonEmpty (server.param "alpn") <;> rfl

theorem securitySettings_none (noReality : server.security ≠ "reality")
    (noTls : server.security ≠ "tls") (stream : Object) :
    securitySettings server stream = stream.insert "security" (.string "none") := by
  rw [securitySettings, if_neg noReality, if_neg noTls]

/-- The host of a request, unless the link leaves it to the server. -/
def hostHeader (server : VlessServer) : Option String := nonEmpty (server.param "host")

def wsBlock (server : VlessServer) : Value :=
  .object (withField (Object.ofFields [("path", .string (server.path.getD "/"))]) "headers"
    ((hostHeader server).map fun host => .ofFields [("Host", .string host)]))

def httpupgradeBlock (server : VlessServer) : Value :=
  .object (withField (Object.ofFields [("path", .string (server.path.getD "/"))]) "host"
    ((hostHeader server).map .string))

def isMultiMode (mode : Option String) : Bool :=
  decide (mode = some "multi" ∨ mode = some "gun")

def grpcBlock (server : VlessServer) : Value :=
  .object (withField
    (Object.ofFields
      [("serviceName", .string ((server.param "serviceName").getD "")),
        ("multiMode", .bool (isMultiMode server.mode))])
    "authority" ((nonEmpty (server.param "authority")).map .string))

/-- The block of `xhttp` when the link has no further settings for it. -/
def xhttpBlock (server : VlessServer) : Value :=
  .object (withField
    (Object.ofFields
      [("path", .string (server.path.getD "/")), ("mode", .string (server.mode.getD "auto"))])
    "host" ((hostHeader server).map .string))

section Transports

variable (stream : Object)

theorem transportSettings_ws :
    transportSettings parseJson server "ws" stream =
      stream.insert "wsSettings" (wsBlock server) := by
  rw [transportSettings, wsBlock, hostHeader]
  cases nonEmpty (server.param "host") <;> rfl

theorem transportSettings_httpupgrade :
    transportSettings parseJson server "httpupgrade" stream =
      stream.insert "httpupgradeSettings" (httpupgradeBlock server) := by
  rw [transportSettings, httpupgradeBlock, hostHeader]
  cases nonEmpty (server.param "host") <;> rfl

theorem transportSettings_grpc :
    transportSettings parseJson server "grpc" stream =
      stream.insert "grpcSettings" (grpcBlock server) := by
  rw [transportSettings, grpcBlock]
  cases nonEmpty (server.param "authority") <;> rfl

theorem transportSettings_xhttp (noExtra : server.param "extra" = none) :
    transportSettings parseJson server "xhttp" stream =
      stream.insert "xhttpSettings" (xhttpBlock server) := by
  have pathField (path : Value) :
      Object.insert [] "path" path = Object.ofFields [("path", path)] ∧
        Object.orInsert [] "path" path = Object.ofFields [("path", path)] := ⟨rfl, rfl⟩
  have modeField (path mode : Value) :
      (Object.ofFields [("path", path)]).insert "mode" mode =
          Object.ofFields [("path", path), ("mode", mode)] ∧
        (Object.ofFields [("path", path)]).orInsert "mode" mode =
          Object.ofFields [("path", path), ("mode", mode)] := ⟨rfl, rfl⟩
  rw [transportSettings, if_pos rfl, noExtra, xhttpBlock, hostHeader]
  dsimp only [Option.bind_none, Option.getD_none]
  cases server.path with
  | none =>
      dsimp only [Option.getD_none]
      rw [(pathField _).2]
      cases server.mode with
      | none =>
          dsimp only [Option.getD_none]
          rw [(modeField _ _).2]
          rfl
      | some mode =>
          dsimp only [Option.getD_some]
          rw [(modeField _ _).1]
          rfl
  | some path =>
      dsimp only [Option.getD_some]
      rw [(pathField _).1]
      cases server.mode with
      | none =>
          dsimp only [Option.getD_none]
          rw [(modeField _ _).2]
          rfl
      | some mode =>
          dsimp only [Option.getD_some]
          rw [(modeField _ _).1]
          rfl

theorem transportSettings_tcp (noHeader : server.param "headerType" ≠ some "http") :
    transportSettings parseJson server "tcp" stream = stream := by
  simp [transportSettings, noHeader]

end Transports

/-! ## The outbound -/

/-- The protocols that are written as the link has them; all others are taken for
`vless`. -/
def writtenProtocols : List String :=
  ["wireguard", "http", "socks", "vmess", "trojan", "shadowsocks", "hysteria"]

def linkProtocol (protocol : String) : String :=
  if protocol ∈ writtenProtocols then protocol else "vless"

theorem protocolSettings_protocol (noWireguard : server.protocol ≠ "wireguard")
    (noSimple : ¬(server.protocol = "http" ∨ server.protocol = "socks")) :
    (protocolSettings server).1 = linkProtocol server.protocol := by
  rw [not_or] at noSimple
  rw [protocolSettings, linkProtocol]
  by_cases vmess : server.protocol = "vmess"
  · simp [vmess, writtenProtocols]
  · by_cases trojan : server.protocol = "trojan"
    · simp [trojan, writtenProtocols]
    · by_cases shadowsocks : server.protocol = "shadowsocks"
      · simp [shadowsocks, writtenProtocols]
      · by_cases hysteria : server.protocol = "hysteria"
        · simp [hysteria, writtenProtocols]
        · simp [vmess, trojan, shadowsocks, hysteria, noWireguard, noSimple, writtenProtocols]

/-- Every link gives an outbound, with its protocol and its stream settings; WireGuard has
none. -/
theorem buildProxyOutbound_link (noOutbound : server.rawOutbound = none) :
    ∃ proxy, buildProxyOutbound parseJson server = .ok proxy ∧
      proxy.getString "protocol" = some (linkProtocol server.protocol) ∧
      proxy.get "streamSettings" =
        if server.protocol = "wireguard" then none
        else some (buildStreamSettings parseJson server) := by
  rw [buildProxyOutbound, noOutbound]
  dsimp only
  by_cases wireguard : server.protocol = "wireguard"
  · refine ⟨_, by rw [if_pos wireguard], ?_, ?_⟩
    · rw [wireguard]
      simp [buildWireguardOutbound, Value.getString, Value.ofFields, Object.ofFields,
        Object.get_insert, Value.asString, linkProtocol, writtenProtocols]
    · rw [if_pos wireguard]
      simp [buildWireguardOutbound, Value.ofFields, Object.ofFields, Object.get_insert,
        Object.get]
  · rw [if_neg wireguard, if_neg wireguard]
    by_cases simple : server.protocol = "http" ∨ server.protocol = "socks"
    · have kept : linkProtocol server.protocol = server.protocol := by
        rcases simple with same | same
        · rw [same]
          rfl
        · rw [same]
          rfl
      refine ⟨_, by rw [if_pos simple], ?_, ?_⟩
      · simp [buildSimpleProxyOutbound, Value.getString, Value.ofFields, Object.ofFields,
          Object.get_insert, Value.asString, kept]
      · simp [buildSimpleProxyOutbound, Value.ofFields, Object.ofFields]
    · refine ⟨_, by rw [if_neg simple], ?_, ?_⟩
      · rw [← protocolSettings_protocol wireguard simple]
        simp [Value.getString, Value.ofFields, Object.ofFields, Object.get_insert,
          Value.asString]
      · simp [Value.ofFields, Object.ofFields]

end Varmlen.Core
