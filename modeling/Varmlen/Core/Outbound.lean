import Varmlen.Core.Server

/-!
# Proxy outbounds

The Xray outbounds of a location: built from the fields of a share link, or taken
over from the provider's JSON after it has been sanitized
(`core/src/xray.rs`).
-/

namespace Varmlen.Core

open Foundation.Json Foundation.Text

def proxyProtocols : List String :=
  ["http", "socks", "shadowsocks", "vmess", "vless", "trojan", "hysteria", "wireguard"]

def reservedOutboundTags : List String := ["direct", "dns-out", "block"]

def xrayDialMark : Nat := 0x2024

def isProxyProtocol (protocol : String) : Bool := proxyProtocols.contains protocol

/-! ## JSON outbounds -/

/-- A key that makes Xray read or write a local file. -/
def isFileKey (key : String) : Bool :=
  let key := toAsciiLowercase key
  endsWith key "file" || endsWith key "filepath" || key == "masterkeylog"

mutual

def containsForbiddenProviderFileReference : Value → Bool
  | .object fields => fieldsContainForbidden fields
  | .array items => itemsContainForbidden items
  | _ => false

def fieldsContainForbidden : List (String × Value) → Bool
  | [] => false
  | (key, value) :: rest =>
      isFileKey key || containsForbiddenProviderFileReference value ||
        fieldsContainForbidden rest

def itemsContainForbidden : List Value → Bool
  | [] => false
  | value :: rest =>
      containsForbiddenProviderFileReference value || itemsContainForbidden rest

end

/-- The object in a field, or an empty one where there is none. -/
def objectField (object : Object) (key : String) : Object :=
  ((object.get key).bind Value.asObject).getD []

/-- Make a provider's outbound safe to use: no local files, no foreign source
address, and Xray's own dials marked.  A lone outbound also loses its chains and
is renamed. -/
def sanitizeRawOutbound (outbound : Value) (preserveTagAndChains : Bool) :
    Except String Object :=
  if containsForbiddenProviderFileReference outbound then
    .error "JSON proxy outbound may not reference local files"
  else
    match outbound.asObject with
    | none => .error "JSON proxy outbound must be an object"
    | some object =>
        match (object.get "protocol").bind Value.asString with
        | none => .error "JSON proxy outbound has no protocol"
        | some protocol =>
            let protocol := toAsciiLowercase protocol
            if !isProxyProtocol protocol then
              .error ("unsupported proxy protocol in JSON: " ++ protocol)
            else
              let object := object.remove "sendThrough"
              let object :=
                if preserveTagAndChains then object
                else (object.remove "proxySettings").insert "tag" (.string "proxy")
              if protocol == "wireguard" then .ok (object.remove "streamSettings")
              else
                let stream := objectField object "streamSettings"
                let sockopt := objectField stream "sockopt"
                let sockopt :=
                  if preserveTagAndChains then sockopt else sockopt.remove "dialerProxy"
                let sockopt := sockopt.insert "mark" (.nat xrayDialMark)
                .ok (object.insert "streamSettings"
                  (.object (stream.insert "sockopt" (.object sockopt))))

/-- The tag an outbound without one is given, by its place in the profile. -/
def defaultTag (index : Nat) : String :=
  if index = 0 then "proxy" else "proxy-" ++ toString (index + 1)

/-- The tag of a profile's outbound. -/
def outboundTagOr (object : Object) (index : Nat) : String :=
  match (object.get "tag").bind Value.asString with
  | some tag => if tag = "" then defaultTag index else tag
  | none => defaultTag index

/-- The loop over a profile's outbounds, from `index` on, with the tags taken so
far. -/
def collectProxies : (index : Nat) → (tags : List String) → List Value →
    Except String (List Value)
  | _, _, [] => .ok []
  | index, tags, outbound :: rest =>
      let protocol := toAsciiLowercase ((outbound.getString "protocol").getD "")
      if !isProxyProtocol protocol then collectProxies (index + 1) tags rest
      else
        match sanitizeRawOutbound outbound true with
        | .error message => .error message
        | .ok object =>
            let tag := outboundTagOr object index
            if reservedOutboundTags.contains tag || tags.contains tag then
              .error ("unsafe or duplicate proxy outbound tag: " ++ tag)
            else
              match collectProxies (index + 1) (tag :: tags) rest with
              | .error message => .error message
              | .ok proxies => .ok (.object (object.insert "tag" (.string tag)) :: proxies)

/-- The proxy outbounds of a provider's profile. -/
def providerProxyOutbounds (profile : Value) : Except String (List Value) :=
  match (profile.get "outbounds").bind Value.asArray with
  | none => .error "Xray profile has no outbounds array"
  | some outbounds =>
      match collectProxies 0 [] outbounds with
      | .error message => .error message
      | .ok [] => .error "Xray profile has no supported proxy outbounds"
      | .ok proxies => .ok proxies

/-! ## Share links -/

/-- Xray's name of a transport.  Unknown transports are taken for `tcp`. -/
def xrayNetwork (transport : String) : String :=
  let transport := toAsciiLowercase transport
  if transport = "xhttp" ∨ transport = "splithttp" then "xhttp"
  else if transport = "ws" ∨ transport = "websocket" then "ws"
  else if transport = "grpc" ∨ transport = "gun" then "grpc"
  else if transport = "httpupgrade" then "httpupgrade"
  else if transport = "http" ∨ transport = "h2" ∨ transport = "h3" then "http"
  else if transport = "kcp" ∨ transport = "mkcp" then "kcp"
  else if transport = "hysteria" then "hysteria"
  else "tcp"

/-- A comma-separated list parameter. -/
def splitListParam (raw : String) : List String :=
  ((split ',' raw).map trim).filter fun part => part != ""

/-- The value of an option unless it is empty. -/
def nonEmpty (value : Option String) : Option String :=
  value.filter fun text => text != ""

/-- The security layer of the stream settings. -/
def securitySettings (server : VlessServer) (stream : Object) : Object :=
  let serverName := (nonEmpty server.sni).getD server.host
  let fingerprint := (nonEmpty server.fingerprint).getD "chrome"
  if server.security = "reality" then
    (stream.insert "security" (.string "reality")).insert "realitySettings"
      (.ofFields
        [("show", .bool false),
          ("serverName", .string serverName),
          ("fingerprint", .string fingerprint),
          ("publicKey", .string (server.publicKey.getD "")),
          ("shortId", .string (server.shortId.getD "")),
          ("spiderX", .string ((server.param "spx").getD "/"))])
  else if server.security = "tls" then
    let insecure := server.param "allowInsecure" = some "1" ∨
      server.param "allowInsecure" = some "true"
    let tls := Object.ofFields
      [("serverName", .string serverName),
        ("fingerprint", .string fingerprint),
        ("allowInsecure", .bool (decide insecure))]
    let tls :=
      match nonEmpty (server.param "alpn") with
      | some alpn => tls.insert "alpn" (.strings (splitListParam alpn))
      | none => tls
    (stream.insert "security" (.string "tls")).insert "tlsSettings" (.object tls)
  else stream.insert "security" (.string "none")

/-- The transport's own block of the stream settings. -/
def transportSettings (parseJson : JsonParser) (server : VlessServer) (network : String)
    (stream : Object) : Object :=
  let host := nonEmpty (server.param "host")
  let path := server.path.getD "/"
  let withField (object : Object) (key : String) (value : Option Value) : Object :=
    match value with
    | some value => object.insert key value
    | none => object
  if network = "xhttp" then
    let extra := (((server.param "extra").bind parseJson).bind Value.asObject).getD []
    let extra :=
      match server.path with
      | some explicit => extra.insert "path" (.string explicit)
      | none => extra.orInsert "path" (.string path)
    let extra :=
      match server.mode with
      | some explicit => extra.insert "mode" (.string explicit)
      | none => extra.orInsert "mode" (.string "auto")
    stream.insert "xhttpSettings" (.object (withField extra "host" (host.map .string)))
  else if network = "ws" then
    stream.insert "wsSettings" (.object
      (withField (Object.ofFields [("path", .string path)]) "headers"
        (host.map fun host => .ofFields [("Host", .string host)])))
  else if network = "httpupgrade" then
    stream.insert "httpupgradeSettings" (.object
      (withField (Object.ofFields [("path", .string path)]) "host" (host.map .string)))
  else if network = "grpc" then
    let multi := server.mode = some "multi" ∨ server.mode = some "gun"
    stream.insert "grpcSettings" (.object
      (withField
        (Object.ofFields
          [("serviceName", .string ((server.param "serviceName").getD "")),
            ("multiMode", .bool (decide multi))])
        "authority" ((nonEmpty (server.param "authority")).map .string)))
  else if network = "http" then
    stream.insert "httpSettings" (.object
      (withField (Object.ofFields [("path", .string path)]) "host"
        (host.map fun host => .strings (splitListParam host))))
  else if network = "kcp" then
    stream.insert "kcpSettings" (.object
      (withField
        (Object.ofFields
          [("header",
            .ofFields [("type", .string ((server.param "headerType").getD "none"))])])
        "seed" ((nonEmpty (server.param "seed")).map .string)))
  else if network = "hysteria" then
    stream.insert "hysteriaSettings"
      (.ofFields [("version", .nat 2), ("auth", .string server.uuid)])
  else if network = "tcp" ∧ server.param "headerType" = some "http" then
    let request := withField [] "headers"
      (host.map fun host => .ofFields [("Host", .strings (splitListParam host))])
    let request := withField request "path"
      (server.path.map fun _ => .strings (splitListParam path))
    stream.insert "tcpSettings"
      (.ofFields [("header",
        .ofFields [("type", .string "http"), ("request", .object request)])])
  else stream

def buildStreamSettings (parseJson : JsonParser) (server : VlessServer) : Value :=
  let network := xrayNetwork server.transport
  let stream := securitySettings server (Object.ofFields [("network", .string network)])
  let stream := transportSettings parseJson server network stream
  .object (stream.insert "sockopt" (.ofFields [("mark", .nat xrayDialMark)]))

def buildWireguardOutbound (server : VlessServer) : Value :=
  let addresses :=
    match (server.param "localAddress").map splitListParam with
    | some (address :: rest) => address :: rest
    | _ => ["10.0.0.1/32"]
  let peer := Object.ofFields
    [("endpoint", .string (server.host ++ ":" ++ toString server.port)),
      ("publicKey", .string (server.publicKey.getD ""))]
  let peer :=
    match nonEmpty (server.param "preSharedKey") with
    | some key => peer.insert "preSharedKey" (.string key)
    | none => peer
  let settings := Object.ofFields
    [("secretKey", .string server.uuid),
      ("address", .strings addresses),
      ("peers", .array [.object peer]),
      ("noKernelTun", .bool true)]
  let settings :=
    match (server.param "mtu").bind (parseUnsigned (2 ^ 32)) with
    | some mtu => settings.insert "mtu" (.nat mtu)
    | none => settings
  let reserved := ((server.param "reserved").map fun raw =>
    (split ',' raw).filterMap fun part => parseUnsigned 256 (trim part)).getD []
  let settings :=
    if reserved.isEmpty then settings
    else settings.insert "reserved" (.array (reserved.map .nat))
  let settings := settings.insert "domainStrategy"
    (.string ((server.param "domainStrategy").getD "ForceIP"))
  .ofFields
    [("tag", .string "proxy"), ("protocol", .string "wireguard"),
      ("settings", .object settings)]

def buildSimpleProxyOutbound (server : VlessServer) (stream : Value) : Value :=
  let settings := Object.ofFields
    [("address", .string server.host), ("port", .nat server.port)]
  let settings :=
    if server.uuid = "" then settings
    else settings.insert "user" (.string server.uuid)
  let settings :=
    match nonEmpty server.password with
    | some password => settings.insert "pass" (.string password)
    | none => settings
  .ofFields
    [("tag", .string "proxy"), ("protocol", .string server.protocol),
      ("settings", .object settings), ("streamSettings", stream)]

/-- The settings of a share link's outbound, by protocol; `vless` is the default. -/
def protocolSettings (server : VlessServer) : String × Value :=
  let user (fields : List (String × Value)) : Value :=
    .ofFields [("vnext", .array [.ofFields
      [("address", .string server.host), ("port", .nat server.port),
        ("users", .array [.ofFields (("id", .string server.uuid) :: fields)])]])]
  let endpoint (fields : List (String × Value)) : Value :=
    .ofFields [("servers", .array [.ofFields
      ([("address", .string server.host), ("port", .nat server.port)] ++ fields)])]
  if server.protocol = "vmess" then
    ("vmess", user
      [("security", .string ((server.param "scy").getD "auto")),
        ("alterId", .nat (((server.param "aid").bind (parseUnsigned (2 ^ 32))).getD 0))])
  else if server.protocol = "trojan" then
    ("trojan", endpoint
      [("password", .string (server.password.getD server.uuid)),
        ("flow", .string (server.flow.getD ""))])
  else if server.protocol = "shadowsocks" then
    ("shadowsocks", endpoint
      [("method", .string (server.method.getD "")),
        ("password", .string (server.password.getD "")),
        ("uot", .bool true)])
  else if server.protocol = "hysteria" then
    ("hysteria", .ofFields
      [("version", .nat 2), ("address", .string server.host), ("port", .nat server.port)])
  else
    ("vless", user
      [("encryption", .string "none"), ("flow", .string (server.flow.getD ""))])

/-- The `proxy` outbound of a location without a composite profile. -/
def buildProxyOutbound (parseJson : JsonParser) (server : VlessServer) :
    Except Fault Value :=
  match server.rawOutbound with
  | some outbound =>
      match sanitizeRawOutbound outbound false with
      | .error _ => .error (.panic "raw outbound was validated before config generation")
      | .ok object => .ok (.object object)
  | none =>
      if server.protocol = "wireguard" then .ok (buildWireguardOutbound server)
      else
        let stream := buildStreamSettings parseJson server
        if server.protocol = "http" ∨ server.protocol = "socks" then
          .ok (buildSimpleProxyOutbound server stream)
        else
          let (protocol, settings) := protocolSettings server
          .ok (.ofFields
            [("tag", .string "proxy"), ("protocol", .string protocol),
              ("settings", settings), ("streamSettings", stream)])

end Varmlen.Core
