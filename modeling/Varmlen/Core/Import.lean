import Varmlen.Core.Outbound
import Varmlen.Core.ShareLink

/-!
# Subscriptions

Locations from the body of a subscription: a list of share links, plain or in base64,
or JSON with outbounds, full profiles or links (`core/src/subscription.rs`).
-/

namespace Varmlen.Core

open Foundation.Json Foundation.Text

/-! ## Fields of JSON outbounds -/

/-- A string field that is not empty. -/
def jsonStr (value : Value) (key : String) : Option String :=
  nonEmpty (value.getString key)

/-- The first of some string fields that is not blank, without white space around it. -/
def jsonStrAny (value : Value) (keys : List String) : Option String :=
  keys.findSome? fun key => nonEmpty ((value.getString key).map trim)

def jsonPort : Option Value → Option Nat
  | some (.number number) => (Value.number number).asU64.filter (· < 2 ^ 16)
  | some (.string text) => parseUnsigned (2 ^ 16) text
  | _ => none

/-- The endpoint of a WireGuard peer. -/
def endpointHostPort (urls : UrlParser) (endpoint : String) : Option (String × Nat) := do
  let url ← urls.parse ("tcp://" ++ endpoint)
  let host ← url.host
  let port ← url.port
  some (host, port)

/-- The settings themselves when they name an address, else their first entry. -/
def directOrFirst (settings : Value) (arrayKey : String) : Option Value :=
  if (settings.get "address").isSome then some settings
  else ((settings.get arrayKey).bind Value.asArray).bind List.head?

/-- The first entry of an array field. -/
def firstUser (value : Value) : Option Value :=
  ((value.get "users").bind Value.asArray).bind List.head?

/-- The transport of a `network`. -/
def normalizeNetwork (network : String) : String :=
  if network = "raw" ∨ network = "tcp" then "tcp"
  else if network = "splithttp" ∨ network = "xhttp" then "xhttp"
  else if network = "h2" then "http"
  else network

/-! ## Stream settings -/

def VlessServer.insertParam (server : VlessServer) (key : String) (value : Option String) :
    VlessServer :=
  { server with rawParams := insertSomeParam server.rawParams key value }

def applyReality (server : VlessServer) (stream : Value) : VlessServer :=
  match stream.get "realitySettings" with
  | none => server
  | some reality =>
      { server with
        sni := jsonStr reality "serverName"
        publicKey := jsonStr reality "publicKey"
        shortId := jsonStr reality "shortId"
        fingerprint := jsonStr reality "fingerprint" }.insertParam "spx"
          (jsonStr reality "spiderX")

/-- The `alpn` list as one text; nothing when it names no protocol. -/
def alpnParam (tls : Value) : Option String :=
  match (tls.get "alpn").bind Value.asArray with
  | none => none
  | some items =>
      match items.filterMap Value.asString with
      | [] => none
      | protocols => some (String.intercalate "," protocols)

def applyTls (server : VlessServer) (stream : Value) : VlessServer :=
  match stream.get "tlsSettings" with
  | none => server
  | some tls =>
      let insecure := ((tls.get "allowInsecure").bind Value.asBool).getD false
      ({ server with
        sni := server.sni.or (jsonStr tls "serverName")
        fingerprint := server.fingerprint.or (jsonStr tls "fingerprint") }.insertParam
          "allowInsecure" (if insecure then some "1" else none)).insertParam
          "alpn" (alpnParam tls)

/-- The block of the transport that the server has. -/
def applyTransport (server : VlessServer) (stream : Value) : VlessServer :=
  if server.transport = "ws" then
    match stream.get "wsSettings" with
    | none => server
    | some ws =>
        { server with path := jsonStr ws "path" }.insertParam "host"
          ((ws.get "headers").bind (·.getString "Host"))
  else if server.transport = "xhttp" then
    match (stream.get "xhttpSettings").or (stream.get "splithttpSettings") with
    | none => server
    | some xhttp =>
        { server with
          path := jsonStr xhttp "path"
          mode := jsonStr xhttp "mode" }.insertParam "host" (jsonStr xhttp "host")
  else if server.transport = "httpupgrade" then
    match stream.get "httpupgradeSettings" with
    | none => server
    | some upgrade =>
        { server with path := jsonStr upgrade "path" }.insertParam "host"
          (jsonStr upgrade "host")
  else if server.transport = "grpc" then
    match stream.get "grpcSettings" with
    | none => server
    | some grpc =>
        let multi := ((grpc.get "multiMode").bind Value.asBool).getD false
        ({ server with
          mode := if multi then some "multi" else server.mode }.insertParam "serviceName"
            (jsonStr grpc "serviceName")).insertParam "authority" (jsonStr grpc "authority")
  else server

def applyStream (server : VlessServer) (stream : Option Value) : VlessServer :=
  match stream with
  | none => server
  | some stream =>
      let server : VlessServer :=
        { server with
          transport := ((stream.getString "network").map normalizeNetwork).getD
            server.transport
          security := (stream.getString "security").getD "none" }
      applyTransport (applyTls (applyReality server stream) stream) stream

/-! ## Outbounds -/

/-- The tag of an outbound as a label, unless it says nothing. -/
def outboundLabel (tag host : String) (port : Nat) : String :=
  if tag ≠ "" ∧ tag ∉ ["proxy", "direct", "block", "dns-out"] then tag
  else endpointLabel host port

/-- A server at the endpoint that a JSON object names. -/
def jsonEndpoint (protocol tag : String) (endpoint : Value) : Option VlessServer := do
  let host ← jsonStr endpoint "address"
  let port ← jsonPort (endpoint.get "port")
  some (.base protocol host port (outboundLabel tag host port))

/-- A VLESS or VMess outbound. -/
def parseVnext (protocol tag : String) (settings : Value) : Option VlessServer := do
  let endpoint ← directOrFirst settings "vnext"
  let server ← jsonEndpoint protocol tag endpoint
  let user := (firstUser endpoint).getD endpoint
  let uuid ← jsonStr user "id"
  let server : VlessServer := { server with uuid, flow := jsonStr user "flow" }
  if protocol = "vmess" then
    some ((server.insertParam "scy" (jsonStr user "security")).insertParam "aid"
      (((user.get "alterId").bind Value.asU64).map toString))
  else some server

def parseTrojanOutbound (tag : String) (settings : Value) : Option VlessServer := do
  let entry ← directOrFirst settings "servers"
  let server ← jsonEndpoint "trojan" tag entry
  let password ← jsonStr entry "password"
  some { server with
    uuid := password
    password := some password
    flow := jsonStr entry "flow" }

def parseShadowsocksOutbound (tag : String) (settings : Value) : Option VlessServer := do
  let entry ← directOrFirst settings "servers"
  let server ← jsonEndpoint "shadowsocks" tag entry
  some { server with
    method := jsonStr entry "method"
    password := jsonStr entry "password" }

def parseHysteriaOutbound (tag : String) (settings : Value) (stream : Option Value) :
    Option VlessServer := do
  let server ← jsonEndpoint "hysteria" tag settings
  let auth := (stream.bind (·.get "hysteriaSettings")).bind (jsonStr · "auth")
  some { server with uuid := (auth.or (jsonStr settings "auth")).getD "" }

def parseWireguardOutbound (urls : UrlParser) (tag : String) (settings : Value) :
    Option VlessServer := do
  let peers ← (settings.get "peers").bind Value.asArray
  let peer ← peers.head?
  let endpoint ← jsonStr peer "endpoint"
  let (host, port) ← endpointHostPort urls endpoint
  some { VlessServer.base "wireguard" host port (outboundLabel tag host port) with
    uuid := (jsonStr settings "secretKey").getD ""
    transport := "wireguard" }

/-- An HTTP or SOCKS outbound. -/
def parseSimpleOutbound (protocol tag : String) (settings : Value) : Option VlessServer := do
  let entry ← directOrFirst settings "servers"
  let server ← jsonEndpoint protocol tag entry
  let user := (firstUser entry).getD entry
  some { server with
    uuid := (jsonStrAny user ["user", "username"]).getD ""
    password := jsonStrAny user ["pass", "password"] }

/-- The location of an outbound, before its stream settings. -/
def parseProtocol (urls : UrlParser) (protocol tag : String) (settings : Value)
    (stream : Option Value) : Option VlessServer :=
  if protocol = "vless" ∨ protocol = "vmess" then parseVnext protocol tag settings
  else if protocol = "trojan" then parseTrojanOutbound tag settings
  else if protocol = "shadowsocks" then parseShadowsocksOutbound tag settings
  else if protocol = "hysteria" then parseHysteriaOutbound tag settings stream
  else if protocol = "wireguard" then parseWireguardOutbound urls tag settings
  else if protocol = "http" ∨ protocol = "socks" then
    parseSimpleOutbound protocol tag settings
  else none

def parseOutbound (urls : UrlParser) (outbound : Value) : Option VlessServer := do
  let protocol ← outbound.getString "protocol"
  let settings ← outbound.get "settings"
  let stream := outbound.get "streamSettings"
  let tag := (outbound.getString "tag").getD ""
  let server ← parseProtocol urls protocol tag settings stream
  let server := applyStream server stream
  if isBalancerSentinel server.host then none else some server

/-! ## JSON bodies -/

/-- An outbound with a proxy protocol, as it is written. -/
def hasProxyProtocol (outbound : Value) : Bool :=
  (outbound.getString "protocol").any isProxyProtocol

/-- The name and the source of a location. -/
def named (server : VlessServer) (source : Value) : VlessServer :=
  { server with
    label := (jsonStrAny source ["remarks", "name", "ps", "title"]).getD server.label
    sourceJson := some source.toText }

/-- The location of a full profile with the given proxies. -/
def profileServer (urls : UrlParser) (profile source : Value) (proxies : List Value) :
    Option VlessServer :=
  (proxies.findSome? (parseOutbound urls)).map fun server =>
    { named server source with
      rawOutbound := proxies.head?
      rawProfile := some profile }

/-- The location of a lone outbound. -/
def outboundServer (urls : UrlParser) (outbound source : Value) : Option VlessServer :=
  (parseOutbound urls outbound).map fun server =>
    { named server source with rawOutbound := some outbound }

def wrapperKeys : List String := ["servers", "links", "proxies", "configs", "list"]

/-- The locations in a JSON value, down to the given number of levels; `source` is the
object that a location found here is shown with. -/
def collectJsonServers (lib : Libraries) : (levels : Nat) → Value → (source : Option Value) →
    List VlessServer
  | 0, _, _ => []
  | levels + 1, .array items, source =>
      items.flatMap fun item =>
        collectJsonServers lib levels item
          (source.or (if item.isObject then some item else none))
  | _ + 1, .string text, _ =>
      if isSupportedUri (trim text) then
        (parseProxyUri lib (trim text)).toOption.toList
      else []
  | levels + 1, .object fields, source =>
      let value := Value.object fields
      let proxies := (value.getItems "outbounds").filter hasProxyProtocol
      if !proxies.isEmpty then
        (profileServer lib.urls value (source.getD value) proxies).toList
      else if hasProxyProtocol value then
        (outboundServer lib.urls value (source.getD value)).toList
      else
        (match value.get "outbounds" with
          | some child => collectJsonServers lib levels child (some (source.getD value))
          | none => []) ++
        wrapperKeys.flatMap fun key =>
          match value.get key with
          | some child => collectJsonServers lib levels child none
          | none => []
  | _ + 1, _, _ => []

/-- The values that a collection looks at stand at most six levels deep. -/
def collectLevels : Nat := 7

/-- The name and the locations of a JSON body.  A lone location is called after the
body. -/
def parseJsonSubscription (lib : Libraries) (body : String) :
    Option String × List VlessServer :=
  match lib.readJson body with
  | .error _ => (none, [])
  | .ok value =>
      let name := jsonStrAny value ["remarks", "name", "ps", "title", "Profile-Title"]
      match collectJsonServers lib collectLevels value none, name with
      | [server], some name => (some name, [{ server with label := name }])
      | servers, name => (name, servers)

/-! ## Bodies -/

def decodeBody (lib : Libraries) (body : String) : String :=
  let compact := withoutWhitespace body
  if supportedSchemes.any (contains compact) then body
  else (decodeAny lib compact).getD body

/-- The location of a line. -/
def parseLine (lib : Libraries) (line : String) : Option VlessServer :=
  let line := trim line
  if line == "" || startsWith line "#" || !isSupportedUri line then none
  else (parseProxyUri lib line).toOption

def byteOrderMark : Char := '\ufeff'

def parseSubscription (lib : Libraries) (body : String) : List VlessServer :=
  let trimmed := trimStart (trimStartMatches byteOrderMark body)
  if startsWith trimmed "\x7b" || startsWith trimmed "[" then
    (parseJsonSubscription lib trimmed).2
  else (lines (decodeBody lib body)).filterMap (parseLine lib)

/-- The text of a body that is looked at first: without marks and white space before it. -/
def bodyText (body : String) : String := trimStart (trimStartMatches byteOrderMark body)

/-- The text is looked at as JSON. -/
def opensJson (text : String) : Bool := startsWith text "\x7b" || startsWith text "["

section Opened

variable {body : String} {first : Char} {tail : List Char}

theorem opensJson_of_head (opened : body.toList = first :: tail)
    (json : first = '\x7b' ∨ first = '[') : opensJson body = true := by
  rw [opensJson, startsWith, startsWith, opened]
  rcases json with rfl | rfl
  · rfl
  · rfl

theorem bodyText_of_head (opened : body.toList = first :: tail)
    (json : first = '\x7b' ∨ first = '[') : bodyText body = body := by
  have plain : ¬(first == byteOrderMark) = true ∧ ¬isWhitespace first = true := by
    rcases json with rfl | rfl
    · decide
    · decide
  have unmarked : trimStartMatches byteOrderMark body = body := by
    have kept : (first :: tail).dropWhile (· == byteOrderMark) = first :: tail :=
      List.dropWhile_cons_of_neg plain.1
    rw [trimStartMatches, opened, kept, ← opened, String.ofList_toList]
  rw [bodyText, unmarked, trimStart, opened, List.dropWhile_cons_of_neg plain.2, ← opened,
    String.ofList_toList]

end Opened

theorem parseSubscription_eq (lib : Libraries) (body : String) :
    parseSubscription lib body =
      if opensJson (bodyText body) then (parseJsonSubscription lib (bodyText body)).2
      else (lines (decodeBody lib body)).filterMap (parseLine lib) := rfl

/-- A body that opens an object or an array is read as JSON. -/
theorem parseSubscription_json (lib : Libraries) {body : String} {first : Char}
    {tail : List Char} (opened : body.toList = first :: tail)
    (json : first = '\x7b' ∨ first = '[') :
    parseSubscription lib body = (parseJsonSubscription lib body).2 := by
  rw [parseSubscription_eq, bodyText_of_head opened json, opensJson_of_head opened json]
  rfl

end Varmlen.Core
