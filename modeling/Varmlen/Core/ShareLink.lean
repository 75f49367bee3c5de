import Varmlen.Core.Server
import Varmlen.Foundation.JsonText

/-!
# Share links

The links that subscriptions list their locations by: `vless://`, `trojan://`,
`ss://` and `vmess://` (`core/src/subscription.rs`).
-/

namespace Varmlen.Core

open Foundation.Json Foundation.Text

inductive ParseError where
  | invalidUri (reason : String)
  | unsupportedScheme (scheme : String)
  | missingCredentials
  | missingHost
  | missingPort
  | balancerEntry
  deriving DecidableEq, Repr

/-- What an error says. -/
def ParseError.message : ParseError → String
  | .invalidUri reason => "invalid URI: " ++ reason
  | .unsupportedScheme scheme => "unsupported scheme '" ++ scheme ++ "'"
  | .missingCredentials => "missing credentials"
  | .missingHost => "missing host"
  | .missingPort => "missing port"
  | .balancerEntry => "auto-select / balancer entry — not a connectable server"

/-- The variants of base64, in the order in which they are tried. -/
inductive Base64Engine where
  | standard
  | urlSafe
  | standardNoPad
  | urlSafeNoPad
  deriving DecidableEq, Repr

def base64Engines : List Base64Engine :=
  [.standard, .urlSafe, .standardNoPad, .urlSafeNoPad]

/-- The packages that an import rests on. -/
structure Libraries where
  urls : UrlParser
  /-- Why a text is not a URL. -/
  urlError : String → String
  readJson : JsonReader
  /-- The text that is encoded in another one. -/
  decodeBase64 : Base64Engine → String → Option String
  percentDecode : String → String

/-- Read JSON without saying what is wrong. -/
def Libraries.parseJson (lib : Libraries) : JsonParser :=
  fun text => (lib.readJson text).toOption

/-! ## Parameters -/

/-- Set a parameter. -/
def insertParam (params : List (String × String)) (key value : String) :
    List (String × String) :=
  (key, value) :: params.filter fun param => param.1 != key

/-- The parameters of a query; a later pair replaces an earlier one with its key. -/
def collectParams (pairs : List (String × String)) : List (String × String) :=
  pairs.foldl (fun params pair => insertParam params pair.1 pair.2) []

/-- Set a parameter if there is a value for it. -/
def insertSomeParam (params : List (String × String)) (key : String)
    (value : Option String) : List (String × String) :=
  match value with
  | some value => insertParam params key value
  | none => params

/-! ## Links -/

/-- A host that stands for a choice of the provider's, not for a server. -/
def isBalancerSentinel (host : String) : Bool :=
  toAsciiLowercase (trim host) == "balancer.host"

def supportedSchemes : List String := ["vless://", "trojan://", "ss://", "vmess://"]

def isSupportedUri (line : String) : Bool :=
  supportedSchemes.any (startsWith (trim line))

/-- An endpoint as a label. -/
def endpointLabel (host : String) (port : Nat) : String := host ++ ":" ++ toString port

section Links

variable (lib : Libraries)

def labelFrom (fragment : Option String) (host : String) (port : Nat) : String :=
  match fragment with
  | some fragment =>
      if fragment != "" then lib.percentDecode fragment else endpointLabel host port
  | none => endpointLabel host port

/-- The first variant of base64 that gives a text. -/
def decodeAny (compact : String) : Option String :=
  base64Engines.findSome? fun engine => lib.decodeBase64 engine compact

def b64DecodeStr (text : String) : Option String :=
  decodeAny lib (withoutWhitespace text)

/-- The URL of a link with the given scheme. -/
def parseLinkUrl (scheme uri : String) : Except ParseError Url :=
  match lib.urls.parse (trim uri) with
  | none => .error (.invalidUri (lib.urlError (trim uri)))
  | some url =>
      if url.scheme ≠ scheme then .error (.unsupportedScheme url.scheme) else .ok url

/-- The endpoint of a URL. -/
def urlEndpoint (url : Url) : Except ParseError (String × Nat) :=
  match url.host with
  | none => .error .missingHost
  | some host =>
      match url.port with
      | none => .error .missingPort
      | some port => .ok (host, port)

/-- The further settings of an `xhttp` link are a JSON object. -/
def checkExtra (params : List (String × String)) : Except ParseError Unit :=
  if params.lookup "type" = some "xhttp" then
    match params.lookup "extra" with
    | none => .ok ()
    | some extra =>
        match lib.readJson extra with
        | .error error => .error (.invalidUri ("xhttp extra JSON: " ++ error))
        | .ok value =>
            if value.isObject then .ok ()
            else .error (.invalidUri "xhttp extra JSON must be an object")
  else .ok ()

def parseVless (uri : String) : Except ParseError VlessServer := do
  let url ← parseLinkUrl lib "vless" uri
  if url.username = "" then
    .error .missingCredentials
  else
    let (host, port) ← urlEndpoint url
    let params := collectParams url.queryPairs
    checkExtra lib params
    .ok { VlessServer.base "vless" host port (labelFrom lib url.fragment host port) with
      uuid := lib.percentDecode url.username
      transport := (params.lookup "type").getD "tcp"
      security := (params.lookup "security").getD "none"
      sni := params.lookup "sni"
      fingerprint := params.lookup "fp"
      publicKey := params.lookup "pbk"
      shortId := params.lookup "sid"
      flow := params.lookup "flow"
      path := params.lookup "path"
      mode := params.lookup "mode"
      packetEncoding := params.lookup "packetEncoding"
      rawParams := params }

def parseTrojan (uri : String) : Except ParseError VlessServer := do
  let url ← parseLinkUrl lib "trojan" uri
  let password := lib.percentDecode url.username
  if password = "" then
    .error .missingCredentials
  else
    let (host, port) ← urlEndpoint url
    let params := collectParams url.queryPairs
    .ok { VlessServer.base "trojan" host port (labelFrom lib url.fragment host port) with
      uuid := password
      password := some password
      transport := (params.lookup "type").getD "tcp"
      security := (params.lookup "security").getD "tls"
      sni := params.lookup "sni"
      fingerprint := params.lookup "fp"
      path := params.lookup "path"
      publicKey := params.lookup "pbk"
      shortId := params.lookup "sid"
      flow := params.lookup "flow"
      mode := params.lookup "mode"
      rawParams := params }

/-- The credentials and the endpoint of a Shadowsocks link: `userinfo@host:port`, or
all of it encoded. -/
def shadowsocksParts (main : String) : Except ParseError (String × String) :=
  match rsplitOnce '@' main with
  | some (user, hostPort) =>
      .ok ((b64DecodeStr lib user).getD (lib.percentDecode user), hostPort)
  | none =>
      match b64DecodeStr lib main with
      | none => .error (.invalidUri "ss base64")
      | some decoded =>
          match rsplitOnce '@' decoded with
          | none => .error .missingHost
          | some parts => .ok parts

/-- The port of a Shadowsocks link. -/
def shadowsocksPort (text : String) : Except ParseError Nat :=
  match parseUnsigned (2 ^ 16) text with
  | some port => .ok port
  | none => .error .missingPort

def parseShadowsocks (uri : String) : Except ParseError VlessServer := do
  let rest := (afterPrefix (trim uri) "ss://").getD ""
  let (main, fragment) :=
    match splitOnce '#' rest with
    | some (main, fragment) => (main, some fragment)
    | none => (rest, none)
  let (credentials, hostPort) ← shadowsocksParts lib (before main "?")
  match splitOnce ':' credentials with
  | none => .error .missingCredentials
  | some (method, password) =>
      match rsplitOnce ':' hostPort with
      | none => .error .missingPort
      | some (host, port) => do
          let port ← shadowsocksPort port
          let host := trimMatches ['[', ']'] host
          .ok { VlessServer.base "shadowsocks" host port (labelFrom lib fragment host port) with
            method := some method
            password := some password }

/-! ### VMess -/

/-- The port of a VMess link, a number or a text. -/
def vmessPort (value : Option Value) : Except ParseError Nat :=
  let port : Option Nat :=
    match value with
    | some (.string text) => parseUnsigned (2 ^ 16) text
    | some (.number number) => (Value.number number).asU64.filter (· < 2 ^ 16)
    | _ => none
  match port.filter (· ≠ 0) with
  | some port => .ok port
  | none => .error .missingPort

/-- A text that is not empty, or why there is none. -/
def nonEmptyField (value : Value) (key : String) (error : ParseError) :
    Except ParseError String :=
  let text := (value.getString key).getD ""
  if text = "" then .error error else .ok text

/-- The `aid` of a VMess link, a number or a text. -/
def vmessAid (value : Value) : Option String :=
  match value.get "aid" with
  | some (.number number) => some (Value.number number).toText
  | some (.string text) => if text != "" then some text else none
  | _ => none

def vmessSecurity (value : Value) : String :=
  match value.getString "tls" with
  | some "tls" => "tls"
  | some "reality" => "reality"
  | _ => "none"

/-- The `type` of a VMess link: a header for most transports, the mode of gRPC. -/
def vmessHeaderType (value : Value) : Option String :=
  (value.getString "type").filter fun text => text != "" && text != "none"

/-- What a VMess link says of its transport, under the names of other links. -/
def vmessParams (value : Value) : List (String × String) :=
  let given (key : String) : Option String :=
    (value.getString key).filter fun text => text != ""
  let params := insertSomeParam [] "host" (given "host")
  let params := insertSomeParam params "alpn" (given "alpn")
  let params := insertSomeParam params "scy" (given "scy")
  insertSomeParam params "aid" (vmessAid value)

/-- The location in the JSON of a VMess link. -/
def vmessServer (value : Value) : Except ParseError VlessServer := do
  let host ← nonEmptyField value "add" .missingHost
  let port ← vmessPort (value.get "port")
  let uuid ← nonEmptyField value "id" .missingCredentials
  let network := (value.getString "net").getD "tcp"
  let server : VlessServer :=
    { VlessServer.base "vmess" host port
        ((value.getString "ps").getD (endpointLabel host port)) with
      uuid
      transport := network
      security := vmessSecurity value
      sni := value.getString "sni"
      path := value.getString "path"
      fingerprint := value.getString "fp" }
  let params := vmessParams value
  if network = "grpc" then
    .ok { server with
      path := none
      mode := vmessHeaderType value
      rawParams := insertSomeParam params "serviceName"
        (server.path.filter fun path => path != "") }
  else
    .ok { server with
      rawParams := insertSomeParam params "headerType" (vmessHeaderType value) }

def parseVmess (uri : String) : Except ParseError VlessServer :=
  match b64DecodeStr lib ((afterPrefix (trim uri) "vmess://").getD "") with
  | none => .error (.invalidUri "vmess base64")
  | some json =>
      match lib.readJson json with
      | .error error => .error (.invalidUri error)
      | .ok value => vmessServer value

/-- Parse a link with any of the schemes. -/
def parseProxyUri (uri : String) : Except ParseError VlessServer := do
  let uri := trim uri
  let server ←
    if startsWith uri "vless://" then parseVless lib uri
    else if startsWith uri "trojan://" then parseTrojan lib uri
    else if startsWith uri "ss://" then parseShadowsocks lib uri
    else if startsWith uri "vmess://" then parseVmess lib uri
    else .error (.unsupportedScheme (before uri "://"))
  if isBalancerSentinel server.host then .error .balancerEntry else .ok server

end Links

/-! ## Links that are URLs -/

theorem parseLinkUrl_eq_ok {lib : Libraries} {scheme uri : String} {url : Url}
    (parsed : parseLinkUrl lib scheme uri = .ok url) : lib.urls.parse (trim uri) = some url := by
  rw [parseLinkUrl] at parsed
  split at parsed
  next => cases parsed
  next found =>
    split at parsed
    next => cases parsed
    next =>
      cases parsed
      exact found

theorem urlEndpoint_eq_ok {url : Url} {host : String} {port : Nat}
    (endpoint : urlEndpoint url = .ok (host, port)) :
    url.host = some host ∧ url.port = some port := by
  rw [urlEndpoint] at endpoint
  split at endpoint
  next => cases endpoint
  next hosted =>
    split at endpoint
    next => cases endpoint
    next given =>
      cases endpoint
      exact ⟨hosted, given⟩

end Varmlen.Core
