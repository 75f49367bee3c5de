import Varmlen.Foundation.Checks
import Varmlen.Foundation.JsonReading
import Varmlen.Core.Decoding
import Varmlen.Core.Endpoints
import Varmlen.Core.Shadowsocks
import Varmlen.Core.StreamReading

/-!
# Outbounds that are read again

An outbound that is built from a share link can be imported as JSON, and the outbound that
is built from the import is the same.
-/

namespace Varmlen.Core

open Foundation.Json Foundation.Text

/-! ## What a link gives -/

/-- What the packages are documented to do with a link. -/
structure LinkPackages (lib : Libraries) : Prop where
  /-- Decoding a text leaves something of it. -/
  decodes : ∀ text, lib.percentDecode text = "" → text = ""
  /-- Ports have 16 bits. -/
  ports : ∀ raw url port, lib.urls.parse raw = some url → url.port = some port → port < 2 ^ 16

theorem linkPackages_ofTable {entries : List (String × Url)}
    {rewritten : ∀ entry ∈ constantEntries ++ entries,
      entry.2.IsRewritten (constantEntries ++ entries)}
    (small : ∀ entry ∈ constantEntries ++ entries, ∀ port ∈ entry.2.port, port < 2 ^ 16)
    (documents : List (String × Value)) :
    LinkPackages (.ofTables (.ofTable entries rewritten) documents) where
  decodes _ empty := empty
  ports := by
    intro raw url port found given
    exact small (raw, url) (mem_of_lookup found) port given

/-- The protocol of a link, with the credentials that it cannot be without. -/
inductive LinkAccount (server : VlessServer) : Prop
  | vless (protocol : server.protocol = "vless") (credentials : server.uuid ≠ "")
  | vmess (protocol : server.protocol = "vmess") (credentials : server.uuid ≠ "")
  | trojan (protocol : server.protocol = "trojan")
      (credentials : server.password.getD server.uuid ≠ "")
  | shadowsocks (protocol : server.protocol = "shadowsocks")

structure LinkServer (server : VlessServer) : Prop where
  account : LinkAccount server
  port : server.port < 2 ^ 16
  noOutbound : server.rawOutbound = none

section Links

open Foundation.Checks

variable {lib : Libraries} {uri : String} {server : VlessServer}

theorem linkServer_of_parseVless (packages : LinkPackages lib)
    (parsed : parseVless lib uri = .ok server) : LinkServer server := by
  rw [parseVless, bind_eq_ok] at parsed
  rcases parsed with ⟨url, linked, parsed⟩
  split at parsed
  next => cases parsed
  next credentials =>
    rcases bind_eq_ok.1 parsed with ⟨⟨host, port⟩, endpoint, parsed⟩
    rcases bind_eq_ok.1 parsed with ⟨_, _, made⟩
    have small : port < 2 ^ 16 :=
      packages.ports _ _ _ (parseLinkUrl_eq_ok linked) (urlEndpoint_eq_ok endpoint).2
    cases made
    exact ⟨.vless rfl fun empty => credentials (packages.decodes _ empty), small, rfl⟩

theorem linkServer_of_parseTrojan (packages : LinkPackages lib)
    (parsed : parseTrojan lib uri = .ok server) : LinkServer server := by
  rw [parseTrojan, bind_eq_ok] at parsed
  rcases parsed with ⟨url, linked, parsed⟩
  dsimp only at parsed
  split at parsed
  next => cases parsed
  next credentials =>
    rcases bind_eq_ok.1 parsed with ⟨⟨host, port⟩, endpoint, made⟩
    have small : port < 2 ^ 16 :=
      packages.ports _ _ _ (parseLinkUrl_eq_ok linked) (urlEndpoint_eq_ok endpoint).2
    cases made
    exact ⟨.trojan rfl credentials, small, rfl⟩

theorem linkServer_of_parseShadowsocks (parsed : parseShadowsocks lib uri = .ok server) :
    LinkServer server := by
  rw [parseShadowsocks_eq] at parsed
  rcases bind_eq_ok.1 parsed with ⟨parts, _, made⟩
  rw [shadowsocksServer] at made
  split at made
  next => cases made
  next =>
    split at made
    next => cases made
    next =>
      rcases bind_eq_ok.1 made with ⟨port, given, made⟩
      have small : port < 2 ^ 16 := by
        rw [shadowsocksPort] at given
        split at given
        next read =>
          cases given
          exact parseUnsigned_lt read
        next => cases given
      cases made
      exact ⟨.shadowsocks rfl, small, rfl⟩

theorem nonEmptyField_eq_ok {value : Value} {key text : String} {error : ParseError}
    (given : nonEmptyField value key error = .ok text) : text ≠ "" := by
  rw [nonEmptyField] at given
  split at given
  next => cases given
  next nonempty =>
    cases given
    exact nonempty

theorem vmessPort_lt {value : Option Value} {port : Nat} (given : vmessPort value = .ok port) :
    port < 2 ^ 16 := by
  unfold vmessPort at given
  split at given
  next =>
    dsimp only at given
    split at given
    next kept =>
      cases given
      exact parseUnsigned_lt (Option.filter_eq_some_iff.1 kept).1
    next => cases given
  next =>
    dsimp only at given
    split at given
    next kept =>
      cases given
      have read := (Option.filter_eq_some_iff.1 kept).1
      simpa using (Option.filter_eq_some_iff.1 read).2
    next => cases given
  next => cases given

theorem linkServer_of_vmessServer {value : Value} (parsed : vmessServer value = .ok server) :
    LinkServer server := by
  rw [vmessServer] at parsed
  rcases bind_eq_ok.1 parsed with ⟨host, _, parsed⟩
  rcases bind_eq_ok.1 parsed with ⟨port, given, parsed⟩
  rcases bind_eq_ok.1 parsed with ⟨uuid, credentials, parsed⟩
  have small : port < 2 ^ 16 := vmessPort_lt given
  have nonempty : uuid ≠ "" := nonEmptyField_eq_ok credentials
  dsimp only at parsed
  split at parsed
  next =>
    cases parsed
    exact ⟨.vmess rfl nonempty, small, rfl⟩
  next =>
    cases parsed
    exact ⟨.vmess rfl nonempty, small, rfl⟩

theorem linkServer_of_parseVmess (parsed : parseVmess lib uri = .ok server) :
    LinkServer server := by
  rw [parseVmess] at parsed
  split at parsed
  next => cases parsed
  next =>
    split at parsed
    next => cases parsed
    next => exact linkServer_of_vmessServer parsed

/-- What every accepted link has in common. -/
theorem linkServer_of_parseProxyUri (packages : LinkPackages lib)
    (parsed : parseProxyUri lib uri = .ok server) :
    LinkServer server ∧ isBalancerSentinel server.host = false := by
  have checked {found : Except ParseError VlessServer}
      (linked : found = .ok server → LinkServer server)
      (passed : (found >>= fun server =>
        if isBalancerSentinel server.host then .error .balancerEntry else .ok server) =
          .ok server) :
      LinkServer server ∧ isBalancerSentinel server.host = false := by
    rcases bind_eq_ok.1 passed with ⟨other, read, passed⟩
    split at passed
    next => cases passed
    next noSentinel =>
      cases passed
      exact ⟨linked read, by simpa using noSentinel⟩
  rw [parseProxyUri] at parsed
  split at parsed
  next => exact checked (linkServer_of_parseVless packages) parsed
  next =>
    split at parsed
    next => exact checked (linkServer_of_parseTrojan packages) parsed
    next =>
      split at parsed
      next => exact checked linkServer_of_parseShadowsocks parsed
      next =>
        split at parsed
        next => exact checked linkServer_of_parseVmess parsed
        next => cases parsed

end Links

/-! ## What an outbound is read as -/

section Accounts

variable {server imported : VlessServer} {urls : UrlParser} {tag : String}

/-- An entry with the endpoint of a location. -/
def endpointEntry (server : VlessServer) (fields : List (String × Value)) : Value :=
  .ofFields (("address", .string server.host) :: ("port", .nat server.port) :: fields)

/-- An entry with one user. -/
def userEntry (server : VlessServer) (fields : List (String × Value)) : Value :=
  endpointEntry server
    [("users", .array [.ofFields (("id", .string server.uuid) :: fields)])]

theorem protocolSettings_vless (vless : server.protocol = "vless") :
    protocolSettings server =
      ("vless", .ofFields [("vnext", .array [userEntry server
        [("encryption", .string "none"), ("flow", .string (server.flow.getD ""))]])]) := by
  simp [protocolSettings, vless, userEntry, endpointEntry]

theorem protocolSettings_vmess (vmess : server.protocol = "vmess") :
    protocolSettings server =
      ("vmess", .ofFields [("vnext", .array [userEntry server
        [("security", .string ((server.param "scy").getD "auto")),
          ("alterId", .nat (((server.param "aid").bind (parseUnsigned (2 ^ 32))).getD 0))]])]) := by
  simp [protocolSettings, vmess, userEntry, endpointEntry]

theorem protocolSettings_trojan (trojan : server.protocol = "trojan") :
    protocolSettings server =
      ("trojan", .ofFields [("servers", .array [endpointEntry server
        [("password", .string (server.password.getD server.uuid)),
          ("flow", .string (server.flow.getD ""))]])]) := by
  simp [protocolSettings, trojan, endpointEntry]

theorem protocolSettings_shadowsocks (shadowsocks : server.protocol = "shadowsocks") :
    protocolSettings server =
      ("shadowsocks", .ofFields [("servers", .array [endpointEntry server
        [("method", .string (server.method.getD "")),
          ("password", .string (server.password.getD "")), ("uot", .bool true)]])]) := by
  simp [protocolSettings, shadowsocks, endpointEntry]

theorem directOrFirst_listed {key : String} (entry : Value) (isList : key ≠ "address") :
    directOrFirst (.ofFields [(key, .array [entry])]) key = some entry := by
  have noAddress : (Value.ofFields [(key, .array [entry])]).get "address" = none :=
    Value.get_ofFields_none (by simpa using isList.symm)
  have listed : (Value.ofFields [(key, .array [entry])]).get key = some (.array [entry]) :=
    Object.get_ofFields (by simp) (by simp)
  rw [directOrFirst, noAddress, if_neg (by simp), listed]
  rfl

/-- An entry that is written with the endpoint of a location is read as one, unless the
host is empty. -/
theorem jsonEndpoint_endpointEntry (small : server.port < 2 ^ 16) (protocol : String)
    {fields : List (String × Value)}
    (others : ∀ field ∈ fields, field.1 ≠ "address" ∧ field.1 ≠ "port") :
    jsonEndpoint protocol tag (endpointEntry server fields) =
      if server.host = "" then none
      else some (.base protocol server.host server.port
        (outboundLabel tag server.host server.port)) := by
  have address : (endpointEntry server fields).get "address" = some (.string server.host) :=
    Object.get_ofFields_last [] (("port", .nat server.port) :: fields) _
      (List.forall_mem_cons.2 ⟨by simp, fun field member => (others field member).1⟩)
  have port : (endpointEntry server fields).get "port" = some (.nat server.port) :=
    Object.get_ofFields_last [_] fields _ fun field member => (others field member).2
  have host : jsonStr (endpointEntry server fields) "address" = nonEmpty (some server.host) := by
    rw [jsonStr, Value.getString, address]
    rfl
  rw [jsonEndpoint, host, port, jsonPort_nat, if_pos small]
  by_cases unhosted : server.host = ""
  · rw [if_pos unhosted, unhosted]
    rfl
  · rw [if_neg unhosted, nonEmpty_of_ne unhosted]
    rfl

theorem jsonStr_ofFields {fields : List (String × Value)}
    (distinct : (fields.map Prod.fst).Nodup) {key text : String}
    (member : (key, .string text) ∈ fields) :
    jsonStr (.ofFields fields) key = nonEmpty (some text) := by
  rw [jsonStr, Value.getString_ofFields distinct member]

theorem firstUser_userEntry (fields : List (String × Value)) :
    firstUser (userEntry server fields) =
      some (.ofFields (("id", .string server.uuid) :: fields)) := by
  have users : (userEntry server fields).get "users" =
      some (.array [.ofFields (("id", .string server.uuid) :: fields)]) :=
    Object.get_ofFields (by simp) (by simp)
  rw [firstUser, users]
  rfl

/-- The import has the account of the location, and nothing of its stream settings. -/
structure KeepsAccount (server imported : VlessServer) : Prop where
  settings : protocolSettings imported = protocolSettings server
  protocol : imported.protocol = server.protocol
  host : imported.host = server.host
  noOutbound : imported.rawOutbound = none
  layer : LacksLayer imported
  transport : imported.LacksTransport

/-- The settings are read as a location with the same account, unless the host is empty. -/
def ReadsAccount (server : VlessServer) (read : Option VlessServer) : Prop :=
  if server.host = "" then read = none
  else ∃ imported, read = some imported ∧ KeepsAccount server imported

/-- The location that the entry of a user is read as, apart from its parameters. -/
def readUser (protocol tag : String) (server : VlessServer) (user : Value) : VlessServer :=
  { VlessServer.base protocol server.host server.port
      (outboundLabel tag server.host server.port) with
    uuid := server.uuid
    flow := jsonStr user "flow" }

theorem parseVnext_userEntry (protocol : String) (small : server.port < 2 ^ 16)
    (credentials : server.uuid ≠ "") {fields : List (String × Value)}
    (distinct : ("id" :: fields.map Prod.fst).Nodup) :
    let user := Value.ofFields (("id", .string server.uuid) :: fields)
    parseVnext protocol tag (.ofFields [("vnext", .array [userEntry server fields])]) =
      if server.host = "" then none
      else if protocol = "vmess" then
        some (((readUser protocol tag server user).insertParam "scy"
          (jsonStr user "security")).insertParam "aid"
            (((user.get "alterId").bind Value.asU64).map toString))
      else some (readUser protocol tag server user) := by
  intro user
  have id : jsonStr user "id" = some server.uuid := by
    rw [jsonStr_ofFields (by simpa using distinct) (.head _), nonEmpty_of_ne credentials]
  have endpoint : jsonEndpoint protocol tag (userEntry server fields) =
      if server.host = "" then none
      else some (.base protocol server.host server.port
        (outboundLabel tag server.host server.port)) :=
    jsonEndpoint_endpointEntry small protocol (by simp)
  rw [parseVnext, directOrFirst_listed _ (by decide), Option.bind_eq_bind, Option.bind_some,
    endpoint]
  by_cases unhosted : server.host = ""
  · rw [if_pos unhosted, if_pos unhosted]
    rfl
  · rw [if_neg unhosted, if_neg unhosted, Option.bind_eq_bind, Option.bind_some,
      firstUser_userEntry, Option.getD_some]
    change Option.bind (jsonStr user "id") _ = _
    rw [id]
    rfl

theorem flow_readUser {protocol : String} {fields : List (String × Value)}
    (distinct : (fields.map Prod.fst).Nodup)
    (listed : ("flow", .string (server.flow.getD "")) ∈ fields) :
    (readUser protocol tag server (.ofFields fields)).flow.getD "" = server.flow.getD "" := by
  rw [readUser, jsonStr_ofFields distinct listed, getD_nonEmpty]

theorem readsAccount_vless (vless : server.protocol = "vless") (small : server.port < 2 ^ 16)
    (credentials : server.uuid ≠ "") :
    ReadsAccount server (parseVnext "vless" tag (protocolSettings server).2) := by
  rw [protocolSettings_vless vless, parseVnext_userEntry "vless" small credentials (by simp),
    ReadsAccount]
  split
  next => rfl
  next =>
    rw [if_neg (by decide)]
    refine ⟨_, rfl, ?_, vless.symm, rfl, rfl, ⟨rfl, rfl, rfl, rfl, rfl⟩, rfl⟩
    rw [protocolSettings_vless vless, protocolSettings_vless rfl,
      flow_readUser (by simp) (by simp)]
    rfl

/-- The alternative id of a VMess location. -/
def alterId (server : VlessServer) : Nat :=
  ((server.param "aid").bind (parseUnsigned (2 ^ 32))).getD 0

theorem alterId_lt : alterId server < 2 ^ 32 := by
  rw [alterId]
  cases read : (server.param "aid").bind (parseUnsigned (2 ^ 32)) with
  | none => decide
  | some number =>
      rcases Option.bind_eq_some_iff.1 read with ⟨text, _, parsed⟩
      exact parseUnsigned_lt parsed

theorem readsAccount_vmess (vmess : server.protocol = "vmess") (small : server.port < 2 ^ 16)
    (credentials : server.uuid ≠ "") (full : FullParams server) :
    ReadsAccount server (parseVnext "vmess" tag (protocolSettings server).2) := by
  rw [protocolSettings_vmess vmess, parseVnext_userEntry "vmess" small credentials (by simp),
    ReadsAccount]
  split
  next => rfl
  next =>
    let user := Value.ofFields
      [("id", .string server.uuid), ("security", .string ((server.param "scy").getD "auto")),
        ("alterId", .nat (alterId server))]
    have security : jsonStr user "security" =
        nonEmpty (some ((server.param "scy").getD "auto")) :=
      jsonStr_ofFields (by simp) (by simp)
    have id : ((user.get "alterId").bind Value.asU64).map toString =
        some (toString (alterId server)) := by
      have given : user.get "alterId" = some (.nat (alterId server)) :=
        Object.get_ofFields (by simp) (by simp)
      rw [given, Option.bind_some, Value.asU64_nat (alterId_lt.trans (by decide)), Option.map_some]
    let imported := ((readUser "vmess" tag server user).insertParam "scy"
      (jsonStr user "security")).insertParam "aid"
        (((user.get "alterId").bind Value.asU64).map toString)
    have noParam (key : String) : (readUser "vmess" tag server user).param key = none := rfl
    have scyRead : (imported.param "scy").getD "auto" = (server.param "scy").getD "auto" := by
      rw [param_insertParam, if_neg (by decide), param_insertParam, if_pos rfl, noParam,
        Option.or_none, security, getD_read (full.params "scy") (by decide)]
    have idRead : alterId imported = alterId server := by
      rw [alterId, param_insertParam, if_pos rfl, id, Option.some_or, Option.bind_some,
        parseUnsigned_toString alterId_lt, Option.getD_some]
    have others {key : String} (apart : key ∉ ["scy", "aid"]) : imported.param key = none := by
      simp only [List.mem_cons, List.not_mem_nil, or_false, not_or] at apart
      rw [param_insertParam, if_neg apart.2, param_insertParam, if_neg apart.1, noParam]
    rw [if_pos rfl]
    refine ⟨imported, rfl, ?_, vmess.symm, rfl, rfl, ?_, ?_⟩
    · rw [protocolSettings_vmess vmess, protocolSettings_vmess rfl, ← alterId, ← alterId, scyRead,
        idRead]
      rfl
    · exact ⟨rfl, rfl, others (by decide), others (by decide), others (by decide)⟩
    · exact (transportParts_insertParam (by decide)).trans (transportParts_insertParam (by decide))

theorem readsAccount_trojan (trojan : server.protocol = "trojan") (small : server.port < 2 ^ 16)
    (credentials : server.password.getD server.uuid ≠ "") :
    ReadsAccount server (parseTrojanOutbound tag (protocolSettings server).2) := by
  let fields : List (String × Value) :=
    [("password", .string (server.password.getD server.uuid)),
      ("flow", .string (server.flow.getD ""))]
  have endpoint : jsonEndpoint "trojan" tag (endpointEntry server fields) =
      if server.host = "" then none
      else some (.base "trojan" server.host server.port
        (outboundLabel tag server.host server.port)) :=
    jsonEndpoint_endpointEntry small "trojan" (by simp [fields])
  have password : jsonStr (endpointEntry server fields) "password" =
      some (server.password.getD server.uuid) := by
    rw [← nonEmpty_of_ne credentials]
    exact jsonStr_ofFields (by simp [fields]) (by simp [fields])
  have flow : jsonStr (endpointEntry server fields) "flow" =
      nonEmpty (some (server.flow.getD "")) :=
    jsonStr_ofFields (by simp [fields]) (by simp [fields])
  rw [protocolSettings_trojan trojan, parseTrojanOutbound, directOrFirst_listed _ (by decide),
    Option.bind_eq_bind, Option.bind_some, endpoint, ReadsAccount]
  split
  next => rfl
  next =>
    rw [Option.bind_eq_bind, Option.bind_some, password]
    refine ⟨_, rfl, ?_, trojan.symm, rfl, rfl, ⟨rfl, rfl, rfl, rfl, rfl⟩, rfl⟩
    rw [protocolSettings_trojan trojan, protocolSettings_trojan rfl, flow, getD_nonEmpty]
    rfl

theorem readsAccount_shadowsocks (shadowsocks : server.protocol = "shadowsocks")
    (small : server.port < 2 ^ 16) :
    ReadsAccount server (parseShadowsocksOutbound tag (protocolSettings server).2) := by
  let fields : List (String × Value) :=
    [("method", .string (server.method.getD "")), ("password", .string (server.password.getD "")),
      ("uot", .bool true)]
  have endpoint : jsonEndpoint "shadowsocks" tag (endpointEntry server fields) =
      if server.host = "" then none
      else some (.base "shadowsocks" server.host server.port
        (outboundLabel tag server.host server.port)) :=
    jsonEndpoint_endpointEntry small "shadowsocks" (by simp [fields])
  have method : jsonStr (endpointEntry server fields) "method" =
      nonEmpty (some (server.method.getD "")) :=
    jsonStr_ofFields (by simp [fields]) (by simp [fields])
  have password : jsonStr (endpointEntry server fields) "password" =
      nonEmpty (some (server.password.getD "")) :=
    jsonStr_ofFields (by simp [fields]) (by simp [fields])
  rw [protocolSettings_shadowsocks shadowsocks, parseShadowsocksOutbound,
    directOrFirst_listed _ (by decide), Option.bind_eq_bind, Option.bind_some, endpoint,
    ReadsAccount]
  split
  next => rfl
  next =>
    refine ⟨_, rfl, ?_, shadowsocks.symm, rfl, rfl, ⟨rfl, rfl, rfl, rfl, rfl⟩, rfl⟩
    rw [protocolSettings_shadowsocks shadowsocks, protocolSettings_shadowsocks rfl, method,
      password, getD_nonEmpty, getD_nonEmpty]
    rfl

/-- The settings of every link are read back, unless the host is empty. -/
theorem readsAccount_parseProtocol (linked : LinkServer server) (full : FullParams server)
    (stream : Option Value) :
    ReadsAccount server
      (parseProtocol urls (protocolSettings server).1 tag (protocolSettings server).2 stream) := by
  cases linked.account with
  | vless vless credentials =>
      have same : (protocolSettings server).1 = "vless" := by rw [protocolSettings_vless vless]
      rw [same, parseProtocol, if_pos (.inl rfl)]
      exact readsAccount_vless vless linked.port credentials
  | vmess vmess credentials =>
      have same : (protocolSettings server).1 = "vmess" := by rw [protocolSettings_vmess vmess]
      rw [same, parseProtocol, if_pos (.inr rfl)]
      exact readsAccount_vmess vmess linked.port credentials full
  | trojan trojan credentials =>
      have same : (protocolSettings server).1 = "trojan" := by rw [protocolSettings_trojan trojan]
      rw [same, parseProtocol, if_neg (by decide), if_pos rfl]
      exact readsAccount_trojan trojan linked.port credentials
  | shadowsocks shadowsocks =>
      have same : (protocolSettings server).1 = "shadowsocks" := by
        rw [protocolSettings_shadowsocks shadowsocks]
      rw [same, parseProtocol, if_neg (by decide), if_neg (by decide), if_pos rfl]
      exact readsAccount_shadowsocks shadowsocks linked.port

end Accounts

/-! ## There and back -/

section RoundTrip

variable {lib : Libraries} {parseJson : JsonParser} {urls : UrlParser}
  {server imported : VlessServer}

/-- The outbound of a link. -/
def linkOutbound (parseJson : JsonParser) (server : VlessServer) : Value :=
  .ofFields [("tag", .string "proxy"), ("protocol", .string (protocolSettings server).1),
    ("settings", (protocolSettings server).2),
    ("streamSettings", buildStreamSettings parseJson server)]

theorem LinkAccount.others (account : LinkAccount server) :
    server.protocol ≠ "wireguard" ∧ ¬(server.protocol = "http" ∨ server.protocol = "socks") := by
  cases account with
  | vless protocol | vmess protocol | trojan protocol | shadowsocks protocol =>
      rw [protocol]
      decide

theorem buildProxyOutbound_linkOutbound
    (others : server.protocol ≠ "wireguard" ∧
      ¬(server.protocol = "http" ∨ server.protocol = "socks"))
    (noOutbound : server.rawOutbound = none) :
    buildProxyOutbound parseJson server = .ok (linkOutbound parseJson server) := by
  rw [buildProxyOutbound, noOutbound]
  dsimp only
  rw [if_neg others.1, if_neg others.2]
  rfl

theorem parseOutbound_linkOutbound :
    parseOutbound urls (linkOutbound parseJson server) =
      (parseProtocol urls (protocolSettings server).1 "proxy" (protocolSettings server).2
        (some (buildStreamSettings parseJson server))).bind fun imported =>
          let read := applyStream imported (some (buildStreamSettings parseJson server))
          if isBalancerSentinel read.host then none else some read := by
  have distinct : ([("tag", Value.string "proxy"),
      ("protocol", .string (protocolSettings server).1), ("settings", (protocolSettings server).2),
      ("streamSettings", buildStreamSettings parseJson server)].map Prod.fst).Nodup := by
    simp
  have protocol : (linkOutbound parseJson server).getString "protocol" =
      some (protocolSettings server).1 := Value.getString_ofFields distinct (by simp)
  have settings : (linkOutbound parseJson server).get "settings" =
      some (protocolSettings server).2 := Object.get_ofFields distinct (by simp)
  have stream : (linkOutbound parseJson server).get "streamSettings" =
      some (buildStreamSettings parseJson server) := Object.get_ofFields distinct (by simp)
  have tag : (linkOutbound parseJson server).getString "tag" = some "proxy" :=
    Value.getString_ofFields distinct (by simp)
  rw [parseOutbound, protocol, settings, stream, tag]
  rfl

/-- An import with the account of a link has its outbound, too. -/
theorem linkOutbound_applyStream (keeps : KeepsAccount server imported)
    (account : LinkAccount server) (readable : ReadableTransport server)
    (full : FullParams server) (hosted : server.host ≠ "") :
    buildProxyOutbound parseJson
        (applyStream imported (some (buildStreamSettings parseJson server))) =
      .ok (linkOutbound parseJson server) := by
  let again := applyStream imported (some (buildStreamSettings parseJson server))
  have sameAccount : again.account = imported.account := account_applyStream _
  have protocol : again.protocol = server.protocol :=
    (protocol_host_congr sameAccount).1.trans keeps.protocol
  have others : again.protocol ≠ "wireguard" ∧
      ¬(again.protocol = "http" ∨ again.protocol = "socks") := by
    rw [protocol]
    exact account.others
  have noOutbound : again.rawOutbound = none :=
    (rawOutbound_applyStream _).trans keeps.noOutbound
  have settings : protocolSettings again = protocolSettings server :=
    (protocolSettings_congr sameAccount).trans keeps.settings
  have stream : buildStreamSettings parseJson again = buildStreamSettings parseJson server :=
    buildStreamSettings_read readable full hosted keeps.layer keeps.transport
  rw [buildProxyOutbound_linkOutbound others noOutbound, linkOutbound,
    linkOutbound, settings, stream]

/-- The outbound of an accepted link is imported as a location with the same outbound, unless
the host of the link is empty. -/
theorem link_outbound_read_iff {uri : String} (packages : LinkPackages lib)
    (parsed : parseProxyUri lib uri = .ok server) (readable : ReadableTransport server)
    (full : FullParams server) :
    (∃ outbound again, buildProxyOutbound lib.parseJson server = .ok outbound ∧
      parseOutbound lib.urls outbound = some again ∧
      buildProxyOutbound lib.parseJson again = .ok outbound) ↔ server.host ≠ "" := by
  rcases linkServer_of_parseProxyUri packages parsed with ⟨linked, noSentinel⟩
  let stream := buildStreamSettings lib.parseJson server
  have built : buildProxyOutbound lib.parseJson server =
      .ok (linkOutbound lib.parseJson server) :=
    buildProxyOutbound_linkOutbound linked.account.others linked.noOutbound
  have reads : ReadsAccount server (parseProtocol lib.urls (protocolSettings server).1 "proxy"
      (protocolSettings server).2 (some stream)) :=
    readsAccount_parseProtocol linked full (some stream)
  rw [ReadsAccount] at reads
  constructor
  · rintro ⟨outbound, again, isOutbound, imported, _⟩ unhosted
    rw [built, Except.ok.injEq] at isOutbound
    rw [if_pos unhosted] at reads
    rw [← isOutbound, parseOutbound_linkOutbound, reads] at imported
    cases imported
  · intro hosted
    rw [if_neg hosted] at reads
    rcases reads with ⟨imported, read, keeps⟩
    have host : (applyStream imported (some stream)).host = server.host :=
      (protocol_host_congr (account_applyStream _)).2.trans keeps.host
    refine ⟨_, applyStream imported (some stream), built, ?_,
      linkOutbound_applyStream keeps linked.account readable full hosted⟩
    rw [parseOutbound_linkOutbound, read, Option.bind_some]
    dsimp only
    rw [host, noSentinel]
    rfl

end RoundTrip

theorem fullParams_of_rawParams {server : VlessServer}
    (params : ∀ param ∈ server.rawParams, param.2 ≠ "")
    (alpn : ∀ param ∈ server.rawParams, param.1 = "alpn" → splitListParam param.2 ≠ [])
    (path : server.path ≠ some "") (mode : server.mode ≠ some "") : FullParams server := by
  exact ⟨fun key given => params (key, "") (mem_of_lookup given) rfl, path, mode,
    fun value given => alpn ("alpn", value) (mem_of_lookup given) rfl⟩

/-- A link with TLS and a WebSocket. -/
def secureLink : String := "vless://u@h.example:443?type=ws&security=tls&alpn=h2"

def secureUrl : Url where
  scheme := "vless"
  username := "u"
  password := none
  fragment := none
  host := some "h.example"
  port := some 443
  queryPairs := [("type", "ws"), ("security", "tls"), ("alpn", "h2")]
  text := secureLink

def securePackages : Libraries :=
  .ofTables (.ofTable [(secureLink, secureUrl)] (by decide)) []

theorem secureLink_read :
    ∃ server, parseProxyUri securePackages secureLink = .ok server ∧
    ∃ outbound again, buildProxyOutbound securePackages.parseJson server = .ok outbound ∧
      parseOutbound securePackages.urls outbound = some again ∧
      buildProxyOutbound securePackages.parseJson again = .ok outbound := by
  have packages : LinkPackages securePackages := linkPackages_ofTable (by decide) []
  refine ⟨_, rfl, ?_⟩
  have parsed : parseProxyUri securePackages secureLink = .ok _ := rfl
  refine (link_outbound_read_iff packages parsed (.ws rfl) ?_).2 (by decide)
  exact fullParams_of_rawParams (by decide) (by decide) (by decide) (by decide)

/-- A Shadowsocks link without a host is accepted, and its outbound is not. -/
theorem unhosted_link_unread :
    let lib : Libraries := .ofTables (.ofTable [] (by decide)) []
    LinkPackages lib ∧
    ∃ server, parseProxyUri lib "ss://a:b@:1" = .ok server ∧ ReadableTransport server ∧
      FullParams server ∧
      ¬∃ outbound again, buildProxyOutbound lib.parseJson server = .ok outbound ∧
        parseOutbound lib.urls outbound = some again ∧
        buildProxyOutbound lib.parseJson again = .ok outbound := by
  refine ⟨linkPackages_ofTable (by decide) [], _, rfl, .tcp rfl (by decide), ?_, ?_⟩
  · exact fullParams_of_rawParams (by decide) (by decide) (by decide) (by decide)
  · rintro ⟨outbound, again, built, imported, _⟩
    cases built
    cases imported

end Varmlen.Core
