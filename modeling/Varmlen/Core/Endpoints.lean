import Mathlib.Data.List.Dedup
import Mathlib.Data.List.Sort
import Varmlen.Core.Import
import Varmlen.Core.Proxies
import Varmlen.Foundation.JsonTree

/-!
# The endpoints that are exempted from the tunnel

What Xray itself dials must not be routed back into the tunnel, so the client lists
the endpoints of a location for the daemon (`core/src/subscription.rs`).  An outbound
can name many endpoints; the list has the one that its import shows.
-/

namespace Varmlen.Core

open Foundation.Json Foundation.Text

/-- A host and a port. -/
abbrev Endpoint := String × Nat

/-- The order of a `BTreeSet` of endpoints. -/
def Endpoint.le (left right : Endpoint) : Prop :=
  left.1 < right.1 ∨ left.1 = right.1 ∧ left.2 ≤ right.2

instance : DecidableRel Endpoint.le := fun left right =>
  inferInstanceAs (Decidable (left.1 < right.1 ∨ left.1 = right.1 ∧ left.2 ≤ right.2))

def VlessServer.endpoint (server : VlessServer) : Endpoint := (server.host, server.port)

/-- The JSON outbounds of a location: those of its profile, or its lone one. -/
def sourceOutbounds (server : VlessServer) : List Value :=
  match server.rawProfile with
  | some profile => profile.getItems "outbounds"
  | none => server.rawOutbound.toList

def serverEndpoints (urls : UrlParser) (server : VlessServer) : List Endpoint :=
  let parsed := (sourceOutbounds server).filterMap (parseOutbound urls)
  let endpoints :=
    if parsed.isEmpty then [server.endpoint] else parsed.map VlessServer.endpoint
  endpoints.dedup.insertionSort Endpoint.le

/-! ## What an outbound dials -/

/-- The endpoint in an object with `address` and `port`. -/
def entryEndpoint (entry : Value) : Option Endpoint := do
  let address ← entry.getString "address"
  let port ← jsonPort (entry.get "port")
  some (address, port)

/-- The endpoint of a WireGuard peer. -/
def peerEndpoint (urls : UrlParser) (peer : Value) : Option Endpoint :=
  (peer.getString "endpoint").bind (endpointHostPort urls)

/-- All endpoints in the settings of an outbound. -/
def settingsEndpoints (urls : UrlParser) (wireguard : Bool) (settings : Value) :
    List Endpoint :=
  (entryEndpoint settings).toList ++
    (settings.getItems "vnext").filterMap entryEndpoint ++
    (settings.getItems "servers").filterMap entryEndpoint ++
    (if wireguard then (settings.getItems "peers").filterMap (peerEndpoint urls) else [])

/-- All endpoints of an outbound. -/
def listedEndpoints (urls : UrlParser) (outbound : Value) : List Endpoint :=
  match outbound.get "settings" with
  | none => []
  | some settings => settingsEndpoints urls (isWireguard outbound) settings

/-- The endpoints of an outbound depend on its protocol and its settings. -/
theorem listedEndpoints_congr {urls : UrlParser} {left right : Value}
    (protocol : left.get "protocol" = right.get "protocol")
    (settings : left.get "settings" = right.get "settings") :
    listedEndpoints urls left = listedEndpoints urls right := by
  rw [listedEndpoints, listedEndpoints, settings, isWireguard, isWireguard, Value.getString,
    Value.getString, protocol]

/-! ## What an import reads -/

/-- The entry that an import takes for the whole outbound. -/
def leadEntry (protocol : String) (settings : Value) : Option Value :=
  if protocol = "vless" ∨ protocol = "vmess" then directOrFirst settings "vnext"
  else if protocol ∈ ["trojan", "shadowsocks", "http", "socks"] then
    directOrFirst settings "servers"
  else if protocol = "hysteria" then some settings
  else none

/-- The entry has the secret without which an outbound of the protocol is not
imported. -/
def Identified (protocol : String) (entry : Value) : Prop :=
  (protocol = "vless" ∨ protocol = "vmess" →
    (jsonStr ((firstUser entry).getD entry) "id").isSome = true) ∧
  (protocol = "trojan" → (jsonStr entry "password").isSome = true)

/-- The endpoint leads the settings of a protocol: it stands in the one entry, or in the
first peer of WireGuard. -/
inductive LeadsSettings (urls : UrlParser) (protocol : String) (settings : Value)
    (endpoint : Endpoint) : Prop
  | entry {entry : Value} (lead : leadEntry protocol settings = some entry)
      (listed : entryEndpoint entry = some endpoint) (hosted : endpoint.1 ≠ "")
      (identified : Identified protocol entry)
  | peer {peer : Value} (wireguard : protocol = "wireguard")
      (first : (settings.getItems "peers").head? = some peer)
      (nonempty : peer.getString "endpoint" ≠ some "")
      (listed : peerEndpoint urls peer = some endpoint)

theorem leadsSettings_iff {urls : UrlParser} {protocol : String} {settings : Value}
    {endpoint : Endpoint} :
    LeadsSettings urls protocol settings endpoint ↔
      (∃ entry, leadEntry protocol settings = some entry ∧
        entryEndpoint entry = some endpoint ∧ endpoint.1 ≠ "" ∧ Identified protocol entry) ∨
      protocol = "wireguard" ∧ ∃ peer, (settings.getItems "peers").head? = some peer ∧
        peer.getString "endpoint" ≠ some "" ∧ peerEndpoint urls peer = some endpoint := by
  constructor
  · intro leads
    cases leads with
    | entry lead listed hosted identified => exact .inl ⟨_, lead, listed, hosted, identified⟩
    | peer wireguard first nonempty listed => exact .inr ⟨wireguard, _, first, nonempty, listed⟩
  · intro leads
    rcases leads with ⟨_, lead, listed, hosted, identified⟩ | ⟨wireguard, _, first, nonempty,
      listed⟩
    · exact .entry lead listed hosted identified
    · exact .peer wireguard first nonempty listed

/-- An outbound is imported with the endpoint.  Its protocol is in lower case, and its
host is no placeholder. -/
structure Leads (urls : UrlParser) (outbound : Value) (endpoint : Endpoint) : Prop where
  leads : ∃ protocol settings, outbound.getString "protocol" = some protocol ∧
    outbound.get "settings" = some settings ∧
    LeadsSettings urls protocol settings endpoint
  genuine : isBalancerSentinel endpoint.1 = false

theorem applyReality_endpoint (server : VlessServer) (stream : Value) :
    (applyReality server stream).endpoint = server.endpoint := by
  rw [applyReality]
  split
  next => rfl
  next => rfl

theorem applyTls_endpoint (server : VlessServer) (stream : Value) :
    (applyTls server stream).endpoint = server.endpoint := by
  rw [applyTls]
  split
  next => rfl
  next => rfl

theorem applyTransport_endpoint (server : VlessServer) (stream : Value) :
    (applyTransport server stream).endpoint = server.endpoint := by
  rw [applyTransport]
  repeat' split
  all_goals rfl

/-- The stream settings do not move an outbound to another endpoint. -/
theorem applyStream_endpoint (server : VlessServer) (stream : Option Value) :
    (applyStream server stream).endpoint = server.endpoint := by
  cases stream with
  | none => rfl
  | some stream =>
      rw [applyStream, applyTransport_endpoint, applyTls_endpoint, applyReality_endpoint]
      rfl

/-- A server stands at the endpoint that its entry names. -/
theorem jsonEndpoint_eq_some_iff {protocol tag : String} {entry : Value}
    {server : VlessServer} :
    jsonEndpoint protocol tag entry = some server ↔
      ∃ endpoint, entryEndpoint entry = some endpoint ∧ endpoint.1 ≠ "" ∧
        .base protocol endpoint.1 endpoint.2 (outboundLabel tag endpoint.1 endpoint.2) =
          server := by
  simp only [jsonEndpoint, entryEndpoint, jsonStr, nonEmpty, Option.bind_eq_bind,
    Option.bind_eq_some_iff, Option.filter_eq_some_iff, Option.some.injEq, bne_iff_ne]
  constructor
  · rintro ⟨host, ⟨named, hosted⟩, port, numbered, same⟩
    exact ⟨(host, port), ⟨host, named, port, numbered, rfl⟩, hosted, same⟩
  · rintro ⟨endpoint, ⟨host, named, port, numbered, rfl⟩, hosted, same⟩
    exact ⟨host, ⟨named, hosted⟩, port, numbered, same⟩

section Import

variable {urls : UrlParser} {protocol tag : String} {settings : Value} {endpoint : Endpoint}

/-- An import that ends with a server at the endpoint of its leading entry, once the
entry has a secret. -/
theorem leadServer_iff {lead : Option Value} {secret : Value → Prop}
    {finish : Value → VlessServer → Option VlessServer}
    (keeps : ∀ entry server result, finish entry server = some result →
      result.endpoint = server.endpoint)
    (finishes : ∀ entry server, (finish entry server).isSome = true ↔ secret entry) :
    (∃ server, (lead.bind fun entry =>
        (jsonEndpoint protocol tag entry).bind (finish entry)) = some server ∧
        server.endpoint = endpoint) ↔
      ∃ entry, lead = some entry ∧ entryEndpoint entry = some endpoint ∧ endpoint.1 ≠ "" ∧
        secret entry := by
  simp only [Option.bind_eq_some_iff, jsonEndpoint_eq_some_iff]
  constructor
  · intro found
    rcases found with ⟨result, ⟨entry, leads, server, ⟨listed, read, hosted, rfl⟩, done⟩, rfl⟩
    rw [keeps _ _ _ done]
    exact ⟨entry, leads, read, hosted, (finishes _ _).1 (Option.isSome_of_eq_some done)⟩
  · intro found
    rcases found with ⟨entry, leads, read, hosted, identified⟩
    have done := (finishes entry (.base protocol endpoint.1 endpoint.2
      (outboundLabel tag endpoint.1 endpoint.2))).2 identified
    rcases Option.isSome_iff_exists.1 done with ⟨result, same⟩
    exact ⟨result, ⟨entry, leads, _, ⟨endpoint, read, hosted, rfl⟩, same⟩,
      keeps _ _ _ same⟩

theorem parseVnext_iff :
    (∃ server, parseVnext protocol tag settings = some server ∧
        server.endpoint = endpoint) ↔
      ∃ entry, directOrFirst settings "vnext" = some entry ∧
        entryEndpoint entry = some endpoint ∧ endpoint.1 ≠ "" ∧
        (jsonStr ((firstUser entry).getD entry) "id").isSome = true := by
  apply leadServer_iff
  · intro entry server result done
    rcases Option.bind_eq_some_iff.1 done with ⟨uuid, _, done⟩
    dsimp only at done
    split at done
    next =>
      cases done
      rfl
    next =>
      cases done
      rfl
  · intro entry server
    dsimp only
    cases jsonStr ((firstUser entry).getD entry) "id" with
    | none => exact Iff.rfl
    | some uuid =>
        dsimp only [Option.bind_eq_bind, Option.bind_some]
        split
        next => simp
        next => simp

theorem parseTrojanOutbound_iff :
    (∃ server, parseTrojanOutbound tag settings = some server ∧
        server.endpoint = endpoint) ↔
      ∃ entry, directOrFirst settings "servers" = some entry ∧
        entryEndpoint entry = some endpoint ∧ endpoint.1 ≠ "" ∧
        (jsonStr entry "password").isSome = true := by
  apply leadServer_iff
  · intro entry server result done
    rcases Option.bind_eq_some_iff.1 done with ⟨password, _, done⟩
    cases done
    rfl
  · intro entry server
    cases jsonStr entry "password" <;> simp

/-- An import without a secret. -/
theorem leadServer_open_iff {lead : Option Value}
    {finish : Value → VlessServer → VlessServer}
    (keeps : ∀ entry server, (finish entry server).endpoint = server.endpoint) :
    (∃ server, (lead.bind fun entry =>
        (jsonEndpoint protocol tag entry).bind fun server => some (finish entry server)) =
          some server ∧ server.endpoint = endpoint) ↔
      ∃ entry, lead = some entry ∧ entryEndpoint entry = some endpoint ∧
        endpoint.1 ≠ "" := by
  have always := @leadServer_iff protocol tag endpoint lead (fun _ => True)
    (fun entry server => some (finish entry server))
  simp only [and_true] at always
  apply always
  · intro entry server result done
    cases done
    exact keeps entry server
  · simp

theorem parseShadowsocksOutbound_iff :
    (∃ server, parseShadowsocksOutbound tag settings = some server ∧
        server.endpoint = endpoint) ↔
      ∃ entry, directOrFirst settings "servers" = some entry ∧
        entryEndpoint entry = some endpoint ∧ endpoint.1 ≠ "" := by
  apply leadServer_open_iff
  intro entry server
  rfl

theorem parseSimpleOutbound_iff :
    (∃ server, parseSimpleOutbound protocol tag settings = some server ∧
        server.endpoint = endpoint) ↔
      ∃ entry, directOrFirst settings "servers" = some entry ∧
        entryEndpoint entry = some endpoint ∧ endpoint.1 ≠ "" := by
  apply leadServer_open_iff
  intro entry server
  rfl

theorem parseHysteriaOutbound_iff {stream : Option Value} :
    (∃ server, parseHysteriaOutbound tag settings stream = some server ∧
        server.endpoint = endpoint) ↔
      ∃ entry, some settings = some entry ∧ entryEndpoint entry = some endpoint ∧
        endpoint.1 ≠ "" := by
  let auth (settings : Value) : String :=
    (((stream.bind (·.get "hysteriaSettings")).bind (jsonStr · "auth")).or
      (jsonStr settings "auth")).getD ""
  exact @leadServer_open_iff "hysteria" tag endpoint (some settings)
    (fun entry server => { server with uuid := auth entry }) (fun _ _ => rfl)

theorem parseWireguardOutbound_iff :
    (∃ server, parseWireguardOutbound urls tag settings = some server ∧
        server.endpoint = endpoint) ↔
      ∃ peer, (settings.getItems "peers").head? = some peer ∧
        peer.getString "endpoint" ≠ some "" ∧ peerEndpoint urls peer = some endpoint := by
  simp only [parseWireguardOutbound, Option.bind_eq_bind, Value.getItems, peerEndpoint, jsonStr,
    nonEmpty]
  cases (settings.get "peers").bind Value.asArray with
  | none => simp
  | some peers =>
      cases peers with
      | nil => simp
      | cons peer rest =>
          cases named : peer.getString "endpoint" with
          | none => simp [named]
          | some text =>
              by_cases empty : text = ""
              · simp [named, empty, Option.filter]
              · cases read : endpointHostPort urls text <;>
                  simp [named, empty, read, Option.filter, VlessServer.endpoint,
                    VlessServer.base]

/-- What an import makes of the settings of a protocol stands at their leading
endpoint. -/
theorem parseProtocol_iff {stream : Option Value} :
    (∃ server, parseProtocol urls protocol tag settings stream = some server ∧
        server.endpoint = endpoint) ↔
      LeadsSettings urls protocol settings endpoint := by
  rw [leadsSettings_iff, parseProtocol]
  by_cases vnext : protocol = "vless" ∨ protocol = "vmess"
  · have others : protocol ≠ "trojan" ∧ protocol ≠ "wireguard" := by
      rcases vnext with rfl | rfl <;> decide
    rw [if_pos vnext, parseVnext_iff]
    simp [leadEntry, Identified, vnext, others]
  · rw [if_neg vnext]
    by_cases trojan : protocol = "trojan"
    · rw [if_pos trojan, parseTrojanOutbound_iff, trojan]
      simp [leadEntry, Identified]
    · rw [if_neg trojan]
      by_cases shadowsocks : protocol = "shadowsocks"
      · rw [if_pos shadowsocks, parseShadowsocksOutbound_iff, shadowsocks]
        simp [leadEntry, Identified]
      · rw [if_neg shadowsocks]
        by_cases hysteria : protocol = "hysteria"
        · rw [if_pos hysteria, parseHysteriaOutbound_iff, hysteria]
          simp [leadEntry, Identified]
        · rw [if_neg hysteria]
          by_cases wireguard : protocol = "wireguard"
          · rw [if_pos wireguard, parseWireguardOutbound_iff, wireguard]
            simp [leadEntry]
          · rw [if_neg wireguard]
            by_cases simple : protocol = "http" ∨ protocol = "socks"
            · rw [if_pos simple, parseSimpleOutbound_iff]
              rcases simple with rfl | rfl
              · simp [leadEntry, Identified]
              · simp [leadEntry, Identified]
            · rw [if_neg simple]
              have unknown : leadEntry protocol settings = none := by
                simp [leadEntry, vnext, trojan, shadowsocks, hysteria, simple]
              simp [unknown, wireguard]

/-- An outbound is imported with the endpoint that leads it. -/
theorem parseOutbound_iff {outbound : Value} :
    (∃ server, parseOutbound urls outbound = some server ∧ server.endpoint = endpoint) ↔
      Leads urls outbound endpoint := by
  simp only [parseOutbound, Option.bind_eq_bind, Option.bind_eq_some_iff]
  constructor
  · intro found
    rcases found with ⟨server, ⟨protocol, named, settings, given, plain, parsed, kept⟩, rfl⟩
    split at kept
    next => cases kept
    next genuine =>
      cases kept
      constructor
      · rw [applyStream_endpoint]
        exact ⟨protocol, settings, named, given, parseProtocol_iff.1 ⟨plain, parsed, rfl⟩⟩
      · exact Bool.not_eq_true _ ▸ genuine
  · intro leads
    rcases leads with ⟨⟨protocol, settings, named, given, leads⟩, genuine⟩
    rcases (@parseProtocol_iff urls protocol ((outbound.getString "tag").getD "") settings
      endpoint (outbound.get "streamSettings")).2 leads with ⟨plain, parsed, rfl⟩
    have same := applyStream_endpoint plain (outbound.get "streamSettings")
    have host := congrArg Prod.fst same
    refine ⟨_, ⟨protocol, named, settings, given, plain, parsed, ?_⟩, same⟩
    apply if_neg
    rw [Bool.not_eq_true, ← genuine]
    exact congrArg isBalancerSentinel host

end Import

/-! ## What is exempted -/

/-- A sanitized outbound lists the endpoints of its source, under whatever tag. -/
theorem sanitized_endpoints {urls : UrlParser} {outbound : Value} {preserve : Bool}
    {object : Object} (sanitized : sanitizeRawOutbound outbound preserve = .ok object)
    {proxy : Value} (protocol : proxy.get "protocol" = object.get "protocol")
    (settings : proxy.get "settings" = object.get "settings") :
    listedEndpoints urls proxy = listedEndpoints urls outbound := by
  have kept := (sanitizeRawOutbound_eq_ok sanitized).2
  apply listedEndpoints_congr
  · rw [protocol, kept "protocol" (by decide) (by decide)]
    cases preserve <;> rfl
  · rw [settings, kept "settings" (by decide) (by decide)]
    cases preserve <;> rfl

/-- The proxies of a profile list what its proxy outbounds list. -/
theorem Collected.endpoints (urls : UrlParser) {index : Nat} {tags : List String}
    {outbounds proxies : List Value} (collected : Collected index tags outbounds proxies) :
    proxies.flatMap (listedEndpoints urls) =
      (outbounds.filter isProxyOutbound).flatMap (listedEndpoints urls) := by
  induction collected with
  | nil => rfl
  | skip other later ih =>
      rw [List.filter_cons_of_neg (by simp [other])]
      exact ih
  | keep proxy sanitized unreserved unused later ih =>
      rw [List.filter_cons_of_pos proxy, List.flatMap_cons, List.flatMap_cons, ih,
        sanitized_endpoints sanitized]
      · exact Object.get_insert_of_ne _ _ (by decide)
      · exact Object.get_insert_of_ne _ _ (by decide)

theorem jsonPort_nat (port : Nat) :
    jsonPort (some (.nat port)) = if port < 2 ^ 16 then some port else none := by
  rw [Value.nat, jsonPort, Value.asU64]
  by_cases wide : 0 ≤ (port : Int) ∧ (port : Int) < 2 ^ 64
  · rw [if_pos wide, Int.toNat_natCast, Option.filter_some]
    simp only [decide_eq_true_eq]
  · have large : ¬ port < 2 ^ 16 := by omega
    rw [if_neg wide, if_neg large, Option.filter_none]

end Varmlen.Core
