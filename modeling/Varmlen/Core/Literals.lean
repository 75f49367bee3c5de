import Varmlen.Foundation.Checks
import Varmlen.Core.Dns
import Varmlen.Core.Endpoints
import Varmlen.Core.Shadowsocks
import Varmlen.Daemon.Document

/-!
# IPv6 literals

An IPv6 address stands in brackets in a link or a URL, and a URL's host keeps them.  What
is resolved or compared with addresses later is the literal without them.
-/

namespace Varmlen.Core

open Foundation.Ip Foundation.Json Foundation.Text

/-! ## Resolving a location (`core/src/endpoint.rs`) -/

/-- The order of a `BTreeSet` of addresses: IPv4 before IPv6, then by number. -/
def IpAddr.le : IpAddr → IpAddr → Bool
  | .v4 left, .v4 right => left.toNat ≤ right.toNat
  | .v4 _, .v6 _ => true
  | .v6 _, .v4 _ => false
  | .v6 left, .v6 right => left.toNat ≤ right.toNat

/-- The addresses of a host. -/
abbrev Lookup := String → Nat → Except String (List IpAddr)

def lookupEndpoint (lookup : Lookup) (endpoint : Endpoint) : Except String (List IpAddr) :=
  (lookup endpoint.1 endpoint.2).mapError fun error =>
    "could not resolve VPN endpoint " ++ endpoint.1 ++ ":" ++ toString endpoint.2 ++ ": " ++ error

def resolveServerIps (urls : UrlParser) (lookup : Lookup) (server : VlessServer) :
    Except String (List IpAddr) := do
  let addresses ← (serverEndpoints urls server).mapM (lookupEndpoint lookup)
  let unique := addresses.flatten.dedup.mergeSort IpAddr.le
  if unique.isEmpty then
    .error ("VPN location " ++ server.label ++ " did not resolve to an address")
  else if Daemon.maxServerIps < unique.length then
    .error ("VPN location resolves to " ++ toString unique.length ++
      " addresses; the safe limit is " ++ toString Daemon.maxServerIps)
  else .ok unique

/-- A host that is an address already is not looked up. -/
def LooksUpLiterals (lookup : Lookup) : Prop :=
  ∀ host port address, parse host = some address → lookup host port = .ok [address]

theorem resolveServerIps_literal {urls : UrlParser} {lookup : Lookup} {server : VlessServer}
    {address : IpAddr} (looksUp : LooksUpLiterals lookup)
    (noProfile : server.rawProfile = none) (noOutbound : server.rawOutbound = none)
    (literal : parse server.host = some address) :
    resolveServerIps urls lookup server = .ok [address] := by
  have endpoints : serverEndpoints urls server = [server.endpoint] := by
    simp [serverEndpoints, sourceOutbounds, noProfile, noOutbound]
  have found : lookupEndpoint lookup server.endpoint = .ok [address] := by
    rw [lookupEndpoint, VlessServer.endpoint, looksUp _ _ _ literal]
    rfl
  have looked : [server.endpoint].mapM (lookupEndpoint lookup) = .ok [[address]] := by
    rw [List.mapM_cons, found]
    rfl
  have unique : [[address]].flatten.dedup.mergeSort IpAddr.le = [address] := by
    simp
  rw [resolveServerIps, endpoints, looked]
  change (if ([[address]].flatten.dedup.mergeSort IpAddr.le).isEmpty = true then _ else _) = _
  rw [unique]
  rfl

/-! ## Where an address is written -/

/-- The host of the URL is the address, in brackets. -/
def Url.HasLiteral (url : Url) (address : Ipv6Addr) : Prop :=
  ∃ literal, url.host = some ("[" ++ literal ++ "]") ∧ parse literal = some (.v6 address)

/-- A text or an outbound with an address in it. -/
inductive LiteralSource where
  | vless (uri : String)
  | trojan (uri : String)
  | shadowsocks (uri : String)
  | wireguard (outbound : Value)
  | dns (address : String)

namespace LiteralSource

/-- The address and the port are written there, as `[address]:port`. -/
def Writes (lib : Libraries) (address : Ipv6Addr) (port : Nat) : LiteralSource → Prop
  | vless uri | trojan uri => ∃ url, lib.urls.parse (trim uri) = some url ∧
      url.HasLiteral address ∧ url.port = some port
  | shadowsocks uri => ∃ endpoint : ShadowsocksEndpoint, ∃ variant query label,
      endpoint.host.bracketed = true ∧ parse endpoint.host.text = some (.v6 address) ∧
      endpoint.port = port ∧ (uri = endpoint.sip002Link variant false query label ∨
        uri = endpoint.legacyLink variant label)
  | wireguard outbound => outbound.getString "protocol" = some "wireguard" ∧
      ∃ settings peer endpoint url, outbound.get "settings" = some settings ∧
        (settings.getItems "peers").head? = some peer ∧
        peer.getString "endpoint" = some endpoint ∧
        lib.urls.parse ("tcp://" ++ endpoint) = some url ∧
        url.HasLiteral address ∧ url.port = some port
  | dns text => ∃ rest url, text = "https://" ++ rest ∧ lib.urls.parse text = some url ∧
      url.HasLiteral address

/-- The location that is read. -/
def server? (lib : Libraries) : LiteralSource → Option VlessServer
  | vless uri => (parseVless lib uri).toOption
  | trojan uri => (parseTrojan lib uri).toOption
  | shadowsocks uri => (parseShadowsocks lib uri).toOption
  | wireguard outbound => parseOutbound lib.urls outbound
  | dns _ => none

/-- A location that is read there has the literal for its host and resolves to the address
alone; a DNS server at a public address is kept, with the address for its pin. -/
def Reads (lib : Libraries) (lookup : Lookup) (address : Ipv6Addr) (port : Nat) :
    LiteralSource → Prop
  | dns text => isSafeRemoteDnsIp (.v6 address) = true →
      ∃ kept probe, safeRemoteDnsAddress lib.urls text = some (kept, [toText (.v6 address)], probe)
  | source => ∃ server, source.server? lib = some server ∧
      parse server.host = some (.v6 address) ∧ server.port = port ∧
      resolveServerIps lib.urls lookup server = .ok [.v6 address]

/-- Only Shadowsocks links are read without the brackets; of a DNS server that is not
public nothing is expected. -/
def keepsConvention (address : Ipv6Addr) : LiteralSource → Bool
  | shadowsocks _ => true
  | dns _ => !isSafeRemoteDnsIp (.v6 address)
  | _ => false

end LiteralSource

/-! ## Brackets that are kept -/

theorem parse_bracketed (literal : String) : parse ("[" ++ literal ++ "]") = none := by
  rw [parse, String.toList_append, String.toList_append]
  rfl

theorem parse_https (rest : String) : parse ("https://" ++ rest) = none := by
  rw [parse, String.toList_append]
  rfl

section Links

open Foundation.Checks

variable {lib : Libraries} {uri : String} {server : VlessServer}

theorem host_of_parseVless (parsed : parseVless lib uri = .ok server) :
    ∃ url, lib.urls.parse (trim uri) = some url ∧ url.host = some server.host := by
  rw [parseVless, bind_eq_ok] at parsed
  rcases parsed with ⟨url, linked, parsed⟩
  split at parsed
  next => cases parsed
  next =>
    rw [bind_eq_ok] at parsed
    rcases parsed with ⟨⟨host, port⟩, endpoint, parsed⟩
    rw [bind_eq_ok] at parsed
    rcases parsed with ⟨_, _, made⟩
    cases made
    exact ⟨url, parseLinkUrl_eq_ok linked, (urlEndpoint_eq_ok endpoint).1⟩

theorem host_of_parseTrojan (parsed : parseTrojan lib uri = .ok server) :
    ∃ url, lib.urls.parse (trim uri) = some url ∧ url.host = some server.host := by
  rw [parseTrojan, bind_eq_ok] at parsed
  rcases parsed with ⟨url, linked, parsed⟩
  dsimp only at parsed
  split at parsed
  next => cases parsed
  next =>
    rw [bind_eq_ok] at parsed
    rcases parsed with ⟨⟨host, port⟩, endpoint, made⟩
    cases made
    exact ⟨url, parseLinkUrl_eq_ok linked, (urlEndpoint_eq_ok endpoint).1⟩

theorem sourceless_of_parseShadowsocks (parsed : parseShadowsocks lib uri = .ok server) :
    server.rawProfile = none ∧ server.rawOutbound = none := by
  rw [parseShadowsocks_eq] at parsed
  rcases bind_eq_ok.1 parsed with ⟨parts, _, made⟩
  rw [shadowsocksServer] at made
  split at made
  next => cases made
  next =>
    split at made
    next => cases made
    next =>
      rcases bind_eq_ok.1 made with ⟨port, _, made⟩
      cases made
      exact ⟨rfl, rfl⟩

theorem host_of_wireguard {urls : UrlParser} {outbound settings peer : Value} {endpoint : String}
    (wireguard : outbound.getString "protocol" = some "wireguard")
    (given : outbound.get "settings" = some settings)
    (first : (settings.getItems "peers").head? = some peer)
    (named : peer.getString "endpoint" = some endpoint)
    (parsed : parseOutbound urls outbound = some server) :
    ∃ url, urls.parse ("tcp://" ++ endpoint) = some url ∧ url.host = some server.host := by
  rcases (parseOutbound_iff.1 ⟨server, parsed, rfl⟩).leads with
    ⟨protocol, other, isProtocol, otherGiven, leads⟩
  rw [wireguard, Option.some.injEq] at isProtocol
  rw [given, Option.some.injEq] at otherGiven
  subst isProtocol otherGiven
  cases leads with
  | entry lead => simp [leadEntry] at lead
  | peer _ otherFirst _ listed =>
      rw [first, Option.some.injEq] at otherFirst
      subst otherFirst
      rw [peerEndpoint, named, Option.bind_some, endpointHostPort] at listed
      rcases Option.bind_eq_some_iff.1 listed with ⟨url, found, listed⟩
      rcases Option.bind_eq_some_iff.1 listed with ⟨host, isHost, listed⟩
      rcases Option.bind_eq_some_iff.1 listed with ⟨port, _, same⟩
      refine ⟨url, found, isHost.trans ?_⟩
      exact congrArg some (congrArg Prod.fst (Option.some.inj same))

end Links

/-! ## Which sources keep to the literal -/

/-- The host of a URL with the address is not the address. -/
theorem Url.HasLiteral.unread {url : Url} {address : Ipv6Addr} (literal : url.HasLiteral address)
    {host : String} (isHost : url.host = some host) : parse host = none := by
  rcases literal with ⟨text, bracketed, _⟩
  rw [bracketed, Option.some.injEq] at isHost
  rw [← isHost, parse_bracketed]

theorem safeRemoteDnsAddress_literal {urls : UrlParser} {rest : String} {url : Url}
    {address : Ipv6Addr} (found : urls.parse ("https://" ++ rest) = some url)
    (literal : url.HasLiteral address) : safeRemoteDnsAddress urls ("https://" ++ rest) = none := by
  have unread : url.host.bind parse = none := by
    cases isHost : url.host with
    | none => rfl
    | some host => exact literal.unread isHost
  rw [safeRemoteDnsAddress, parse_https, found]
  simp [unread]

section Sources

variable {lib : Libraries} {lookup : Lookup} {address : Ipv6Addr} {port : Nat}

/-- The host of a link is that of its URL. -/
theorem unread_of_url {parsed : Option VlessServer} {found : Option Url} {url : Url}
    (hosted : ∀ server, parsed = some server →
      ∃ url, found = some url ∧ url.host = some server.host)
    (isUrl : found = some url) (literal : url.HasLiteral address) :
    ¬∃ server, parsed = some server ∧ parse server.host = some (.v6 address) ∧
      server.port = port ∧ resolveServerIps lib.urls lookup server = .ok [.v6 address] := by
  rintro ⟨server, made, read, _⟩
  rcases hosted server made with ⟨other, otherFound, isHost⟩
  rw [isUrl, Option.some.injEq] at otherFound
  subst otherFound
  rw [literal.unread isHost] at read
  cases read

theorem toOption_eq_some {ε α : Type} {result : Except ε α} {value : α}
    (converted : result.toOption = some value) : result = .ok value := by
  cases result with
  | error error => cases converted
  | ok found => exact congrArg Except.ok (Option.some.inj converted)

theorem shadowsocks_reads (looksUp : LooksUpLiterals lookup) {uri : String}
    {endpoint : ShadowsocksEndpoint} (literal : parse endpoint.host.text = some (.v6 address))
    (parsed : endpoint.ParsedFrom lib uri) :
    (LiteralSource.shadowsocks uri).Reads lib lookup address endpoint.port := by
  rcases parsed with ⟨server, parsed, _, _, host, isPort⟩
  rw [← host] at literal
  rcases sourceless_of_parseShadowsocks parsed with ⟨noProfile, noOutbound⟩
  exact ⟨server, by rw [LiteralSource.server?, parsed]; rfl, literal, isPort,
    resolveServerIps_literal looksUp noProfile noOutbound literal⟩

/-- An address is read as it is written from Shadowsocks links, and from nothing else. -/
theorem literal_read_iff (decodes : lib.DecodesBase64) (looksUp : LooksUpLiterals lookup)
    {source : LiteralSource} (writes : source.Writes lib address port) :
    source.Reads lib lookup address port ↔ source.keepsConvention address = true := by
  cases source with
  | vless uri =>
      rcases writes with ⟨url, found, literal, _⟩
      refine iff_of_false (unread_of_url (fun server parsed => ?_) found literal) Bool.false_ne_true
      exact host_of_parseVless (toOption_eq_some parsed)
  | trojan uri =>
      rcases writes with ⟨url, found, literal, _⟩
      refine iff_of_false (unread_of_url (fun server parsed => ?_) found literal) Bool.false_ne_true
      exact host_of_parseTrojan (toOption_eq_some parsed)
  | shadowsocks uri =>
      rcases writes with ⟨endpoint, variant, query, label, _, literal, rfl, rfl | rfl⟩
      · exact iff_of_true (shadowsocks_reads looksUp literal
          ((parsedFrom_sip002Link decodes variant false query label).2 rfl)) rfl
      · exact iff_of_true (shadowsocks_reads looksUp literal
          (parsedFrom_legacyLink decodes variant label)) rfl
  | wireguard outbound =>
      rcases writes with ⟨wireguard, settings, peer, endpoint, url, given, first, named, found,
        literal, _⟩
      refine iff_of_false (unread_of_url (fun server parsed => ?_) found literal) Bool.false_ne_true
      exact host_of_wireguard wireguard given first named parsed
  | dns text =>
      rcases writes with ⟨rest, url, rfl, found, literal⟩
      have dropped := safeRemoteDnsAddress_literal found literal
      simp [LiteralSource.Reads, LiteralSource.keepsConvention, dropped]

end Sources

/-- A resolver that knows nothing but literals. -/
def literalLookup : Lookup := fun host _ =>
  match parse host with
  | some address => .ok [address]
  | none => .error "failed to lookup address information: Name or service not known"

theorem looksUpLiterals_literalLookup : LooksUpLiterals literalLookup := by
  intro host port address literal
  rw [literalLookup, literal]

def sampleAddress : Ipv6Addr := ⟨0x2001, 0xdb8, 0, 0, 0, 0, 0, 1⟩

theorem shadowsocks_literal_read :
    (LiteralSource.shadowsocks (sampleEndpoint.legacyLink ⟨false, true⟩ none)).Reads
      (.ofTables (.ofPlain []) []) literalLookup sampleAddress 443 := by
  have writes : (LiteralSource.shadowsocks (sampleEndpoint.legacyLink ⟨false, true⟩ none)).Writes
      (.ofTables (.ofPlain []) []) sampleAddress 443 :=
    ⟨sampleEndpoint, ⟨false, true⟩, none, none, rfl, parse_toText _, rfl, .inr rfl⟩
  exact (literal_read_iff (decodesBase64_ofTables _ _) looksUpLiterals_literalLookup writes).2 rfl

/-- A link to the address as it is read. -/
def literalUrl : Url where
  scheme := "vless"
  username := "u"
  password := none
  fragment := none
  host := some "[2001:db8::1]"
  port := some 443
  queryPairs := []
  text := "vless://u@[2001:db8::1]:443"

def literalLibraries : Libraries :=
  .ofTables (.ofTable [(literalUrl.text, literalUrl)] (by decide)) []

theorem vless_literal_unread :
    let source := LiteralSource.vless "vless://u@[2001:db8::1]:443"
    source.Writes literalLibraries sampleAddress 443 ∧
      ((source.server? literalLibraries).map (·.host)) = some "[2001:db8::1]" ∧
      ¬source.Reads literalLibraries literalLookup sampleAddress 443 := by
  have found : literalLibraries.urls.parse (trim "vless://u@[2001:db8::1]:443") =
      some literalUrl := by
    decide
  have literal : literalUrl.HasLiteral sampleAddress :=
    ⟨"2001:db8::1", by decide, by decide⟩
  refine ⟨⟨literalUrl, found, literal, rfl⟩, by decide, ?_⟩
  refine unread_of_url (fun server parsed => ?_) found literal
  exact host_of_parseVless (toOption_eq_some parsed)

end Varmlen.Core
