import Varmlen.Core.Config

/-!
# Pinned DNS upstreams

The rule that keeps DNS inside the tunnel is built from the plan's upstream
addresses.  It covers a server only if every address that Xray may dial for it is
among them: the literal address of the entry, or all that the config's hosts list
for its host name.  The pins of a provider's host name come from the first key it
is found under and from the safe addresses there, while the config keeps all of
the provider's hosts; this is where the two can part.
-/

namespace Varmlen.Core

open Foundation.Ip Foundation.Json Foundation.Text

/-! ## What Xray may dial -/

/-- The host without the brackets of an IPv6 literal. -/
def unbracketed (host : String) : String :=
  match host.toList with
  | '[' :: rest =>
      if rest.getLast? = some ']' then String.ofList rest.dropLast else host
  | _ => host

/-- The address that the host of a URL stands for, if it is a literal. -/
def hostLiteral (host : String) : Option IpAddr :=
  match parse host with
  | some address => some address
  | none => parse (unbracketed host)

/-- The addresses among the texts that are listed under a key. -/
def listedUnder (hosts : Object) (key : String) : List String :=
  ((hostTexts (hosts.get key)).filterMap parse).map toText

/-- All addresses listed for a host name, under any of its keys. -/
def listedIps (hosts : Object) (hostname : String) : List String :=
  (hostKeys hostname).flatMap (listedUnder hosts)

/-- The addresses dialled for the host of a URL. -/
def hostIps (hosts : Object) (host : String) : List String :=
  match hostLiteral host with
  | some address => [toText address]
  | none => listedIps hosts host

section Pins

variable (urls : UrlParser) (server : VlessServer)

/-- The addresses dialled for a server given as a text. -/
def addressIps (hosts : Object) (address : String) : List String :=
  match parse address with
  | some literal => [toText literal]
  | none => (((urls.parse address).bind Url.host).map (hostIps hosts)).getD []

/-- The addresses of the profile's DNS servers. -/
def providerDnsAddresses : List String :=
  (((server.profileSection "dns").map (·.getItems "servers")).getD []).filterMap entryAddress

/-- The host name of a server that is kept for the addresses listed for it. -/
def bootstrapHost (raw : String) : Option String :=
  match safeRemoteDnsAddress urls raw with
  | some _ => none
  | none =>
      (((urls.parse raw).filter isPlainUrl).bind Url.host).filter fun hostname =>
        !(providerDnsHostIps server hostname).isEmpty

/-- The profile pins an address: as the literal of one of its servers, or as a safe
address under the first key of a server's host name. -/
def PinnedBy (ip : String) : Prop :=
  ∃ raw ∈ providerDnsAddresses server,
    (∃ address probeUrl, safeRemoteDnsAddress urls raw = some (address, [ip], probeUrl)) ∨
    ∃ hostname, bootstrapHost urls server raw = some hostname ∧
      ip ∈ providerDnsHostIps server hostname

end Pins

/-! ## Kept addresses -/

section Kept

variable {urls : UrlParser} {server : VlessServer}

/-- A kept URL cannot be taken for an address: its scheme starts with a letter that
is no hexadecimal digit. -/
theorem parse_plainUrl {raw : String} {url : Url} (parsed : urls.parse raw = some url)
    (plain : isPlainUrl url = true) : parse url.text = none := by
  rcases urls.startsWithScheme parsed with ⟨rest, text⟩
  have scheme : url.scheme ∈ ["https", "tls", "tcp", "quic"] := by
    simp only [isPlainUrl, Bool.and_eq_true, List.contains_iff_mem] at plain
    exact plain.1.1.1
  simp only [List.mem_cons, List.not_mem_nil, or_false] at scheme
  rw [parse, text]
  rcases scheme with https | tls | tcp | quic
  · rw [https]
    rfl
  · rw [tls]
    rfl
  · rw [tcp]
    rfl
  · rw [quic]
    rfl

/-- What is dialled for a kept URL depends on its host. -/
theorem addressIps_plainUrl {raw host : String} {url : Url} (hosts : Object)
    (parsed : urls.parse raw = some url) (plain : isPlainUrl url = true)
    (named : url.host = some host) :
    addressIps urls hosts url.text = hostIps hosts host := by
  rw [addressIps, parse_plainUrl parsed plain, urls.reparse parsed]
  simp [named]

theorem hostIps_literal {host : String} {address : IpAddr} (hosts : Object)
    (literal : parse host = some address) : hostIps hosts host = [toText address] := by
  simp [hostIps, hostLiteral, literal]

/-- A server that is kept for its literal address is dialled there. -/
theorem safeRemoteDnsAddress_eq_some {raw address : String} {ips : List String}
    {probeUrl : Option String}
    (kept : safeRemoteDnsAddress urls raw = some (address, ips, probeUrl)) :
    ∃ literal, isSafeRemoteDnsIp literal = true ∧ ips = [toText literal] ∧
      ∀ hosts, addressIps urls hosts address = [toText literal] := by
  rw [safeRemoteDnsAddress] at kept
  split at kept
  next literal parsed =>
    split at kept
    next safe =>
      cases kept
      exact ⟨literal, safe, rfl, fun hosts => by simp [addressIps, parsed]⟩
    next => cases kept
  next =>
    split at kept
    next => cases kept
    next url parsed =>
      split at kept
      next => cases kept
      next plain =>
        split at kept
        next => cases kept
        next literal found =>
          split at kept
          next safe =>
            cases kept
            rcases Option.bind_eq_some_iff.1 found with ⟨host, named, literalHost⟩
            refine ⟨literal, safe, rfl, fun hosts => ?_⟩
            rw [addressIps_plainUrl hosts parsed (by simpa using plain) named,
              hostIps_literal hosts literalHost]
          next => cases kept

/-- A server that is kept for the hosts is dialled at what they list. -/
theorem safeProviderDnsAddress_eq_some {raw address : String} {ips : List String}
    {probeUrl : Option String}
    (kept : safeProviderDnsAddress urls server raw = some (address, ips, probeUrl)) :
    safeRemoteDnsAddress urls raw = some (address, ips, probeUrl) ∨
      ∃ hostname, bootstrapHost urls server raw = some hostname ∧
        ips = providerDnsHostIps server hostname ∧
        ∀ hosts, addressIps urls hosts address = hostIps hosts hostname := by
  rw [safeProviderDnsAddress] at kept
  split at kept
  next remote =>
    cases kept
    exact .inl remote
  next notRemote =>
    right
    split at kept
    next => cases kept
    next url parsed =>
      split at kept
      next => cases kept
      next plain =>
        split at kept
        next => cases kept
        next hostname named =>
          dsimp only at kept
          split at kept
          next => cases kept
          next listed =>
            cases kept
            simp only [Bool.not_eq_true, Bool.not_eq_false'] at plain
            refine ⟨hostname, ?_, rfl, ?_⟩
            · simp [bootstrapHost, notRemote, parsed, Option.filter, plain, named, listed]
            · intro hosts
              exact addressIps_plainUrl hosts parsed plain named

/-- A host name that has addresses makes its server kept, to be dialled at what the
hosts list. -/
theorem safeProviderDnsAddress_of_bootstrapHost {raw hostname : String}
    (bootstrap : bootstrapHost urls server raw = some hostname) :
    ∃ address probeUrl,
      safeProviderDnsAddress urls server raw =
        some (address, providerDnsHostIps server hostname, probeUrl) ∧
      ∀ hosts, addressIps urls hosts address = hostIps hosts hostname := by
  rw [bootstrapHost] at bootstrap
  split at bootstrap
  next => cases bootstrap
  next notRemote =>
    rw [Option.filter_eq_some_iff, Option.bind_eq_some_iff] at bootstrap
    rcases bootstrap with ⟨⟨url, parsed, named⟩, listed⟩
    rw [Option.filter_eq_some_iff] at parsed
    simp only [safeProviderDnsAddress, notRemote, parsed.1, parsed.2, named]
    refine ⟨url.text, if url.scheme = "https" then some url.text else none, ?_, ?_⟩
    · rw [if_neg (by simp), if_neg (by simpa using listed), keptUrl]
    · intro hosts
      exact addressIps_plainUrl hosts parsed.1 parsed.2 named

/-- What the plan pins when it keeps a provider's servers. -/
theorem pinnedBy_iff {ip : String} :
    PinnedBy urls server ip ↔ ∃ raw ∈ providerDnsAddresses server, ∃ address,
      safeProviderDnsAddress urls server raw = some address ∧ ip ∈ address.2.1 := by
  constructor
  · rintro ⟨raw, member, ⟨address, probeUrl, remote⟩ | ⟨hostname, bootstrap, listed⟩⟩
    · exact ⟨raw, member, (address, [ip], probeUrl), by simp [safeProviderDnsAddress, remote]⟩
    · rcases safeProviderDnsAddress_of_bootstrapHost bootstrap with ⟨address, probeUrl, kept, _⟩
      exact ⟨raw, member, _, kept, listed⟩
  · rintro ⟨raw, member, ⟨address, ips, probeUrl⟩, kept, listed⟩
    refine ⟨raw, member, ?_⟩
    rcases safeProviderDnsAddress_eq_some kept with remote | ⟨hostname, bootstrap, rfl, _⟩
    · rcases safeRemoteDnsAddress_eq_some remote with ⟨literal, _, rfl, _⟩
      rcases List.mem_singleton.1 listed with rfl
      exact .inl ⟨address, probeUrl, remote⟩
    · exact .inr ⟨hostname, bootstrap, listed⟩

theorem entryAddress_withAddress {entry : Value} {raw : String} (address : String)
    (given : entryAddress entry = some raw) :
    entryAddress (withAddress entry address) = some address := by
  cases entry with
  | string text => rfl
  | object fields => simp [withAddress, entryAddress, Value.asString]
  | _ => cases given

theorem mem_safeProviderDnsServers {kept : DnsServer} :
    kept ∈ safeProviderDnsServers urls server ↔
      ∃ entry ∈ ((server.profileSection "dns").map (·.getItems "servers")).getD [],
        safeProviderDnsServer urls server entry = some kept := by
  rw [safeProviderDnsServers]
  cases found : server.profileSection "dns" with
  | none => simp
  | some dns =>
      cases listed : dns.get "servers" with
      | none => simp [Value.getItems, listed]
      | some servers => cases servers <;> simp [Value.getItems, listed, Value.asArray]

/-- A kept server comes from an address of the profile. -/
theorem address_of_kept {kept : DnsServer}
    (member : kept ∈ safeProviderDnsServers urls server) :
    ∃ raw ∈ providerDnsAddresses server, ∃ address,
      safeProviderDnsAddress urls server raw = some address ∧
      entryAddress kept.entry = some address.1 ∧ kept.ips = address.2.1 := by
  rcases mem_safeProviderDnsServers.1 member with ⟨entry, listed, found⟩
  rw [safeProviderDnsServer] at found
  split at found
  next => cases found
  next address ips probeUrl safe =>
    cases found
    rcases Option.bind_eq_some_iff.1 safe with ⟨raw, given, safe⟩
    exact ⟨raw, List.mem_filterMap.2 ⟨entry, listed, given⟩, _, safe,
      entryAddress_withAddress address given, rfl⟩

/-- An address of the profile that is safe gives a kept server. -/
theorem kept_of_address {raw : String} {address : SafeAddress}
    (member : raw ∈ providerDnsAddresses server)
    (safe : safeProviderDnsAddress urls server raw = some address) :
    ∃ kept ∈ safeProviderDnsServers urls server,
      entryAddress kept.entry = some address.1 ∧ kept.ips = address.2.1 := by
  rcases List.mem_filterMap.1 member with ⟨entry, listed, given⟩
  refine ⟨⟨withAddress entry address.1, address.2.1, address.2.2⟩, ?_,
    entryAddress_withAddress address.1 given, rfl⟩
  exact mem_safeProviderDnsServers.2 ⟨entry, listed, by
    simp [safeProviderDnsServer, given, safe]⟩

/-- The addresses of the kept servers are what the profile pins. -/
theorem mem_keptIps_iff {ip : String} :
    ip ∈ (safeProviderDnsServers urls server).flatMap DnsServer.ips ↔
      PinnedBy urls server ip := by
  rw [List.mem_flatMap, pinnedBy_iff]
  constructor
  · rintro ⟨kept, member, listed⟩
    rcases address_of_kept member with ⟨raw, given, address, safe, _, ips⟩
    exact ⟨raw, given, address, safe, ips ▸ listed⟩
  · rintro ⟨raw, given, address, safe, listed⟩
    rcases kept_of_address given safe with ⟨kept, member, _, ips⟩
    exact ⟨kept, member, ips ▸ listed⟩

end Kept

/-! ## The generated section -/

section Plan

variable (urls : UrlParser) (server : VlessServer)

/-- The servers a plan is built for. -/
def planServers : List DnsServer :=
  if (safeProviderDnsServers urls server).isEmpty then defaultDnsServers
  else safeProviderDnsServers urls server

theorem servers_buildDnsPlan :
    (Value.object (buildDnsPlan urls server).config).getItems "servers" =
      (planServers urls server).map DnsServer.entry := by
  simp [buildDnsPlan, planServers, Value.getItems, Object.get_orInsert, Object.get_insert,
    Value.asArray]

theorem upstreamIps_buildDnsPlan :
    (buildDnsPlan urls server).upstreamIps =
      sortDedup ((planServers urls server).flatMap DnsServer.ips) := rfl

theorem hosts_buildDnsPlan :
    objectField (buildDnsPlan urls server).config "hosts" =
      configHosts (safeProviderDnsServers urls server).isEmpty
        ((profileHosts server).getD []) := by
  have provider : ((((server.profileSection "dns").bind Value.asObject).getD []).get
      "hosts").bind Value.asObject = profileHosts server := by
    rw [profileHosts]
    cases server.profileSection "dns" with
    | none => rfl
    | some dns => cases dns <;> rfl
  simp [buildDnsPlan, objectField, Object.get_orInsert, Object.get_insert,
    Object.get_remove, Value.asObject, provider]

end Plan

end Varmlen.Core
