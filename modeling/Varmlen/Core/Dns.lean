import Varmlen.Core.Plan

/-!
# The DNS plan

The DNS section of a config, the addresses its servers are dialled at, and the
URLs a probe may use (`core/src/xray.rs`).  A provider's servers are kept when
they can be reached without the host's resolver; when none is, two DoH servers
with fixed addresses take their place.
-/

namespace Varmlen.Core

open Foundation.Ip Foundation.Json Foundation.Text

structure DnsPlan where
  config : Object
  upstreamIps : List String
  probeUrls : List String

/-- A DNS server that is kept: its entry in the config, the addresses it is dialled
at, and a URL to probe it with. -/
structure DnsServer where
  entry : Value
  ips : List String
  probeUrl : Option String

def defaultDohServers : List (String × List String) :=
  [("https://cloudflare-dns.com/dns-query", ["1.1.1.1", "1.0.0.1"]),
    ("https://dns.google/dns-query", ["8.8.8.8", "8.8.4.4"])]

/-- The host names in the default servers' URLs, with the same addresses. -/
def defaultDohHosts : List (String × List String) :=
  [("cloudflare-dns.com", ["1.1.1.1", "1.0.0.1"]), ("dns.google", ["8.8.8.8", "8.8.4.4"])]

/-- Put a text in its place in a sorted list, unless it is there. -/
def insertUnique (text : String) : List String → List String
  | [] => [text]
  | head :: rest =>
      if text = head then head :: rest
      else if text < head then text :: head :: rest
      else head :: insertUnique text rest

/-- Sort and drop repetitions. -/
def sortDedup (texts : List String) : List String := texts.foldr insertUnique []

theorem mem_insertUnique {text wanted : String} {texts : List String} :
    wanted ∈ insertUnique text texts ↔ wanted = text ∨ wanted ∈ texts := by
  induction texts with
  | nil => simp [insertUnique]
  | cons head rest ih =>
      rw [insertUnique]
      split
      next same => simp [same]
      next =>
        split
        next => simp
        next => simp [ih, or_left_comm]

@[simp] theorem mem_sortDedup {wanted : String} {texts : List String} :
    wanted ∈ sortDedup texts ↔ wanted ∈ texts := by
  induction texts with
  | nil => simp [sortDedup]
  | cons head rest ih =>
      rw [sortDedup] at ih ⊢
      rw [List.foldr_cons, mem_insertUnique, ih, List.mem_cons]

/-- Provider hosts listed under a key: one text or a list of texts. -/
def hostTexts : Option Value → List String
  | some (.string text) => [text]
  | some (.array items) => items.filterMap Value.asString
  | _ => []

/-- The keys a host name is looked up under, in order. -/
def hostKeys (hostname : String) : List String :=
  [hostname, "full:" ++ hostname, "domain:" ++ hostname]

section Provider

variable (urls : UrlParser) (server : VlessServer)

/-- A URL whose server can be forced through the proxy. -/
def isPlainUrl (url : Url) : Bool :=
  ["https", "tls", "tcp", "quic"].contains url.scheme && url.username == "" &&
    url.password.isNone && url.fragment.isNone

/-- A kept server's address, the addresses it is dialled at, and its probe URL. -/
abbrev SafeAddress := String × List String × Option String

/-- The parts of a kept URL, once the addresses it is dialled at are known. -/
def keptUrl (url : Url) (ips : List String) : SafeAddress :=
  (url.text, ips, if url.scheme = "https" then some url.text else none)

def safeRemoteDnsAddress (raw : String) : Option SafeAddress :=
  match parse raw with
  | some address =>
      if isSafeRemoteDnsIp address then some (raw, [toText address], none) else none
  | none =>
      match urls.parse raw with
      | none => none
      | some url =>
          if !isPlainUrl url then none
          else
            match url.host.bind parse with
            | none => none
            | some address =>
                if isSafeRemoteDnsIp address then some (keptUrl url [toText address])
                else none

/-- The hosts of the provider's DNS section. -/
def profileHosts : Option Object :=
  ((server.profileSection "dns").bind (·.get "hosts")).bind Value.asObject

/-- The safe addresses a host name has under the first of its keys. -/
def providerDnsHostIps (hostname : String) : List String :=
  match profileHosts server with
  | none => []
  | some hosts =>
      let value := (hostKeys hostname).findSome? hosts.get
      sortDedup
        ((((hostTexts value).filterMap parse).filter isSafeRemoteDnsIp).map toText)

def safeProviderDnsAddress (raw : String) : Option SafeAddress :=
  match safeRemoteDnsAddress urls raw with
  | some address => some address
  | none =>
      match urls.parse raw with
      | none => none
      | some url =>
          if !isPlainUrl url then none
          else
            match url.host with
            | none => none
            | some hostname =>
                let ips := providerDnsHostIps server hostname
                if ips.isEmpty then none else some (keptUrl url ips)

/-- The address of a server entry, a text or the field of an object. -/
def entryAddress : Value → Option String
  | .string address => some address
  | .object fields => (Object.get fields "address").bind Value.asString
  | _ => none

/-- The entry with its address replaced. -/
def withAddress (entry : Value) (address : String) : Value :=
  match entry with
  | .object fields => .object (Object.insert fields "address" (.string address))
  | _ => .string address

/-- A provider's entry, if it is kept. -/
def safeProviderDnsServer (entry : Value) : Option DnsServer :=
  match (entryAddress entry).bind (safeProviderDnsAddress urls server) with
  | none => none
  | some (address, ips, probeUrl) => some ⟨withAddress entry address, ips, probeUrl⟩

def safeProviderDnsServers : List DnsServer :=
  match (server.profileSection "dns").bind (·.get "servers") with
  | some (.array entries) => entries.filterMap (safeProviderDnsServer urls server)
  | _ => []

/-- The default servers. -/
def defaultDnsServers : List DnsServer :=
  defaultDohServers.map fun (url, ips) => ⟨.string url, ips, some url⟩

/-- The query strategies Xray knows. -/
def queryStrategies : List String :=
  ["UseIP", "UseIPv4", "UseIPv6", "UseIPv4v6", "UseIPv6v4"]

/-- The hosts of the config: the provider's, with the default servers' addresses
where they are needed and not overridden. -/
def configHosts (usingDefaults : Bool) (hosts : Object) : Object :=
  let hosts :=
    if usingDefaults then
      defaultDohHosts.foldl (fun hosts (hostname, ips) =>
        hosts.orInsert hostname (.strings ips)) hosts
    else hosts
  hosts.orInsert "domain:googleapis.cn" (.string "googleapis.com")

def buildDnsPlan : DnsPlan :=
  let kept := safeProviderDnsServers urls server
  let usingDefaults := kept.isEmpty
  let servers := if usingDefaults then defaultDnsServers else kept
  let queryStrategy :=
    (((server.profileSection "dns").bind (·.getString "queryStrategy")).filter
      (queryStrategies.contains ·)).getD "UseIPv4"
  let config := ((server.profileSection "dns").bind Value.asObject).getD []
  let config := config.remove "clientIp"
  let config := config.insert "servers" (.array (servers.map DnsServer.entry))
  let config := config.insert "queryStrategy" (.string queryStrategy)
  let hosts := configHosts usingDefaults (objectField config "hosts")
  let config := config.insert "hosts" (.object hosts)
  let config := config.orInsert "enableParallelQuery" (.bool true)
  { config
    upstreamIps := sortDedup (servers.flatMap DnsServer.ips)
    probeUrls := servers.filterMap DnsServer.probeUrl }

end Provider

end Varmlen.Core
