import Varmlen.Core.DnsPins
import Varmlen.Core.Rules

/-!
# The route of DNS upstreams

Xray's own DNS module dials the upstreams without an inbound of the tunnel, without
a process and without a domain, so of the rules before the pin only the LAN rule and
the provider's can match.  The LAN rule covers an upstream that is an IPv4-mapped
private address; a provider's rule is kept wherever it sends the upstream.
-/

namespace Varmlen.Core

open Foundation.Ip Foundation.Json

/-- A connection that Xray's DNS module opens itself, in a config whose data inbound
has the tag. -/
structure Connection.FromDnsModule (connection : Connection) (inboundTag : String) : Prop where
  notData : connection.inboundTag ≠ some inboundTag
  noProcess : connection.process = none
  noDomain : connection.domain = none

theorem toText_injective {left right : IpAddr} (same : toText left = toText right) :
    left = right := by
  have read := congrArg parse same
  rw [parse_toText, parse_toText] at read
  exact Option.some.inj read

section Upstreams

variable {urls : UrlParser} {server : VlessServer}

theorem safe_of_providerDnsHostIps {hostname : String} {address : IpAddr}
    (member : toText address ∈ providerDnsHostIps server hostname) :
    isSafeRemoteDnsIp address = true := by
  rw [providerDnsHostIps] at member
  split at member
  next => cases member
  next =>
    rw [mem_sortDedup, List.mem_map] at member
    rcases member with ⟨other, listed, same⟩
    rw [← toText_injective same]
    exact (List.mem_filter.1 listed).2

/-- Only safe addresses are pinned. -/
theorem safe_of_upstream {address : IpAddr}
    (upstream : toText address ∈ (buildDnsPlan urls server).upstreamIps) :
    isSafeRemoteDnsIp address = true := by
  rw [upstreamIps_buildDnsPlan, mem_sortDedup, planServers] at upstream
  split at upstream
  next =>
    have allSafe : ∀ text ∈ defaultDnsServers.flatMap DnsServer.ips,
        (parse text).all isSafeRemoteDnsIp = true := by decide
    simpa using allSafe _ upstream
  next =>
    rcases mem_keptIps_iff.1 upstream with ⟨raw, _, ⟨_, _, remote⟩ | ⟨hostname, _, listed⟩⟩
    · rcases safeRemoteDnsAddress_eq_some remote with ⟨literal, safe, same, _⟩
      rwa [toText_injective (List.singleton_inj.1 same)]
    · exact safe_of_providerDnsHostIps listed

end Upstreams

/-- The pin rule matches every connection to an upstream. -/
theorem matchedBy_pinRule {connection : Connection} {target : ProxyTarget}
    {upstreamIps : List String} (upstream : toText connection.ip ∈ upstreamIps) :
    connection.matchedBy (pinRule target upstreamIps) = true := by
  rw [pinRule, connection.matchedBy_apply, connection.matchedBy_ip, Bool.or_eq_true,
    List.any_eq_true]
  right
  refine ⟨_, upstream, ?_⟩
  rw [blockCovers, Cidr.parse_toText]
  exact Cidr.contains_self _ _

/-- The first rule of the profile that is kept and matches the connection. -/
def firstKeptRule (server : VlessServer) (plan : OutboundPlan) (connection : Connection) :
    Option Value :=
  (profileRules server).find? fun rule =>
    keepsRule (tagsOf plan.proxies) (tagsOf (balancerItems plan.balancers)) rule &&
      connection.matchedBy rule

section Route

variable {urls : UrlParser} {parseJson : JsonParser} {order : HashOrder}
  {server : VlessServer} {options : TunnelOptions} {plan : OutboundPlan} {config : Value}
  {connection : Connection}

/-- The rules send a connection of the DNS module to the LAN rule, else to the first
provider's rule that matches, else to the pin. -/
theorem route_dnsModule
    (internal : connection.FromDnsModule
      (effectiveTun options.mode options.tun).inboundTag)
    (upstream : toText connection.ip ∈ (buildDnsPlan urls server).upstreamIps) :
    (tunnelRules options plan (buildDnsPlan urls server)).find? connection.matchedBy =
      if options.allowLan = true ∧ isLocal connection.ip = true then some lanRule
      else some ((plan.providerRules.find? connection.matchedBy).getD
        (pinRule plan.target (buildDnsPlan urls server).upstreamIps)) := by
  have leading := @find?_leadingRules connection options.split options.allowLan
    (effectiveTun options.mode options.tun).inboundTag
    (effectiveTun options.mode options.tun) plan.target
    (fun hijacked => internal.notData hijacked.1) internal.noProcess internal.noDomain
  rw [tunnelRules, buildRouteRules, List.find?_append, List.find?_append, leading]
  split
  next => rfl
  next =>
    cases plan.providerRules.find? connection.matchedBy with
    | some rule => rfl
    | none => simp [List.find?, matchedBy_pinRule upstream]

/-- The LAN rule stays away from an upstream unless that is an IPv4-mapped private
address. -/
theorem lanRule_avoids_iff
    (upstream : toText connection.ip ∈ (buildDnsPlan urls server).upstreamIps) :
    ¬ (options.allowLan = true ∧ isLocal connection.ip = true) ↔
      (options.allowLan = true → ∀ wrapped inner, connection.ip = .v6 wrapped →
        wrapped.toIpv4Mapped = some inner → isLocal (.v4 inner) = false) := by
  rw [not_and, isLocal_iff_of_safe (safe_of_upstream upstream)]
  apply forall_congr'
  intro _
  constructor
  · intro unmapped wrapped inner same mapped
    apply Bool.eq_false_iff.2
    intro isPrivate
    exact unmapped ⟨wrapped, inner, same, mapped, isPrivate⟩
  · rintro avoids ⟨wrapped, inner, same, mapped, isPrivate⟩
    rw [avoids wrapped inner same mapped] at isPrivate
    cases isPrivate

/-- A connection of the DNS module to an upstream goes to the proxy target exactly when
the LAN rule does not cover the upstream, which it only does when that is an
IPv4-mapped private address, and the first kept rule of the profile that matches
the connection, if there is one, sends it there too. -/
theorem dns_upstream_route_iff
    (planned : outboundPlan parseJson order server = .ok plan)
    (built : buildXrayConfig urls parseJson order server options = .ok config)
    (internal : connection.FromDnsModule
      (effectiveTun options.mode options.tun).inboundTag)
    (upstream : toText connection.ip ∈ (buildDnsPlan urls server).upstreamIps) :
    (route (configRules config) connection = some plan.target ∧
      plan.target ≠ .outbound "direct" ∧ plan.target ≠ .outbound "block") ↔
    (options.allowLan = true → ∀ wrapped inner, connection.ip = .v6 wrapped →
      wrapped.toIpv4Mapped = some inner → isLocal (.v4 inner) = false) ∧
    ∀ rule, firstKeptRule server plan connection = some rule →
      ruleTarget rule = some plan.target := by
  rcases outboundPlan_eq_ok planned with ⟨rule, retained⟩
  rcases planRule_target_free rule with ⟨named, free⟩
  have notDirect : plan.target ≠ .outbound "direct" := free "direct" (by decide)
  have notBlock : plan.target ≠ .outbound "block" := free "block" (by decide)
  have kept : plan.providerRules.find? connection.matchedBy =
      firstKeptRule server plan connection := by
    simp [retained, safeProviderRouteRules, List.find?_filter, firstKeptRule]
  rw [buildXrayConfig, planned] at built
  cases built
  rw [← lanRule_avoids_iff upstream, configRules_tunnelConfig, route,
    route_dnsModule internal upstream, kept]
  by_cases lan : options.allowLan = true ∧ isLocal connection.ip = true
  · have direct : some (.outbound "direct") ≠ some plan.target :=
      fun same => notDirect (Option.some.inj same).symm
    simp [lan, ruleTarget_lanRule, direct]
  · have pinned : ruleTarget (pinRule plan.target (buildDnsPlan urls server).upstreamIps) =
        some plan.target := ruleTarget_apply named (by decide)
    rw [if_neg lan]
    cases firstKeptRule server plan connection with
    | none => simp [lan, pinned, notDirect, notBlock]
    | some first => simp [lan, notDirect, notBlock]

end Route

/-- A profile with one proxy, the DNS server 8.8.8.8 and the given rules. -/
def publicDnsProfile (rules : List Value) : Value :=
  .ofFields
    [("outbounds", .array
      [.ofFields [("tag", .string "proxy"), ("protocol", .string "vless")]]),
      ("dns", .ofFields [("servers", .strings ["8.8.8.8"])]),
      ("routing", .ofFields [("rules", .array rules)])]

/-- A query of the DNS module. -/
def dnsQuery (ip : IpAddr) : Connection where
  inboundTag := none
  process := none
  domain := none
  network := .udp
  ip
  port := 53
  source := none
  sourcePort := none
  user := none
  protocol := none
  attrs := fun _ => false

/-- Without rules of the provider the query goes through the proxy. -/
theorem dns_upstream_route_plain :
    ∃ config,
      buildXrayConfig (.ofPlain []) (fun _ => none) .inserted
        (.ofProfile (publicDnsProfile [])) (.plain true) = .ok config ∧
      route (configRules config) (dnsQuery (.v4 ⟨8, 8, 8, 8⟩)) = some (.outbound "proxy") :=
  ⟨_, rfl, ((@dns_upstream_route_iff (.ofPlain []) (fun _ => none) .inserted
    (.ofProfile (publicDnsProfile [])) (.plain true) _ _ (dnsQuery (.v4 ⟨8, 8, 8, 8⟩))
    rfl rfl ⟨by decide, rfl, rfl⟩ (by decide)).2
    ⟨fun _ _ _ other => (by cases other), fun _ found => (by cases found)⟩).1⟩

/-- A rule of the provider that sends the DNS server past the proxy is kept, and goes
before the pin. -/
theorem dns_upstream_leaks :
    let server := VlessServer.ofProfile (publicDnsProfile
      [.ofFields [("type", .string "field"), ("ip", .strings ["8.8.8.8"]),
        ("outboundTag", .string "direct")]])
    toText (dnsQuery (.v4 ⟨8, 8, 8, 8⟩)).ip ∈
        (buildDnsPlan (.ofPlain []) server).upstreamIps ∧
      (dnsQuery (.v4 ⟨8, 8, 8, 8⟩)).FromDnsModule "tun-in" ∧
      ∃ plan config,
        outboundPlan (fun _ => none) .inserted server = .ok plan ∧
        buildXrayConfig (.ofPlain []) (fun _ => none) .inserted server (.plain false) =
          .ok config ∧
        plan.target = .outbound "proxy" ∧
        route (configRules config) (dnsQuery (.v4 ⟨8, 8, 8, 8⟩)) =
          some (.outbound "direct") :=
  ⟨by decide, ⟨by decide, rfl, rfl⟩, _, _, rfl, rfl, rfl, by decide⟩

end Varmlen.Core
