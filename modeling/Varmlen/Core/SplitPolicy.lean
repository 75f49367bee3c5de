import Varmlen.Core.LanRoute

/-!
# The split policy

What the user's split asks for, said of connections and not of rules, and that the
rules of a tunnel config do the same for a location without a provider's profile.
-/

namespace Varmlen.Core

open Foundation.Ip Foundation.Json Foundation.Text

/-! ## The policy -/

/-- An address of a private network, of the link or of the host itself. -/
def isPrivateAddress (address : IpAddr) : Bool :=
  match address.canonical with
  | .v4 address =>
      address.isPrivate || address.isLoopback || address.isLinkLocal ||
        decide (address.a.val = 100 ∧ 64 ≤ address.b.val ∧ address.b.val ≤ 127)
  | .v6 address => address.isLoopback || address.isUniqueLocal || address.isUnicastLinkLocal

/-- The addresses of the DNS servers that Varmlen uses itself. -/
def pinnedAddresses : List IpAddr :=
  [.v4 ⟨1, 0, 0, 1⟩, .v4 ⟨1, 1, 1, 1⟩, .v4 ⟨8, 8, 4, 4⟩, .v4 ⟨8, 8, 8, 8⟩]

/-- A site covers a domain: `*.x` stands for `x` and all below it, any other site for
itself. -/
def siteCovers (site domain : String) : Bool :=
  match afterPrefix site "*." with
  | some suffix => domain == suffix || endsWith domain ("." ++ suffix)
  | none => domain == site

namespace SplitInput

/-- The split lists the application of a connection. -/
def listsApp (split : SplitInput) (connection : Connection) : Bool :=
  connection.process.any fun process => process != "" && split.apps.contains process

/-- The split lists a site that covers the domain of a connection. -/
def listsSite (split : SplitInput) (connection : Connection) : Bool :=
  connection.domain.any fun domain =>
    split.sites.any fun site => trim site != "" && siteCovers (trim site) domain

end SplitInput

/-- Through the proxy or past it. -/
def proxyOrDirect (useProxy : Bool) : ProxyTarget :=
  .outbound (if useProxy then "proxy" else "direct")

/-- Where a connection goes. -/
def splitPolicy (split : SplitInput) (allowLan : Bool) (tun : TunMode)
    (connection : Connection) : ProxyTarget :=
  if connection.inboundTag = some tun.inboundTag ∧ connection.port = 53 then
    .outbound "dns-out"
  else if allowLan = true ∧ isPrivateAddress connection.ip = true then .outbound "direct"
  else if tun = .xrayNative ∧ split.listsApp connection = true then
    proxyOrDirect split.appsSelective
  else if split.listsSite connection = true then proxyOrDirect split.sitesSelective
  else if connection.ip.canonical ∈ pinnedAddresses then proxyOrDirect true
  else
    match tun with
    | .tun2socks => proxyOrDirect (!split.sitesSelective)
    | .xrayNative => proxyOrDirect (!split.appsSelective && !split.sitesSelective)

/-! ## What the selectors cover -/

theorem isLocal_eq_isPrivateAddress (address : IpAddr) :
    isLocal address = isPrivateAddress address := by
  rw [Bool.eq_iff_iff]
  cases address with
  | v4 address =>
      rw [isLocal_v4]
      simp [isPrivateAddress, IpAddr.canonical, or_assoc]
  | v6 address =>
      cases mapped : address.toIpv4Mapped with
      | some inner =>
          rw [isLocal_mapped mapped, isLocal_v4]
          simp [isPrivateAddress, IpAddr.canonical, mapped, or_assoc]
      | none =>
          rw [isLocal_v6 mapped]
          simp [isPrivateAddress, IpAddr.canonical, mapped, or_assoc]

theorem domainSelects_siteSelector (domain site : String) :
    domainSelects domain (siteSelector site) = siteCovers site domain := by
  have notFull (suffix : String) : afterPrefix ("domain:" ++ suffix) "full:" = none := by
    simp [afterPrefix, List.dropPrefix?]
  rw [siteSelector, siteCovers]
  cases afterPrefix site "*." with
  | none => rw [domainSelects, afterPrefix_append]
  | some suffix => rw [domainSelects, afterPrefix_append, notFull]

/-! ## First match by groups -/

/-- A group of rules with one target takes what any of them matches. -/
theorem route_group {group : List Value} {target : ProxyTarget}
    (same : ∀ rule ∈ group, ruleTarget rule = some target) (rest : List Value)
    (connection : Connection) :
    route (group ++ rest) connection =
      if group.any connection.matchedBy = true then some target
      else route rest connection := by
  rw [route, List.find?_append]
  cases found : group.find? connection.matchedBy with
  | none =>
      rw [List.find?_eq_none] at found
      rw [if_neg (by simpa using found)]
      rfl
  | some rule =>
      have any : group.any connection.matchedBy = true :=
        List.any_eq_true.2 ⟨rule, List.mem_of_find?_eq_some found, List.find?_some found⟩
      rw [if_pos any]
      exact same rule (List.mem_of_find?_eq_some found)

/-! ## The groups of generated rules -/

/-- A rule that is sent to the proxy or past it. -/
theorem ruleTarget_sendTo (useProxy : Bool) {key : String} {selector : Value}
    (notTag : key ≠ "outboundTag") :
    ruleTarget (sendTo useProxy (.outbound "proxy") (fieldRule key selector)) =
      some (proxyOrDirect useProxy) := by
  cases useProxy with
  | true => exact @ruleTarget_apply (.outbound "proxy") _ _ (by decide) notTag
  | false => exact @ruleTarget_apply (.outbound "direct") _ _ (by decide) notTag

section Groups

variable (split : SplitInput) (connection : Connection)

theorem any_appRules (tun : TunMode) (target : ProxyTarget) :
    (appRules split tun target).any connection.matchedBy = true ↔
      tun = .xrayNative ∧ split.listsApp connection = true := by
  cases tun with
  | tun2socks => simp [appRules]
  | xrayNative =>
      simp only [appRules, List.any_map, List.any_eq_true, Function.comp_apply,
        connection.matchedBy_sendTo, connection.matchedBy_process, SplitInput.listsApp,
        SplitInput.enabledApps, List.mem_filter]
      cases connection.process with
      | none => simp
      | some process => simp [and_comm]

theorem any_siteRules (target : ProxyTarget) :
    (siteRules split target).any connection.matchedBy = split.listsSite connection := by
  have selected (domain : String) :
      (siteSelectors split).any (domainSelects domain) =
        split.sites.any fun site => trim site != "" && siteCovers (trim site) domain := by
    simp only [siteSelectors, List.any_map, List.any_filter, Function.comp_def,
      domainSelects_siteSelector]
  rw [siteRules, SplitInput.listsSite]
  simp only [← selected]
  cases siteSelectors split with
  | nil => simp
  | cons first rest => simp [connection.matchedBy_domain]

theorem ruleTarget_siteRules :
    ∀ rule ∈ siteRules split (.outbound "proxy"),
      ruleTarget rule = some (proxyOrDirect split.sitesSelective) := by
  intro rule member
  rw [siteRules] at member
  split at member
  next => cases member
  next =>
    rw [List.mem_singleton.1 member]
    exact ruleTarget_sendTo _ (by decide)

theorem ruleTarget_appRules (tun : TunMode) :
    ∀ rule ∈ appRules split tun (.outbound "proxy"),
      ruleTarget rule = some (proxyOrDirect split.appsSelective) := by
  intro rule member
  cases tun with
  | tun2socks => cases member
  | xrayNative =>
      rcases List.mem_map.1 member with ⟨app, _, rfl⟩
      exact ruleTarget_sendTo _ (by decide)

theorem any_lanRules (allowLan : Bool) :
    (if allowLan then [lanRule] else []).any connection.matchedBy = true ↔
      allowLan = true ∧ isPrivateAddress connection.ip = true := by
  cases allowLan <;> simp [matchedBy_lanRule, isLocal_eq_isPrivateAddress]

end Groups

/-- The addresses that are pinned without a profile, as texts. -/
def pinnedTexts : List String := ["1.0.0.1", "1.1.1.1", "8.8.4.4", "8.8.8.8"]

/-- A single address covers itself alone. -/
theorem blockCovers_single {text : String} {base : Ipv4Addr}
    (parsed : Cidr.parse text = some ⟨.v4 base, 32⟩) (address : IpAddr) :
    blockCovers address text = true ↔ address.canonical = .v4 base := by
  rw [blockCovers, parsed, Option.any_some, Cidr.contains]
  cases address.canonical with
  | v4 inner =>
      rcases base with ⟨a, b, c, d⟩
      rcases inner with ⟨a', b', c', d'⟩
      simp only [IpAddr.canonical, Ipv4Addr.toNat, beq_iff_eq, IpAddr.v4.injEq,
        Ipv4Addr.mk.injEq, Fin.ext_iff, Nat.sub_self, Nat.pow_zero, Nat.div_one]
      omega
  | v6 inner => simp [IpAddr.canonical]

theorem any_pinnedTexts (address : IpAddr) :
    pinnedTexts.any (blockCovers address) = true ↔ address.canonical ∈ pinnedAddresses := by
  have first := @blockCovers_single "1.0.0.1" ⟨1, 0, 0, 1⟩ (by decide) address
  have second := @blockCovers_single "1.1.1.1" ⟨1, 1, 1, 1⟩ (by decide) address
  have third := @blockCovers_single "8.8.4.4" ⟨8, 8, 4, 4⟩ (by decide) address
  have fourth := @blockCovers_single "8.8.8.8" ⟨8, 8, 8, 8⟩ (by decide) address
  simp only [pinnedTexts, List.any_cons, List.any_nil, Bool.or_eq_true, first, second, third,
    fourth, pinnedAddresses, List.mem_cons, List.not_mem_nil, Bool.false_eq_true]

theorem upstreamIps_unprovided (urls : UrlParser) {server : VlessServer}
    (unprovided : server.rawProfile = none) :
    (buildDnsPlan urls server).upstreamIps = pinnedTexts := by
  have unkept : safeProviderDnsServers urls server = [] := by
    simp [safeProviderDnsServers, VlessServer.profileSection, unprovided]
  rw [buildDnsPlan]
  simp only [unkept, List.isEmpty_nil, if_true]
  decide

/-- The rules of a config without a provider's rules do what the policy says. -/
theorem route_buildRouteRules (split : SplitInput) (allowLan : Bool) (tun : TunMode)
    (connection : Connection) :
    route (buildRouteRules split allowLan tun.inboundTag tun (.outbound "proxy")
      pinnedTexts []) connection = some (splitPolicy split allowLan tun connection) := by
  have dnsAny : [dnsRule tun.inboundTag].any connection.matchedBy = true ↔
      connection.inboundTag = some tun.inboundTag ∧ connection.port = 53 := by
    simp [connection.matchedBy_dnsRule]
  have dnsTarget : ∀ rule ∈ [dnsRule tun.inboundTag],
      ruleTarget rule = some (.outbound "dns-out") := by
    intro rule member
    rw [List.mem_singleton.1 member]
    cases tun <;> decide
  have lanTarget : ∀ rule ∈ (if allowLan then [lanRule] else []),
      ruleTarget rule = some (.outbound "direct") := by
    intro rule member
    cases allowLan with
    | false => cases member
    | true =>
        rw [List.mem_singleton.1 member]
        exact ruleTarget_lanRule
  have pinAny : [pinRule (.outbound "proxy") pinnedTexts].any connection.matchedBy = true ↔
      connection.ip.canonical ∈ pinnedAddresses := by
    rw [← any_pinnedTexts]
    simp [pinRule, connection.matchedBy_ip, pinnedTexts]
  have pinTarget : ∀ rule ∈ [pinRule (.outbound "proxy") pinnedTexts],
      ruleTarget rule = some (proxyOrDirect true) := by
    intro rule member
    rw [List.mem_singleton.1 member]
    decide
  have lastAny : [defaultRule split tun (.outbound "proxy")].any connection.matchedBy = true := by
    simp [defaultRule, connection.matchedBy_network]
  have lastTarget : ∀ rule ∈ [defaultRule split tun (.outbound "proxy")],
      ruleTarget rule = some (proxyOrDirect (defaultUsesProxy split tun)) := by
    intro rule member
    rw [List.mem_singleton.1 member]
    exact ruleTarget_sendTo _ (by decide)
  have groups : buildRouteRules split allowLan tun.inboundTag tun (.outbound "proxy")
      pinnedTexts [] =
      [dnsRule tun.inboundTag] ++ ((if allowLan then [lanRule] else []) ++
        (appRules split tun (.outbound "proxy") ++ (siteRules split (.outbound "proxy") ++
          ([pinRule (.outbound "proxy") pinnedTexts] ++
            ([defaultRule split tun (.outbound "proxy")] ++ []))))) := by
    simp [buildRouteRules, leadingRules]
  rw [groups, route_group dnsTarget, route_group lanTarget,
    route_group (ruleTarget_appRules split tun), route_group (ruleTarget_siteRules split),
    route_group pinTarget, route_group lastTarget, if_pos lastAny]
  simp only [dnsAny, any_lanRules, any_appRules, any_siteRules, pinAny, splitPolicy,
    apply_ite some]
  cases tun with
  | tun2socks => rfl
  | xrayNative => simp only [defaultUsesProxy, Bool.not_or]

/-- First match over the rules of a tunnel config, for a location without a provider's
profile, is the split policy. -/
theorem route_eq_splitPolicy {urls : UrlParser} {parseJson : JsonParser} {order : HashOrder}
    {server : VlessServer} {options : TunnelOptions} {config : Value}
    (unprovided : server.rawProfile = none)
    (built : buildXrayConfig urls parseJson order server options = .ok config)
    (connection : Connection) :
    route (configRules config) connection =
      some (splitPolicy options.split options.allowLan
        (effectiveTun options.mode options.tun) connection) := by
  rcases buildXrayConfig_eq_ok built with ⟨plan, planned, rfl⟩
  rcases outboundPlan_eq_ok planned with ⟨rule, retained⟩
  have noRules : plan.providerRules = [] := by
    simp [retained, safeProviderRouteRules, profileRules, VlessServer.profileSection,
      unprovided]
  have target : plan.target = .outbound "proxy" := by
    cases rule with
    | composite profile given =>
        rw [unprovided] at given
        cases given
    | single proxy built proxies target => exact target
  rw [configRules_tunnelConfig, tunnelRules, noRules, target,
    upstreamIps_unprovided urls unprovided]
  exact route_buildRouteRules _ _ _ _

/-- A selective split of one application and one domain with all below it. -/
def siteSplit : SplitInput where
  appsMode := "selective"
  sitesMode := "selective"
  apps := ["firefox"]
  sites := [" *.example.com "]

/-- A subdomain of a listed site goes through the proxy although the rest does not. -/
theorem route_eq_splitPolicy_subdomain :
    let server := VlessServer.base "vless" "192.0.2.1" 443 "home"
    let options := { TunnelOptions.plain false with split := siteSplit }
    let connection := { lanConnection with domain := some "www.example.com" }
    server.rawProfile = none ∧
      ∃ config, buildXrayConfig (.ofPlain []) (fun _ => none) .inserted server options =
        .ok config ∧ route (configRules config) connection = some (.outbound "proxy") :=
  ⟨rfl, _, rfl, (@route_eq_splitPolicy (.ofPlain []) (fun _ => none) .inserted
    (.base "vless" "192.0.2.1" 443 "home") { TunnelOptions.plain false with split := siteSplit }
    _ rfl rfl { lanConnection with domain := some "www.example.com" }).trans (by decide)⟩

end Varmlen.Core
