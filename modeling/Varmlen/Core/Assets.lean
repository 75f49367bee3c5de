import Varmlen.Core.DnsPins
import Varmlen.Core.LanRoute
import Varmlen.Core.References

/-!
# Selectors that need data files

Varmlen ships no `geoip.dat` and no `geosite.dat`, and Xray refuses a config with a
selector that asks for one.  Of a provider's rules those with such an entry in their
`ip` list are dropped.  Nothing looks at an `ip` that is a text, at `source`, or at the
DNS section.
-/

namespace Varmlen.Core

open Foundation.Ip Foundation.Json Foundation.Text

/-- The prefixes of selectors that are looked up in a data file. -/
def assetPrefixes : List String := ["geoip:", "geosite:", "ext:", "ext-ip:", "ext-domain:"]

/-- The text starts with one of the given prefixes, in any case. -/
def startsWithAny (prefixes : List String) (text : String) : Bool :=
  prefixes.any (startsWith (toAsciiLowercase text))

def isAssetBacked (text : String) : Bool := startsWithAny assetPrefixes text

/-- The texts of a selector, which is one text or a list. -/
def selectorTexts (value : Value) (key : String) : List String := hostTexts (value.get key)

/-- The DNS section of a config. -/
def configDns (config : Value) : Object := objectField (config.asObject.getD []) "dns"

/-- A rule asks for no data file. -/
def RuleWithoutAssets (rule : Value) : Prop :=
  ∀ key ∈ ["ip", "source"], ∀ text ∈ selectorTexts rule key, isAssetBacked text = false

/-- A DNS server asks for no data file. -/
def ServerWithoutAssets (entry : Value) : Prop :=
  ∀ key ∈ ["domains", "expectIPs"], ∀ text ∈ selectorTexts entry key,
    isAssetBacked text = false

/-- A config asks for no data file. -/
structure NoAssets (config : Value) : Prop where
  hosts : (objectField (configDns config) "hosts").keysAll (!isAssetBacked ·) = true
  servers : ∀ entry ∈ (Value.object (configDns config)).getItems "servers",
    ServerWithoutAssets entry
  rules : ∀ rule ∈ configRules config, RuleWithoutAssets rule

/-- The entries of the provider's DNS servers. -/
def profileDnsServers (server : VlessServer) : List Value :=
  ((server.profileSection "dns").map (·.getItems "servers")).getD []

/-- What the filter of the rules does not look at asks for no data file: an `ip` that is
a text, the domain prefixes in an `ip` list, and `source`. -/
structure RuleGapsFree (rule : Value) : Prop where
  ipText : ∀ text, rule.get "ip" = some (.string text) → isAssetBacked text = false
  ipList : ∀ text ∈ (rule.getItems "ip").filterMap Value.asString,
    startsWithAny ["geosite:", "ext-domain:"] text = false
  source : ∀ text ∈ selectorTexts rule "source", isAssetBacked text = false

/-- A profile asks for a data file nowhere but in what the filter drops. -/
structure AssetFree (urls : UrlParser) (server : VlessServer) : Prop where
  hosts : ∀ hosts, profileHosts server = some hosts →
    Object.keysAll (!isAssetBacked ·) hosts = true
  servers : ∀ entry ∈ profileDnsServers server,
    (safeProviderDnsServer urls server entry).isSome = true → ServerWithoutAssets entry
  rules : ∀ rule ∈ profileRules server,
    keepsRule (locationProxyTags server) (locationBalancerTags server) rule = true →
    RuleGapsFree rule

/-- A printed address asks for no data file. -/
theorem isAssetBacked_toText (address : IpAddr) : isAssetBacked (toText address) = false := by
  have foreign : (assetPrefixes.all fun pattern =>
      pattern.toList.any fun char => !addressChars.contains char) = true := by decide
  have lower : (addressChars.all fun char => addressChars.contains char.toLower) = true := by
    decide
  simp only [List.all_eq_true, List.any_eq_true, Bool.not_eq_true', List.contains_eq_mem,
    decide_eq_true_eq, decide_eq_false_iff_not] at foreign lower
  apply Bool.eq_false_iff.2
  intro backed
  rcases List.any_eq_true.1 backed with ⟨pattern, listed, starts⟩
  rcases foreign pattern listed with ⟨char, member, unprinted⟩
  rw [startsWith, List.isPrefixOf_iff_prefix] at starts
  have within := starts.subset member
  rw [toAsciiLowercase, String.toList_ofList, toText, String.toList_ofList,
    List.mem_map] at within
  rcases within with ⟨printed, inside, rfl⟩
  exact unprinted (lower printed (mem_addressChars inside))

/-! ## Rules -/

/-- Selectors other than `ip` and `source` ask for nothing here. -/
theorem ruleWithoutAssets_of_unset {rule : Value} (ip : rule.get "ip" = none)
    (source : rule.get "source" = none) : RuleWithoutAssets rule := by
  intro key member text listed
  simp only [List.mem_cons, List.not_mem_nil, or_false] at member
  rcases member with rfl | rfl
  · rw [selectorTexts, ip] at listed
    cases listed
  · rw [selectorTexts, source] at listed
    cases listed

theorem mem_selectorTexts_iff {value : Value} {key text : String} :
    text ∈ selectorTexts value key ↔
      value.get key = some (.string text) ∨
        text ∈ (value.getItems key).filterMap Value.asString := by
  rw [selectorTexts, Value.getItems]
  cases value.get key with
  | none => simp [hostTexts]
  | some field => cases field <;> simp [hostTexts, Value.asArray, eq_comm]

/-- The prefixes that the filter of the rules knows, and the others. -/
theorem isAssetBacked_eq (text : String) :
    isAssetBacked text =
      (isExternalRouteSelector (.string text) ||
        startsWithAny ["geosite:", "ext-domain:"] text) := by
  simp only [isAssetBacked, startsWithAny, assetPrefixes, isExternalRouteSelector,
    Value.asString, List.any_cons, List.any_nil, Bool.or_false]
  ac_rfl

/-- No entry in the `ip` list of a kept rule has a prefix that the filter knows. -/
theorem kept_ipList {proxyTags balancerTags : List String} {rule : Value}
    (kept : keepsRule proxyTags balancerTags rule = true) :
    ∀ text ∈ (rule.getItems "ip").filterMap Value.asString,
      isExternalRouteSelector (.string text) = false := by
  cases rule with
  | object fields =>
      simp only [keepsRule, Value.asObject, Bool.and_eq_true, Bool.not_eq_true'] at kept
      have passed := kept.1.1.2
      intro text listed
      rcases List.mem_filterMap.1 listed with ⟨item, member, isText⟩
      rw [Value.getItems, Value.get_object] at member
      rw [anyItem] at passed
      cases given : (Object.get fields "ip").bind Value.asArray with
      | none =>
          rw [given] at member
          cases member
      | some items =>
          rw [given] at member passed
          have checked := List.any_eq_false.1 passed item member
          cases item with
          | string raw =>
              cases isText
              exact Bool.not_eq_true _ ▸ checked
          | _ => cases isText
  | _ => cases kept

/-- A kept rule asks for data files only where the filter does not look. -/
theorem ruleWithoutAssets_kept_iff {proxyTags balancerTags : List String} {rule : Value}
    (kept : keepsRule proxyTags balancerTags rule = true) :
    RuleWithoutAssets rule ↔ RuleGapsFree rule := by
  have listed := kept_ipList kept
  constructor
  · intro free
    constructor
    · intro text given
      exact free "ip" (by simp) text (mem_selectorTexts_iff.2 (.inl given))
    · intro text member
      have unbacked := free "ip" (by simp) text (mem_selectorTexts_iff.2 (.inr member))
      rw [isAssetBacked_eq, Bool.or_eq_false_iff] at unbacked
      exact unbacked.2
    · exact free "source" (by simp)
  · intro gaps key member text found
    simp only [List.mem_cons, List.not_mem_nil, or_false] at member
    rcases member with rfl | rfl
    · rcases mem_selectorTexts_iff.1 found with given | member
      · exact gaps.ipText text given
      · rw [isAssetBacked_eq, listed text member, gaps.ipList text member]
        rfl
    · exact gaps.source text found

/-- The selectors of a generated rule. -/
theorem get_apply_fieldRule (target : ProxyTarget) (key : String) (selector : Value)
    {wanted : String} (isSelector : wanted ∉ ["type", "outboundTag", "balancerTag"]) :
    (target.apply (fieldRule key selector)).get wanted =
      if key = wanted then some selector else none := by
  simp only [List.mem_cons, List.not_mem_nil, or_false, not_or] at isSelector
  cases target <;>
    simp [ProxyTarget.apply, fieldRule, Value.ofFields, Value.get_set, Object.ofFields,
      Object.get_insert, Object.get, Ne.symm isSelector.1, Ne.symm isSelector.2.1,
      Ne.symm isSelector.2.2]

/-- The `ip` of a generated rule. -/
theorem ruleWithoutAssets_ip {target : ProxyTarget} {texts : List String}
    (unbacked : ∀ text ∈ texts, isAssetBacked text = false) :
    RuleWithoutAssets (target.apply (fieldRule "ip" (.strings texts))) := by
  have read : hostTexts (some (.strings texts)) = texts := by
    simp [hostTexts, Value.strings, List.filterMap_map, Function.comp_def, Value.asString]
  intro key member text listed
  simp only [List.mem_cons, List.not_mem_nil, or_false] at member
  rcases member with rfl | rfl
  · rw [selectorTexts, get_apply_fieldRule _ _ _ (by decide), if_pos rfl, read] at listed
    exact unbacked text listed
  · rw [selectorTexts, get_apply_fieldRule _ _ _ (by decide), if_neg (by decide)] at listed
    cases listed

/-- A generated rule with another selector. -/
theorem ruleWithoutAssets_other (target : ProxyTarget) {key : String} (selector : Value)
    (notIp : key ≠ "ip") (notSource : key ≠ "source") :
    RuleWithoutAssets (target.apply (fieldRule key selector)) := by
  apply ruleWithoutAssets_of_unset
  · rw [get_apply_fieldRule _ _ _ (by decide), if_neg notIp]
  · rw [get_apply_fieldRule _ _ _ (by decide), if_neg notSource]

theorem ruleWithoutAssets_sendTo (useProxy : Bool) (target : ProxyTarget) {key : String}
    (selector : Value) (notIp : key ≠ "ip") (notSource : key ≠ "source") :
    RuleWithoutAssets (sendTo useProxy target (fieldRule key selector)) := by
  cases useProxy with
  | true => exact ruleWithoutAssets_other target selector notIp notSource
  | false => exact ruleWithoutAssets_other (.outbound "direct") selector notIp notSource

theorem ruleWithoutAssets_leading {split : SplitInput} {allowLan : Bool} {inboundTag : String}
    {tun : TunMode} {target : ProxyTarget} :
    ∀ rule ∈ leadingRules split allowLan inboundTag tun target, RuleWithoutAssets rule := by
  intro rule member
  simp only [leadingRules, List.mem_append, List.mem_singleton] at member
  rcases member with ((dns | lan) | app) | site
  · rw [dns, dnsRule]
    exact ruleWithoutAssets_of_unset (Value.get_ofFields_none (by simp))
      (Value.get_ofFields_none (by simp))
  · cases allowLan with
    | false => cases lan
    | true =>
        rw [List.mem_singleton.1 lan]
        exact @ruleWithoutAssets_ip (.outbound "direct") privateCidrs (by decide)
  · cases tun with
    | tun2socks => cases app
    | xrayNative =>
        rcases List.mem_map.1 app with ⟨name, _, rfl⟩
        exact ruleWithoutAssets_sendTo _ _ _ (by decide) (by decide)
  · rw [siteRules] at site
    split at site
    next => cases site
    next =>
      rw [List.mem_singleton.1 site]
      exact ruleWithoutAssets_sendTo _ _ _ (by decide) (by decide)

/-! ## The DNS section -/

section Dns

variable {urls : UrlParser} {server : VlessServer}

/-- The pinned addresses ask for no data file. -/
theorem upstream_unbacked :
    ∀ text ∈ (buildDnsPlan urls server).upstreamIps, isAssetBacked text = false := by
  intro text upstream
  rw [upstreamIps_buildDnsPlan, mem_sortDedup, planServers] at upstream
  split at upstream
  next =>
    have plain : ∀ text ∈ defaultDnsServers.flatMap DnsServer.ips,
        isAssetBacked text = false := by decide
    exact plain text upstream
  next =>
    rcases mem_keptIps_iff.1 upstream with ⟨raw, _, ⟨_, _, remote⟩ | ⟨hostname, _, listed⟩⟩
    · rcases safeRemoteDnsAddress_eq_some remote with ⟨literal, _, same, _⟩
      rw [List.singleton_inj.1 same]
      exact isAssetBacked_toText literal
    · rw [providerDnsHostIps] at listed
      split at listed
      next => cases listed
      next =>
        rw [mem_sortDedup, List.mem_map] at listed
        rcases listed with ⟨address, _, rfl⟩
        exact isAssetBacked_toText address

/-- The hosts of the DNS section are the provider's and some of Varmlen's own. -/
theorem hosts_unbacked_iff :
    (objectField (buildDnsPlan urls server).config "hosts").keysAll (!isAssetBacked ·) = true ↔
      ∀ hosts, profileHosts server = some hosts →
        Object.keysAll (!isAssetBacked ·) hosts = true := by
  have cloudflare : (!isAssetBacked "cloudflare-dns.com") = true := by decide
  have google : (!isAssetBacked "dns.google") = true := by decide
  have googleapis : (!isAssetBacked "domain:googleapis.cn") = true := by decide
  have own (usingDefaults : Bool) (hosts : Object) :
      (configHosts usingDefaults hosts).keysAll (!isAssetBacked ·) =
        hosts.keysAll (!isAssetBacked ·) := by
    rw [configHosts, Object.keysAll_orInsert _ googleapis]
    cases usingDefaults with
    | false => rfl
    | true =>
        simp only [if_true, defaultDohHosts, List.foldl_cons, List.foldl_nil]
        rw [Object.keysAll_orInsert _ google, Object.keysAll_orInsert _ cloudflare]
  rw [hosts_buildDnsPlan, own]
  cases profileHosts server with
  | none => simp [Object.keysAll]
  | some hosts => simp

/-- The address of an entry does not matter. -/
theorem serverWithoutAssets_withAddress {entry : Value} {raw : String}
    (given : entryAddress entry = some raw) (address : String) :
    ServerWithoutAssets (withAddress entry address) ↔ ServerWithoutAssets entry := by
  cases entry with
  | string text => exact Iff.rfl
  | object fields =>
      have kept (key : String) (other : "address" ≠ key) :
          selectorTexts (withAddress (.object fields) address) key =
            selectorTexts (.object fields) key := by
        rw [selectorTexts, selectorTexts, withAddress, Value.get_object,
          Object.get_insert_of_ne _ _ other, Value.get_object]
      simp [ServerWithoutAssets, kept]
  | _ => cases given

/-- The servers of the DNS section are the provider's or Varmlen's own. -/
theorem servers_unbacked_iff :
    (∀ entry ∈ (Value.object (buildDnsPlan urls server).config).getItems "servers",
      ServerWithoutAssets entry) ↔
    ∀ entry ∈ profileDnsServers server,
      (safeProviderDnsServer urls server entry).isSome = true → ServerWithoutAssets entry := by
  have sameEntry {entry : Value} {kept : DnsServer}
      (found : safeProviderDnsServer urls server entry = some kept) :
      ServerWithoutAssets kept.entry ↔ ServerWithoutAssets entry := by
    rw [safeProviderDnsServer] at found
    split at found
    next => cases found
    next safe =>
      cases found
      rcases Option.bind_eq_some_iff.1 safe with ⟨raw, given, _⟩
      exact serverWithoutAssets_withAddress given _
  have keptIff : (∀ kept ∈ safeProviderDnsServers urls server, ServerWithoutAssets kept.entry) ↔
      ∀ entry ∈ profileDnsServers server,
        (safeProviderDnsServer urls server entry).isSome = true →
          ServerWithoutAssets entry := by
    constructor
    · intro free entry listed isKept
      rcases Option.isSome_iff_exists.1 isKept with ⟨kept, found⟩
      exact (sameEntry found).1 (free kept (mem_safeProviderDnsServers.2 ⟨entry, listed, found⟩))
    · intro free kept member
      rcases mem_safeProviderDnsServers.1 member with ⟨entry, listed, found⟩
      exact (sameEntry found).2 (free entry listed (Option.isSome_of_eq_some found))
  rw [servers_buildDnsPlan, ← keptIff, planServers]
  simp only [List.mem_map, forall_exists_index, and_imp, forall_apply_eq_imp_iff₂]
  split
  next empty =>
    have own : ∀ kept ∈ defaultDnsServers, ServerWithoutAssets kept.entry := by
      intro kept member
      rcases List.mem_map.1 member with ⟨constant, _, rfl⟩
      intro key _ text listed
      cases listed
    rw [List.isEmpty_iff.1 empty]
    simpa using own
  next => exact Iff.rfl

end Dns

/-! ## Configs -/

theorem configDns_tunnelConfig (server : VlessServer) (options : TunnelOptions)
    (plan : OutboundPlan) (dns : DnsPlan) :
    configDns (tunnelConfig server options plan dns) = dns.config := by
  rw [configDns, objectField, asObject_getD_get, tunnelConfig,
    get_withObservatories rfl _ _ (by decide) (by decide)]
  simp [Value.ofFields, Object.ofFields, Object.get_insert, Value.asObject]

/-- A tunnel config asks for no data file exactly when the profile asks for one only in
the `ip` lists that the filter drops. -/
theorem no_assets_iff {urls : UrlParser} {parseJson : JsonParser} {order : HashOrder}
    {server : VlessServer} {options : TunnelOptions} {config : Value}
    (built : buildXrayConfig urls parseJson order server options = .ok config) :
    NoAssets config ↔ AssetFree urls server := by
  rcases buildXrayConfig_eq_ok built with ⟨plan, planned, rfl⟩
  have rules : (∀ rule ∈ tunnelRules options plan (buildDnsPlan urls server),
      RuleWithoutAssets rule) ↔
      ∀ rule ∈ profileRules server,
        keepsRule (locationProxyTags server) (locationBalancerTags server) rule = true →
        RuleGapsFree rule := by
    rw [forall_tunnelRules_iff planned ruleWithoutAssets_leading
      (ruleWithoutAssets_ip upstream_unbacked)
      (ruleWithoutAssets_sendTo _ _ _ (by decide) (by decide))]
    apply forall_congr'
    intro rule
    apply forall_congr'
    intro _
    apply forall_congr'
    intro kept
    exact ruleWithoutAssets_kept_iff kept
  have hosts := @hosts_unbacked_iff urls server
  have servers := @servers_unbacked_iff urls server
  constructor
  · intro free
    rcases free with ⟨freeHosts, freeServers, freeRules⟩
    rw [configDns_tunnelConfig] at freeHosts freeServers
    rw [configRules_tunnelConfig] at freeRules
    exact ⟨hosts.1 freeHosts, servers.1 freeServers, rules.1 freeRules⟩
  · intro free
    constructor
    · rw [configDns_tunnelConfig]
      exact hosts.2 free.hosts
    · rw [configDns_tunnelConfig]
      exact servers.2 free.servers
    · rw [configRules_tunnelConfig]
      exact rules.2 free.rules

/-- A profile with one rule, which blocks the given sources. -/
def blockedSourceProfile (sources : List String) : Value :=
  ruledProfile [(fieldRule "source" (.strings sources)).set "outboundTag" (.string "block")]

/-- An address as a source needs no data file. -/
theorem no_assets_address_source :
    let server := VlessServer.ofProfile (blockedSourceProfile ["192.168.1.2"])
    ∃ config,
      buildXrayConfig (.ofPlain []) (fun _ => none) .inserted server (.plain false) =
        .ok config ∧ NoAssets config :=
  ⟨_, rfl, (@no_assets_iff (.ofPlain []) (fun _ => none) .inserted
    (.ofProfile (blockedSourceProfile ["192.168.1.2"])) (.plain false) _ rfl).2 (by
      constructor
      · intro hosts given
        cases given
      · intro entry member
        cases member
      · intro rule member _
        rw [List.mem_singleton.1 member]
        constructor
        · intro text given
          cases given
        · decide
        · decide)⟩

/-- A country as a source is kept, although it needs a data file. -/
theorem asset_survives_as_source :
    let server := VlessServer.ofProfile (blockedSourceProfile ["geoip:ru"])
    ∃ config,
      buildXrayConfig (.ofPlain []) (fun _ => none) .inserted server (.plain false) =
        .ok config ∧ ¬ NoAssets config := by
  refine ⟨_, rfl, ?_⟩
  intro free
  have unbacked := free.rules _ (.tail _ (.head _)) "source" (by decide) "geoip:ru" (by decide)
  revert unbacked
  decide

end Varmlen.Core
