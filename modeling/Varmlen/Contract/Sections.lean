import Varmlen.Contract.Plans

/-!
# The sections of the generated documents

The sections of a tunnel document and of a probe document, and what of them has to fit
into the levels that a reader takes and be free of keys for privileged files.  What the
client writes itself always fits, so this comes down to the parts of the plan.
-/

namespace Varmlen.Contract

open Foundation.Json
open Varmlen.Core (OutboundPlan ProxyTarget TunnelOptions VlessServer DnsPlan)
open Varmlen.Daemon (isPrivilegedKey)

/-! ## Sections -/

/-- The sections that a profile may add to a document. -/
def withObservatories (plan : OutboundPlan) (config : Value) : Value :=
  (config.setSome "observatory" plan.observatory).setSome "burstObservatory"
    plan.burstObservatory

def tunnelRouting (server : VlessServer) (options : TunnelOptions) (plan : OutboundPlan)
    (dns : DnsPlan) : Value :=
  (Core.applyProviderRoutingOptions server
    (.ofFields [("rules", .array (Core.tunnelRules options plan dns))])).setSome "balancers"
      plan.balancers

def tunnelFields (server : VlessServer) (options : TunnelOptions) (plan : OutboundPlan)
    (dns : DnsPlan) : List (String × Value) :=
  [("log", .ofFields [("loglevel", .string (Core.xrayLoglevel options.logLevel))]),
    ("dns", .object dns.config),
    ("inbounds", Core.buildInbounds (Core.effectiveTun options.mode options.tun)
      options.effectiveMtu),
    ("outbounds", .array (Core.tunnelOutbounds plan.proxies)),
    ("routing", tunnelRouting server options plan dns)]

theorem tunnelConfig_eq (server : VlessServer) (options : TunnelOptions)
    (plan : OutboundPlan) (dns : DnsPlan) :
    Core.tunnelConfig server options plan dns =
      withObservatories plan (.ofFields (tunnelFields server options plan dns)) := rfl

def probeInbound : Value :=
  .ofFields
    [("tag", .string "socks-in-0"), ("listen", .string "127.0.0.1"),
      ("port", .nat Core.connectionProbePortBase), ("protocol", .string "socks"),
      ("settings", .ofFields [("udp", .bool false), ("auth", .string "noauth")])]

def probeRouting (plan : OutboundPlan) : Value :=
  (Value.ofFields [("rules", .array [Core.probeRule plan.target])]).setSome "balancers"
    plan.balancers

def probeFields (plan : OutboundPlan) : List (String × Value) :=
  [("log", .ofFields [("loglevel", .string "warning")]),
    ("inbounds", .array [probeInbound]),
    ("outbounds", .array (Core.probeOutbounds plan.proxies)),
    ("routing", probeRouting plan)]

theorem probeConfig_eq (plan : OutboundPlan) :
    Core.probeConfig plan = withObservatories plan (.ofFields (probeFields plan)) := rfl

/-! ## What fits -/

section Fits

variable {levels : Nat}

theorem fits_apply {target : ProxyTarget} {rule : Value}
    (fits : rule.Fits isPrivilegedKey (levels + 1)) :
    (target.apply rule).Fits isPrivilegedKey (levels + 1) := by
  cases target with
  | outbound tag => exact Value.fits_set fits (by decide) (Value.fits_string tag)
  | balancer tag => exact Value.fits_set fits (by decide) (Value.fits_string tag)

theorem fits_sendTo (useProxy : Bool) {target : ProxyTarget} {rule : Value}
    (fits : rule.Fits isPrivilegedKey (levels + 1)) :
    (Core.sendTo useProxy target rule).Fits isPrivilegedKey (levels + 1) := by
  cases useProxy with
  | false => exact Value.fits_set fits (by decide) (Value.fits_string "direct")
  | true => exact fits_apply fits

theorem fits_fieldRule {key : String} {selector : Value}
    (allowed : isPrivilegedKey key = false) (named : key ≠ "type")
    (fits : selector.Fits isPrivilegedKey levels) :
    (Core.fieldRule key selector).Fits isPrivilegedKey (levels + 1) := by
  rw [Core.fieldRule, Value.fits_ofFields (by simpa using named.symm)]
  simp [allowed, fits]
  decide

theorem fits_withObservatories {plan : OutboundPlan} {fields : List (String × Value)}
    (distinct : ("observatory" :: "burstObservatory" :: fields.map Prod.fst).Nodup) :
    (withObservatories plan (.ofFields fields)).Fits isPrivilegedKey (levels + 1) ↔
      (∀ field ∈ fields, isPrivilegedKey field.1 = false ∧
        field.2.Fits isPrivilegedKey levels) ∧
      (∀ observatory ∈ plan.observatory, observatory.Fits isPrivilegedKey levels) ∧
      ∀ observatory ∈ plan.burstObservatory, observatory.Fits isPrivilegedKey levels := by
  rw [List.nodup_cons, List.nodup_cons, List.mem_cons, not_or] at distinct
  rcases distinct with ⟨⟨different, noObservatory⟩, noBurst, distinct⟩
  rw [withObservatories, Value.fits_setSome (by simp; rfl) _ (by decide),
    Value.fits_setSome rfl (Value.get_ofFields_none noObservatory) (by decide),
    Value.fits_ofFields distinct, and_assoc]
  rw [Value.get_setSome rfl, if_neg different, Value.get_ofFields_none noBurst]

theorem fits_rules {rules : List Value} :
    (Value.ofFields [("rules", .array rules)]).Fits isPrivilegedKey (levels + 2) ↔
      ∀ rule ∈ rules, rule.Fits isPrivilegedKey levels := by
  rw [Value.fits_ofFields (by simp)]
  simp only [List.forall_mem_singleton, Value.fits_array, and_iff_right_iff_imp]
  intro _
  rfl

theorem fits_option (text : Option String) :
    ∀ value ∈ text.map Value.string, value.Fits isPrivilegedKey levels := by
  intro value given
  rcases Option.map_eq_some_iff.1 given with ⟨inner, _, rfl⟩
  exact Value.fits_string inner

theorem fits_applyProviderRoutingOptions {server : VlessServer} {routing : Value}
    (isObject : routing.isObject = true) (strategy : routing.get "domainStrategy" = none)
    (matcher : routing.get "domainMatcher" = none) :
    (Core.applyProviderRoutingOptions server routing).Fits isPrivilegedKey (levels + 1) ↔
      routing.Fits isPrivilegedKey (levels + 1) := by
  rw [Core.applyProviderRoutingOptions]
  cases server.profileSection "routing" with
  | none => rfl
  | some provider =>
      dsimp only
      rw [Value.fits_setSome (by simpa using isObject) _ (by decide),
        Value.fits_setSome isObject strategy (by decide)]
      · constructor
        · exact fun all => all.1.1
        · exact fun fits => ⟨⟨fits, fits_option _⟩, fits_option _⟩
      · rw [Value.get_setSome isObject, if_neg (by decide), matcher]

theorem fits_dnsRule (inboundTag : String) :
    (Core.dnsRule inboundTag).Fits isPrivilegedKey (levels + 2) := by
  rw [Core.dnsRule, Value.fits_ofFields (by simp)]
  simp
  decide

theorem fits_lanRules (allowLan : Bool) :
    ∀ rule ∈ (if allowLan then [Core.lanRule] else []),
      rule.Fits isPrivilegedKey (levels + 2) := by
  cases allowLan with
  | false => exact fun _ member => nomatch member
  | true =>
      rw [if_pos rfl, List.forall_mem_singleton]
      exact Value.fits_set (fits_fieldRule (by decide) (by decide) (Value.fits_strings _))
        (by decide) (Value.fits_string "direct")

theorem fits_appRules (split : Core.SplitInput) (tun : Core.TunMode) (target : ProxyTarget) :
    ∀ rule ∈ Core.appRules split tun target, rule.Fits isPrivilegedKey (levels + 2) := by
  cases tun with
  | tun2socks => exact fun _ member => nomatch member
  | xrayNative =>
      intro rule member
      rcases List.mem_map.1 member with ⟨app, _, rfl⟩
      exact fits_sendTo _ (fits_fieldRule (by decide) (by decide) (Value.fits_strings _))

theorem fits_siteRules (split : Core.SplitInput) (target : ProxyTarget) :
    ∀ rule ∈ Core.siteRules split target, rule.Fits isPrivilegedKey (levels + 2) := by
  rw [Core.siteRules]
  cases Core.siteSelectors split with
  | nil => exact fun _ member => nomatch member
  | cons first rest =>
      rw [List.forall_mem_singleton]
      exact fits_sendTo _ (fits_fieldRule (by decide) (by decide) (Value.fits_strings _))

theorem fits_leadingRules (split : Core.SplitInput) (allowLan : Bool) (inboundTag : String)
    (tun : Core.TunMode) (target : ProxyTarget) :
    ∀ rule ∈ Core.leadingRules split allowLan inboundTag tun target,
      rule.Fits isPrivilegedKey (levels + 2) := by
  rw [Core.leadingRules, List.forall_mem_append, List.forall_mem_append, List.forall_mem_append,
    List.forall_mem_singleton]
  exact ⟨⟨⟨fits_dnsRule inboundTag, fits_lanRules allowLan⟩, fits_appRules split tun target⟩,
    fits_siteRules split target⟩

/-- Every rule of a tunnel that the client writes itself fits. -/
theorem fits_tunnelRules (options : TunnelOptions) (plan : OutboundPlan) (dns : DnsPlan) :
    (∀ rule ∈ Core.tunnelRules options plan dns,
        rule.Fits isPrivilegedKey (levels + 2)) ↔
      ∀ rule ∈ plan.providerRules, rule.Fits isPrivilegedKey (levels + 2) := by
  have pin (ips : List String) :
      (Core.pinRule plan.target ips).Fits isPrivilegedKey (levels + 2) :=
    fits_apply (fits_fieldRule (by decide) (by decide) (Value.fits_strings _))
  have default (tun : Core.TunMode) :
      (Core.defaultRule options.split tun plan.target).Fits isPrivilegedKey (levels + 2) :=
    fits_sendTo _ (fits_fieldRule (by decide) (by decide) (Value.fits_string _))
  rw [Core.tunnelRules, Core.buildRouteRules, List.forall_mem_append, List.forall_mem_append]
  constructor
  · exact fun all => all.1.2
  · intro provider
    refine ⟨⟨fits_leadingRules _ _ _ _ _, provider⟩, ?_⟩
    rw [List.forall_mem_cons, List.forall_mem_singleton]
    exact ⟨pin _, default _⟩

theorem fits_buildInbounds (tun : Core.TunMode) (mtu : Nat) :
    (Core.buildInbounds tun mtu).Fits isPrivilegedKey (levels + 4) := by
  cases tun with
  | xrayNative =>
      simp [Core.buildInbounds, Value.fits_array, Value.fits_ofFields, isPrivilegedKey]
  | tun2socks =>
      simp [Core.buildInbounds, Value.fits_array, Value.fits_ofFields, isPrivilegedKey]

theorem fits_outbounds {proxies fixed : List Value}
    (fixedFits : ∀ outbound ∈ fixed, outbound.Fits isPrivilegedKey levels) :
    (Value.array (proxies ++ fixed)).Fits isPrivilegedKey (levels + 1) ↔
      ∀ proxy ∈ proxies, proxy.Fits isPrivilegedKey levels := by
  rw [Value.fits_array, List.forall_mem_append]
  exact and_iff_left fixedFits

theorem fits_tunnelRouting {server : VlessServer} {options : TunnelOptions}
    {plan : OutboundPlan} {dns : DnsPlan} :
    (tunnelRouting server options plan dns).Fits isPrivilegedKey (levels + 4) ↔
      (∀ rule ∈ plan.providerRules, rule.Fits isPrivilegedKey (levels + 2)) ∧
        ∀ value ∈ plan.balancers, value.Fits isPrivilegedKey (levels + 3) := by
  rw [tunnelRouting, Value.fits_setSome, fits_applyProviderRoutingOptions, fits_rules,
    fits_tunnelRules]
  · rfl
  · exact Value.get_ofFields_none (by simp)
  · exact Value.get_ofFields_none (by simp)
  · rw [Core.isObject_applyProviderRoutingOptions]
    rfl
  · rw [Core.get_applyProviderRoutingOptions rfl (by decide) (by decide)]
    exact Value.get_ofFields_none (by simp)
  · decide

theorem fits_tunnelConfig {server : VlessServer} {options : TunnelOptions}
    {plan : OutboundPlan} {dns : DnsPlan} :
    (Core.tunnelConfig server options plan dns).Fits isPrivilegedKey (levels + 5) ↔
      ((Value.object dns.config).Fits isPrivilegedKey (levels + 4) ∧
        (∀ proxy ∈ plan.proxies, proxy.Fits isPrivilegedKey (levels + 3)) ∧
        (∀ rule ∈ plan.providerRules, rule.Fits isPrivilegedKey (levels + 2)) ∧
        ∀ value ∈ plan.balancers, value.Fits isPrivilegedKey (levels + 3)) ∧
      (∀ observatory ∈ plan.observatory, observatory.Fits isPrivilegedKey (levels + 4)) ∧
      ∀ observatory ∈ plan.burstObservatory,
        observatory.Fits isPrivilegedKey (levels + 4) := by
  have fixed : ∀ outbound ∈ fixedOutbounds, outbound.Fits isPrivilegedKey (levels + 3) := by
    simp [fixedOutbounds, Core.tunnelOutbounds, Core.directOutbound, Value.fits_ofFields,
      isPrivilegedKey]
  rw [tunnelConfig_eq, fits_withObservatories (by simp [tunnelFields])]
  simp only [tunnelFields, List.forall_mem_cons, tunnelOutbounds_eq, fits_outbounds fixed,
    fits_tunnelRouting, fits_buildInbounds]
  simp [Value.fits_ofFields, isPrivilegedKey]

theorem fits_probeRouting {plan : OutboundPlan} :
    (probeRouting plan).Fits isPrivilegedKey (levels + 4) ↔
      ∀ value ∈ plan.balancers, value.Fits isPrivilegedKey (levels + 3) := by
  have rule : (Core.probeRule plan.target).Fits isPrivilegedKey (levels + 2) := by
    apply fits_apply
    simp [Value.fits_ofFields, isPrivilegedKey]
  rw [probeRouting, Value.fits_setSome rfl (Value.get_ofFields_none (by simp)) (by decide),
    fits_rules, List.forall_mem_singleton]
  exact and_iff_right rule

theorem fits_probeConfig {plan : OutboundPlan} :
    (Core.probeConfig plan).Fits isPrivilegedKey (levels + 5) ↔
      ((∀ proxy ∈ plan.proxies, proxy.Fits isPrivilegedKey (levels + 3)) ∧
        ∀ value ∈ plan.balancers, value.Fits isPrivilegedKey (levels + 3)) ∧
      (∀ observatory ∈ plan.observatory, observatory.Fits isPrivilegedKey (levels + 4)) ∧
      ∀ observatory ∈ plan.burstObservatory,
        observatory.Fits isPrivilegedKey (levels + 4) := by
  have inbounds : (Value.array [probeInbound]).Fits isPrivilegedKey (levels + 4) := by
    simp [probeInbound, Value.fits_array, Value.fits_ofFields, isPrivilegedKey]
  rw [probeConfig_eq, fits_withObservatories (by simp [probeFields])]
  simp only [probeFields, List.forall_mem_cons, Core.probeOutbounds, fits_probeRouting, inbounds]
  rw [fits_outbounds (by simp [Value.fits_ofFields, isPrivilegedKey])]
  simp [Value.fits_ofFields, isPrivilegedKey]

end Fits

/-- A document is read and passes the guard exactly when it fits into the levels of the
reader. -/
theorem readable_iff {document : Value} :
    document.depth < recursionLimit ∧ Daemon.containsForbiddenFileKey document = false ↔
      document.Fits isPrivilegedKey 127 := by
  rw [Daemon.containsForbiddenFileKey_eq, recursionLimit]
  constructor
  · intro both
    rcases both with ⟨shallow, allowed⟩
    exact ⟨Nat.le_of_lt_succ shallow, allowed⟩
  · intro fits
    exact ⟨Nat.lt_succ_of_le fits.depth, fits.keys⟩

end Varmlen.Contract
