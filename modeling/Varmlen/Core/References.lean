import Varmlen.Core.Proxies
import Varmlen.Core.Rules
import Varmlen.Foundation.JsonTree

/-!
# References between the parts of a config

Rules name outbounds and balancers, and outbounds can be chained through others.  Of a
provider's profile only the proxies are kept, so a chain can lead to an outbound that
was dropped; and a rule that names both an outbound and a balancer is kept for the sake
of one of them.
-/

namespace Varmlen.Core

open Foundation.Json Foundation.Text

/-- The outbound that an outbound's connections are handed to. -/
def proxySettingsTag (outbound : Value) : Option String :=
  (outbound.get "proxySettings").bind (·.getString "tag")

/-- The outbound that an outbound's own dials go through. -/
def dialerProxy (outbound : Value) : Option String :=
  ((outbound.get "streamSettings").bind (·.get "sockopt")).bind (·.getString "dialerProxy")

/-- The rule names nothing but the given outbounds and balancers. -/
structure RuleClosed (tags balancerTags : List String) (rule : Value) : Prop where
  outbound : ∀ tag, rule.getString "outboundTag" = some tag → tag ∈ tags
  balancer : ∀ tag, rule.getString "balancerTag" = some tag → tag ∈ balancerTags

/-- The chains of an outbound lead to one of the given outbounds. -/
structure ChainsClosed (tags : List String) (outbound : Value) : Prop where
  proxySettings : ∀ tag, proxySettingsTag outbound = some tag → tag ∈ tags
  dialer : ∀ tag, dialerProxy outbound = some tag → tag ∈ tags

/-- Every reference of a config leads to something in it. -/
structure NoDangling (config : Value) : Prop where
  rules : ∀ rule ∈ configRules config,
    RuleClosed (tagsOf (configOutbounds config)) (tagsOf (configBalancers config)) rule
  chains : ∀ outbound ∈ configOutbounds config,
    ChainsClosed (tagsOf (configOutbounds config)) outbound

theorem noDangling_iff {config : Value} :
    NoDangling config ↔
      (∀ rule ∈ configRules config,
        RuleClosed (tagsOf (configOutbounds config)) (tagsOf (configBalancers config)) rule) ∧
      ∀ outbound ∈ configOutbounds config,
        ChainsClosed (tagsOf (configOutbounds config)) outbound :=
  ⟨fun closed => ⟨closed.rules, closed.chains⟩, fun closed => ⟨closed.1, closed.2⟩⟩

/-! ## What a location brings along -/

/-- The tags of a location's proxies. -/
def locationProxyTags (server : VlessServer) : List String :=
  match server.rawProfile with
  | some profile => if isCompositeProfile profile then profileProxyTags profile else ["proxy"]
  | none => ["proxy"]

/-- The tags of a location's balancers. -/
def locationBalancerTags (server : VlessServer) : List String :=
  match server.rawProfile with
  | some profile => tagsOf (balancerItems (profileBalancers profile))
  | none => []

/-- The tags of the outbounds in a tunnel config. -/
def locationTags (server : VlessServer) : List String :=
  locationProxyTags server ++ reservedOutboundTags

/-- No rule that is kept has a second target that does not exist, and no proxy of a
composite profile is chained to an outbound that is not kept.  WireGuard loses its
dialer with its stream settings. -/
structure ReferencesClosed (server : VlessServer) : Prop where
  rules : ∀ rule ∈ profileRules server,
    keepsRule (locationProxyTags server) (locationBalancerTags server) rule = true →
    ∀ outbound balancer, rule.getString "outboundTag" = some outbound →
      rule.getString "balancerTag" = some balancer →
      outbound ∈ locationTags server ∧ balancer ∈ locationBalancerTags server
  chains : ∀ profile, server.rawProfile = some profile → isCompositeProfile profile = true →
    ∀ outbound ∈ profile.getItems "outbounds", isProxyOutbound outbound = true →
      (∀ tag, proxySettingsTag outbound = some tag → tag ∈ locationTags server) ∧
      ∀ tag, isWireguard outbound = false → dialerProxy outbound = some tag →
        tag ∈ locationTags server

theorem plan_tags {parseJson : JsonParser} {order : HashOrder} {server : VlessServer}
    {plan : OutboundPlan} (planned : outboundPlan parseJson order server = .ok plan) :
    tagsOf plan.proxies = locationProxyTags server ∧
      tagsOf (balancerItems plan.balancers) = locationBalancerTags server := by
  constructor
  · rw [locationProxyTags]
    rcases outboundPlan_proxies planned with
      ⟨profile, given, composite, collected, _⟩ | ⟨simple, proxy, built, proxies, _⟩
    · rw [given]
      dsimp only
      rw [if_pos composite]
      exact (providerProxyOutbounds_eq_ok collected).1
    · have lone : tagsOf plan.proxies = ["proxy"] := by
        simp [proxies, tagsOf, (buildProxyOutbound_eq_ok built).2]
      cases given : server.rawProfile with
      | none => exact lone
      | some profile =>
          dsimp only
          rw [simple profile given]
          exact lone
  · rw [locationBalancerTags]
    cases (outboundPlan_eq_ok planned).1 with
    | composite profile given collected balancers checked target => rw [balancers, given]
    | single proxy built proxies target balancers unbalanced =>
        rw [balancers]
        cases given : server.rawProfile with
        | none => rfl
        | some profile =>
            dsimp only
            rw [unbalanced profile given]

/-! ## Generated rules -/

/-- The target is one of the given outbounds or balancers. -/
def TargetKnown (tags balancerTags : List String) : ProxyTarget → Prop
  | .outbound tag => tag ∈ tags
  | .balancer tag => tag ∈ balancerTags

section Generated

variable {tags balancerTags : List String}

/-- A rule that is given a known target. -/
theorem ruleClosed_apply {target : ProxyTarget} (known : TargetKnown tags balancerTags target)
    {key : String} (selector : Value) (notOutbound : key ≠ "outboundTag")
    (notBalancer : key ≠ "balancerTag") :
    RuleClosed tags balancerTags (target.apply (fieldRule key selector)) := by
  cases target with
  | outbound own =>
      constructor
      · intro tag named
        have same : own = tag := by
          simpa [ProxyTarget.apply, fieldRule, Value.ofFields, Value.getString, Value.get_set,
            Value.asString] using named
        exact same ▸ known
      · intro tag named
        simp [ProxyTarget.apply, fieldRule, Value.ofFields, Value.getString, Value.get_set,
          Object.ofFields, Object.get_insert, Object.get, notBalancer] at named
  | balancer own =>
      constructor
      · intro tag named
        simp [ProxyTarget.apply, fieldRule, Value.ofFields, Value.getString, Value.get_set,
          Object.ofFields, Object.get_insert, Object.get, notOutbound] at named
      · intro tag named
        have same : own = tag := by
          simpa [ProxyTarget.apply, fieldRule, Value.ofFields, Value.getString, Value.get_set,
            Value.asString] using named
        exact same ▸ known

theorem ruleClosed_sendTo {target : ProxyTarget} (known : TargetKnown tags balancerTags target)
    (direct : "direct" ∈ tags) (useProxy : Bool) {key : String} (selector : Value)
    (notOutbound : key ≠ "outboundTag") (notBalancer : key ≠ "balancerTag") :
    RuleClosed tags balancerTags (sendTo useProxy target (fieldRule key selector)) := by
  cases useProxy with
  | true => exact ruleClosed_apply known selector notOutbound notBalancer
  | false =>
      have directKnown : TargetKnown tags balancerTags (.outbound "direct") := direct
      exact ruleClosed_apply directKnown selector notOutbound notBalancer

theorem ruleClosed_dnsRule (present : "dns-out" ∈ tags) (inboundTag : String) :
    RuleClosed tags balancerTags (dnsRule inboundTag) := by
  constructor
  · intro tag named
    have own : (dnsRule inboundTag).getString "outboundTag" = some "dns-out" :=
      Value.getString_ofFields (by simp) (by simp)
    rw [own] at named
    cases named
    exact present
  · intro tag named
    rw [Value.getString, dnsRule, Value.get_ofFields_none (by simp)] at named
    cases named

/-- What is generated before the provider's rules refers to what is there. -/
theorem ruleClosed_leading {target : ProxyTarget} (known : TargetKnown tags balancerTags target)
    (reserved : ∀ tag ∈ reservedOutboundTags, tag ∈ tags) {split : SplitInput}
    {allowLan : Bool} {inboundTag : String} {tun : TunMode} :
    ∀ rule ∈ leadingRules split allowLan inboundTag tun target,
      RuleClosed tags balancerTags rule := by
  have direct : "direct" ∈ tags := reserved _ (by simp [reservedOutboundTags])
  have directKnown : TargetKnown tags balancerTags (.outbound "direct") := direct
  intro rule member
  simp only [leadingRules, List.mem_append, List.mem_singleton] at member
  rcases member with ((dns | lan) | app) | site
  · rw [dns]
    exact ruleClosed_dnsRule (reserved _ (by simp [reservedOutboundTags])) inboundTag
  · cases allowLan with
    | false => cases lan
    | true =>
        rw [List.mem_singleton.1 lan]
        exact ruleClosed_apply directKnown _ (by decide) (by decide)
  · cases tun with
    | tun2socks => cases app
    | xrayNative =>
        rcases List.mem_map.1 app with ⟨name, _, rfl⟩
        exact ruleClosed_sendTo known direct _ _ (by decide) (by decide)
  · rw [siteRules] at site
    split at site
    next => cases site
    next =>
      rw [List.mem_singleton.1 site]
      exact ruleClosed_sendTo known direct _ _ (by decide) (by decide)

theorem known_of_kept {proxyTags : List String} {rule : Value}
    (kept : keepsRule proxyTags balancerTags rule = true) :
    (∃ tag, rule.getString "outboundTag" = some tag ∧
      (tag ∈ reservedOutboundTags ∨ tag ∈ proxyTags)) ∨
    ∃ tag, rule.getString "balancerTag" = some tag ∧ tag ∈ balancerTags := by
  cases rule with
  | object fields =>
      simp only [keepsRule, Value.asObject, hasKnownTarget, Bool.and_eq_true,
        Bool.or_eq_true] at kept
      rcases kept.1.2 with outbound | balancer
      · left
        rw [Value.getString, Value.get_object]
        split at outbound
        next tag named =>
          refine ⟨tag, named, ?_⟩
          simp only [Bool.or_eq_true, beq_iff_eq, List.contains_iff_mem] at outbound
          rcases outbound with (direct | block) | proxy
          · exact .inl (by simp [direct, reservedOutboundTags])
          · exact .inl (by simp [block, reservedOutboundTags])
          · exact .inr proxy
        next => cases outbound
      · right
        rw [Value.getString, Value.get_object]
        split at balancer
        next tag named => exact ⟨tag, named, List.contains_iff_mem.1 balancer⟩
        next => cases balancer
  | _ => cases kept

/-- A kept rule names something known, so only a second target can be missing. -/
theorem ruleClosed_kept_iff {proxyTags : List String}
    (proxies : ∀ tag ∈ proxyTags, tag ∈ tags)
    (reserved : ∀ tag ∈ reservedOutboundTags, tag ∈ tags) {rule : Value}
    (kept : keepsRule proxyTags balancerTags rule = true) :
    RuleClosed tags balancerTags rule ↔
      ∀ outbound balancer, rule.getString "outboundTag" = some outbound →
        rule.getString "balancerTag" = some balancer →
        outbound ∈ tags ∧ balancer ∈ balancerTags := by
  constructor
  · intro closed outbound balancer toOutbound toBalancer
    exact ⟨closed.outbound outbound toOutbound, closed.balancer balancer toBalancer⟩
  · intro both
    rcases known_of_kept kept with ⟨own, named, known⟩ | ⟨own, named, known⟩
    · constructor
      · intro tag toOutbound
        rw [named] at toOutbound
        cases toOutbound
        exact known.elim (reserved own) (proxies own)
      · intro tag toBalancer
        exact (both own tag named toBalancer).2
    · constructor
      · intro tag toOutbound
        exact (both tag own toOutbound named).1
      · intro tag toBalancer
        rw [named] at toBalancer
        cases toBalancer
        exact known

end Generated

/-! ## Chains -/

/-- An outbound without chains. -/
theorem chainsClosed_of_none {tags : List String} {outbound : Value}
    (unhanded : proxySettingsTag outbound = none) (undialled : dialerProxy outbound = none) :
    ChainsClosed tags outbound := by
  constructor
  · intro tag named
    rw [unhanded] at named
    cases named
  · intro tag named
    rw [undialled] at named
    cases named

/-- The chains of an outbound depend on two of its fields. -/
theorem chains_congr {left right : Value}
    (proxySettings : left.get "proxySettings" = right.get "proxySettings")
    (stream : left.get "streamSettings" = right.get "streamSettings") :
    proxySettingsTag left = proxySettingsTag right ∧ dialerProxy left = dialerProxy right := by
  rw [proxySettingsTag, proxySettingsTag, dialerProxy, dialerProxy, proxySettings, stream]
  exact ⟨rfl, rfl⟩

/-- Reading through an object field is reading through the value there. -/
theorem objectField_get (object : Object) (key wanted : String) :
    (objectField object key).get wanted = (object.get key).bind (·.get wanted) := by
  rw [objectField]
  cases object.get key with
  | none => rfl
  | some value => cases value <;> rfl

theorem asObject_getD_get (value : Value) (key : String) :
    Object.get (value.asObject.getD []) key = value.get key := by
  cases value <;> rfl

/-- The dialer in the stream settings of a sanitized outbound. -/
theorem sanitizedStream_dialer (outbound : Value) (preserve : Bool) :
    ((sanitizedStream outbound preserve).get "sockopt").bind (·.getString "dialerProxy") =
      if preserve then dialerProxy outbound else none := by
  rw [sanitizedStream, Object.get_insert_self, Option.bind_some, Value.getString,
    Value.get_object, Object.get_insert_of_ne _ _ (by decide)]
  cases preserve with
  | false => simp [Object.get_remove]
  | true =>
      simp only [if_true]
      rw [objectField_get, objectField_get, asObject_getD_get, dialerProxy, Option.bind_assoc]
      rfl

/-- A sanitized outbound of a profile keeps its chains, without the dialer of
WireGuard. -/
theorem sanitized_chains {outbound : Value} {object : Object}
    (sanitized : sanitizeRawOutbound outbound true = .ok object) :
    proxySettingsTag (.object object) = proxySettingsTag outbound ∧
      dialerProxy (.object object) =
        if isWireguard outbound then none else dialerProxy outbound := by
  constructor
  · have kept := (sanitizeRawOutbound_eq_ok sanitized).2 "proxySettings" (by decide) (by decide)
    rw [proxySettingsTag, proxySettingsTag, Value.get_object, kept]
    rfl
  · rw [dialerProxy, Value.get_object, (sanitizeRawOutbound_stream sanitized).2]
    cases isWireguard outbound with
    | true => rfl
    | false => exact sanitizedStream_dialer outbound true

/-- A lone outbound loses its chains. -/
theorem sanitized_unchained {outbound : Value} {object : Object}
    (sanitized : sanitizeRawOutbound outbound false = .ok object) :
    proxySettingsTag (.object object) = none ∧ dialerProxy (.object object) = none := by
  constructor
  · have dropped := (sanitizeRawOutbound_eq_ok sanitized).2 "proxySettings" (by decide)
      (by decide)
    rw [proxySettingsTag, Value.get_object, dropped]
    rfl
  · rw [dialerProxy, Value.get_object, (sanitizeRawOutbound_stream sanitized).2]
    cases isWireguard outbound with
    | true => rfl
    | false => exact sanitizedStream_dialer outbound false

theorem buildProxyOutbound_unchained {parseJson : JsonParser} {server : VlessServer}
    {proxy : Value} (built : buildProxyOutbound parseJson server = .ok proxy) :
    proxySettingsTag proxy = none ∧ dialerProxy proxy = none := by
  have written {protocol : String} {settings : Value} :
      let outbound := Value.ofFields
        [("tag", .string "proxy"), ("protocol", .string protocol), ("settings", settings),
          ("streamSettings", buildStreamSettings parseJson server)]
      proxySettingsTag outbound = none ∧ dialerProxy outbound = none := by
    constructor
    · rw [proxySettingsTag, Value.get_ofFields_none (by simp)]
      rfl
    · have stream := @Object.get_ofFields
        [("tag", .string "proxy"), ("protocol", .string protocol), ("settings", settings),
          ("streamSettings", buildStreamSettings parseJson server)]
        (by simp) "streamSettings" (buildStreamSettings parseJson server) (by simp)
      rw [dialerProxy, Value.ofFields, Value.get_object, stream, buildStreamSettings,
        Option.bind_some, Value.get_object, Object.get_insert_self, Option.bind_some,
        Value.getString, Value.get_ofFields_none (by simp)]
      rfl
  rw [buildProxyOutbound] at built
  split at built
  next outbound _ =>
    split at built
    next => cases built
    next object sanitized =>
      cases built
      exact sanitized_unchained sanitized
  next =>
    split at built
    next =>
      cases built
      constructor
      · rw [proxySettingsTag, buildWireguardOutbound, Value.get_ofFields_none (by simp)]
        rfl
      · rw [dialerProxy, buildWireguardOutbound, Value.get_ofFields_none (by simp)]
        rfl
    next =>
      split at built
      next =>
        cases built
        exact written
      next =>
        cases built
        exact written

/-- The chains of a profile's proxies are those of its outbounds. -/
theorem Collected.chains_iff {tags : List String} {index : Nat} {taken : List String}
    {outbounds proxies : List Value} (collected : Collected index taken outbounds proxies) :
    (∀ proxy ∈ proxies, ChainsClosed tags proxy) ↔
      ∀ outbound ∈ outbounds, isProxyOutbound outbound = true →
        (∀ tag, proxySettingsTag outbound = some tag → tag ∈ tags) ∧
        ∀ tag, isWireguard outbound = false → dialerProxy outbound = some tag → tag ∈ tags := by
  induction collected with
  | nil => simp
  | skip other later ih => simp [ih, other]
  | @keep index taken outbound rest others object proxy sanitized unreserved unused later ih =>
      rw [List.forall_mem_cons, List.forall_mem_cons, ih]
      apply and_congr_left
      intro _
      rcases sanitized_chains sanitized with ⟨handed, dialled⟩
      rcases @chains_congr (.object (object.insert "tag" (.string (outboundTagOr object index))))
        (.object object) (Object.get_insert_of_ne _ _ (by decide))
        (Object.get_insert_of_ne _ _ (by decide)) with ⟨sameHanded, sameDialled⟩
      constructor
      · intro closed _
        constructor
        · intro tag named
          exact closed.proxySettings tag (by rw [sameHanded, handed, named])
        · intro tag other named
          exact closed.dialer tag (by rw [sameDialled, dialled, other, named]; rfl)
      · intro closed
        rcases closed proxy with ⟨closedHanded, closedDialled⟩
        constructor
        · intro tag named
          exact closedHanded tag (by rw [← handed, ← sameHanded, named])
        · intro tag named
          rw [sameDialled, dialled] at named
          split at named
          next => cases named
          next other => exact closedDialled tag (Bool.not_eq_true _ ▸ other) named

/-! ## Configs -/

section Config

variable {parseJson : JsonParser} {order : HashOrder} {server : VlessServer}
  {plan : OutboundPlan} (planned : outboundPlan parseJson order server = .ok plan)

include planned

theorem target_known :
    TargetKnown (locationTags server) (locationBalancerTags server) plan.target := by
  rcases plan_tags planned with ⟨proxyTags, balancerTags⟩
  rcases planRule_target (outboundPlan_eq_ok planned).1 with
    ⟨tag, member, target⟩ | ⟨tag, member, target⟩
  · rw [target]
    exact List.mem_append_left _ (proxyTags ▸ member)
  · rw [target]
    exact balancerTags ▸ member

/-- What holds of every generated rule holds of all rules of a config when it holds of
the profile's rules that are kept. -/
theorem forall_tunnelRules_iff {property : Value → Prop} {options : TunnelOptions}
    {dns : DnsPlan}
    (leading : ∀ rule ∈ leadingRules options.split options.allowLan
      (effectiveTun options.mode options.tun).inboundTag
      (effectiveTun options.mode options.tun) plan.target, property rule)
    (pin : property (pinRule plan.target dns.upstreamIps))
    (default : property (defaultRule options.split (effectiveTun options.mode options.tun)
      plan.target)) :
    (∀ rule ∈ tunnelRules options plan dns, property rule) ↔
    ∀ rule ∈ profileRules server,
      keepsRule (locationProxyTags server) (locationBalancerTags server) rule = true →
      property rule := by
  rcases plan_tags planned with ⟨proxyTags, balancerTags⟩
  have retained : plan.providerRules = (profileRules server).filter
      (keepsRule (locationProxyTags server) (locationBalancerTags server)) := by
    rw [(outboundPlan_eq_ok planned).2, safeProviderRouteRules, proxyTags, balancerTags]
  rw [tunnelRules, buildRouteRules, retained]
  constructor
  · intro all rule member kept
    apply all
    exact List.mem_append_left _ (List.mem_append_right _ (List.mem_filter.2 ⟨member, kept⟩))
  · intro provided rule member
    rcases List.mem_append.1 member with member | last
    · rcases List.mem_append.1 member with first | provider
      · exact leading rule first
      · rcases List.mem_filter.1 provider with ⟨listed, kept⟩
        exact provided rule listed kept
    · rcases List.mem_cons.1 last with isPin | isDefault
      · exact isPin ▸ pin
      · exact List.mem_singleton.1 isDefault ▸ default

theorem rules_closed_iff {options : TunnelOptions} {dns : DnsPlan} :
    (∀ rule ∈ tunnelRules options plan dns,
      RuleClosed (locationTags server) (locationBalancerTags server) rule) ↔
    ∀ rule ∈ profileRules server,
      keepsRule (locationProxyTags server) (locationBalancerTags server) rule = true →
      ∀ outbound balancer, rule.getString "outboundTag" = some outbound →
        rule.getString "balancerTag" = some balancer →
        outbound ∈ locationTags server ∧ balancer ∈ locationBalancerTags server := by
  have known := target_known planned
  have reserved : ∀ tag ∈ reservedOutboundTags, tag ∈ locationTags server :=
    fun tag member => List.mem_append_right _ member
  have proxies : ∀ tag ∈ locationProxyTags server, tag ∈ locationTags server :=
    fun tag member => List.mem_append_left _ member
  rw [forall_tunnelRules_iff planned (ruleClosed_leading known reserved)
    (ruleClosed_apply known _ (by decide) (by decide))
    (ruleClosed_sendTo known (reserved _ (by simp [reservedOutboundTags])) _ _ (by decide)
      (by decide))]
  apply forall_congr'
  intro rule
  apply forall_congr'
  intro _
  apply forall_congr'
  intro kept
  exact ruleClosed_kept_iff proxies reserved kept

theorem chains_closed_iff :
    (∀ outbound ∈ tunnelOutbounds plan.proxies, ChainsClosed (locationTags server) outbound) ↔
    ∀ profile, server.rawProfile = some profile → isCompositeProfile profile = true →
      ∀ outbound ∈ profile.getItems "outbounds", isProxyOutbound outbound = true →
        (∀ tag, proxySettingsTag outbound = some tag → tag ∈ locationTags server) ∧
        ∀ tag, isWireguard outbound = false → dialerProxy outbound = some tag →
          tag ∈ locationTags server := by
  have fixed : ∀ outbound ∈ tunnelOutbounds [], ChainsClosed (locationTags server) outbound := by
    intro outbound member
    have unchained : ∀ outbound ∈ tunnelOutbounds [],
        proxySettingsTag outbound = none ∧ dialerProxy outbound = none := by decide
    exact chainsClosed_of_none (unchained outbound member).1 (unchained outbound member).2
  have onlyProxies : (∀ outbound ∈ tunnelOutbounds plan.proxies,
      ChainsClosed (locationTags server) outbound) ↔
      ∀ proxy ∈ plan.proxies, ChainsClosed (locationTags server) proxy := by
    constructor
    · intro closed proxy member
      exact closed proxy (List.mem_append_left _ member)
    · intro closed outbound member
      rcases List.mem_append.1 member with proxy | other
      · exact closed outbound proxy
      · exact fixed outbound other
  rw [onlyProxies]
  rcases outboundPlan_proxies planned with
    ⟨profile, given, composite, collected, _⟩ | ⟨simple, proxy, built, proxies, _⟩
  · rw [(providerProxyOutbounds_collected collected).chains_iff]
    constructor
    · intro closed other otherGiven _
      rw [given] at otherGiven
      cases otherGiven
      exact closed
    · intro closed
      exact closed profile given composite
  · rcases buildProxyOutbound_unchained built with ⟨unhanded, undialled⟩
    rw [proxies, List.forall_mem_singleton]
    constructor
    · intro _ profile given composite
      rw [simple profile given] at composite
      cases composite
    · intro _
      exact chainsClosed_of_none unhanded undialled

end Config

/-- In a tunnel config no reference dangles exactly when no kept rule has a second target
that does not exist and no proxy of a composite profile is chained to an outbound that is
not kept. -/
theorem no_dangling_iff {urls : UrlParser} {parseJson : JsonParser} {order : HashOrder}
    {server : VlessServer} {options : TunnelOptions} {config : Value}
    (built : buildXrayConfig urls parseJson order server options = .ok config) :
    NoDangling config ↔ ReferencesClosed server := by
  rcases buildXrayConfig_eq_ok built with ⟨plan, planned, rfl⟩
  rcases plan_tags planned with ⟨proxyTags, balancerTags⟩
  have tags : tagsOf (tunnelOutbounds plan.proxies) = locationTags server := by
    rw [tunnelOutbounds, tagsOf, List.filterMap_append, ← tagsOf, proxyTags, locationTags]
    rfl
  rw [noDangling_iff, configRules_tunnelConfig, configOutbounds_tunnelConfig,
    configBalancers_tunnelConfig, tags, balancerTags, rules_closed_iff planned,
    chains_closed_iff planned]
  constructor
  · intro closed
    exact ⟨closed.1, closed.2⟩
  · intro closed
    exact ⟨closed.rules, closed.chains⟩

/-- A profile with two proxies, the first dialling through the given outbound, and an
outbound that splits the first packets of a connection. -/
def fragmentProfile (dialer : String) : Value :=
  .ofFields [("outbounds", .array
    [.ofFields
      [("tag", .string "first"), ("protocol", .string "vless"),
        ("streamSettings", .ofFields
          [("sockopt", .ofFields [("dialerProxy", .string dialer)])])],
      .ofFields [("tag", .string "second"), ("protocol", .string "vless")],
      .ofFields [("tag", .string "fragment"), ("protocol", .string "freedom")]])]

/-- A chain between two proxies is closed. -/
theorem no_dangling_between_proxies :
    let server := VlessServer.ofProfile (fragmentProfile "second")
    ∃ config,
      buildXrayConfig (.ofPlain []) (fun _ => none) .inserted server (.plain false) =
        .ok config ∧ NoDangling config :=
  ⟨_, rfl, (@no_dangling_iff (.ofPlain []) (fun _ => none) .inserted
    (.ofProfile (fragmentProfile "second")) (.plain false) _ rfl).2 (by
      constructor
      · intro rule member
        cases member
      · intro profile given _ outbound member _
        cases given
        have chains : ∀ outbound ∈ (fragmentProfile "second").getItems "outbounds",
            proxySettingsTag outbound = none ∧
              (dialerProxy outbound).all (· == "second") = true := by decide
        rcases chains outbound member with ⟨unhanded, dialled⟩
        constructor
        · intro tag named
          rw [unhanded] at named
          cases named
        · intro tag _ named
          rw [named, Option.all_some, beq_iff_eq] at dialled
          rw [dialled]
          decide)⟩

/-- The outbound that splits packets is dropped, and the proxy that dials through it is
not. -/
theorem dialer_dangles :
    let server := VlessServer.ofProfile (fragmentProfile "fragment")
    ∃ config,
      buildXrayConfig (.ofPlain []) (fun _ => none) .inserted server (.plain false) =
        .ok config ∧ ¬ NoDangling config := by
  refine ⟨_, rfl, ?_⟩
  intro closed
  have present := (closed.chains _ (.head _)).dialer "fragment" (by decide)
  revert present
  decide

end Varmlen.Core
