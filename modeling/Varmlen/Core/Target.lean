import Varmlen.Core.Xray

/-!
# Where the proxy target ends

What is sent to the proxy target of a generated config should leave through a
proxy.  The outbounds of a plan are all proxies, so a target that names one of
them is safe.  A balancer is taken over from the profile as it is, and what it may
end at depends on its selectors and its fallback: they are matched against the
fixed outbounds of the config as well.
-/

namespace Varmlen.Core

open Foundation.Json Foundation.Text

/-! ## Proxy outbounds -/

/-- What sanitizing leaves of an outbound's fields, apart from its source address
and its stream settings. -/
def sanitizedField (outbound : Value) (preserveTagAndChains : Bool) (key : String) :
    Option Value :=
  if preserveTagAndChains then outbound.get key
  else if key = "tag" then some (.string "proxy")
  else if key = "proxySettings" then none
  else outbound.get key

/-- Only a proxy outbound can be sanitized, and its other fields are kept. -/
theorem sanitizeRawOutbound_eq_ok {outbound : Value} {preserve : Bool} {object : Object}
    (sanitized : sanitizeRawOutbound outbound preserve = .ok object) :
    isProxyOutbound outbound = true ∧
      ∀ key, key ≠ "sendThrough" → key ≠ "streamSettings" →
        Object.get object key = sanitizedField outbound preserve key := by
  rw [sanitizeRawOutbound] at sanitized
  split at sanitized
  next => cases sanitized
  next =>
    cases outbound with
    | object fields =>
        simp only [Value.asObject] at sanitized
        split at sanitized
        next => cases sanitized
        next protocol named =>
          split at sanitized
          next => cases sanitized
          next known =>
            constructor
            · simpa [isProxyOutbound, Value.getString, named] using known
            · intro key notSource notStream
              split at sanitized <;> cases sanitized <;> cases preserve <;>
                simp [sanitizedField, Object.get_remove, Object.get_insert, eq_comm,
                  notSource, notStream]
    | _ => cases sanitized

/-- The settings of a share link belong to a proxy protocol. -/
theorem protocolSettings_known (server : VlessServer) :
    isProxyProtocol (toAsciiLowercase (protocolSettings server).1) = true := by
  rw [protocolSettings]
  repeat' split
  all_goals
    dsimp only
    decide

/-- An outbound that is written out with the tag `proxy` and a proxy protocol. -/
private theorem proxy_ofFields {protocol : String} {rest : List (String × Value)}
    (known : isProxyProtocol (toAsciiLowercase protocol) = true)
    (others : ∀ field ∈ rest, field.1 ≠ "protocol" ∧ field.1 ≠ "tag") :
    let outbound := Value.ofFields
      (("tag", .string "proxy") :: ("protocol", .string protocol) :: rest)
    isProxyOutbound outbound = true ∧ outbound.getString "tag" = some "proxy" := by
  have kept (key : String) := @Object.get_foldl_insert_of_absent key rest
    (Object.insert (Object.insert [] "tag" (.string "proxy")) "protocol" (.string protocol))
  have protocolField := kept "protocol" fun field member => (others field member).1
  have tagField := kept "tag" fun field member => (others field member).2
  simp only [Object.get_insert] at protocolField tagField
  constructor
  · simp [isProxyOutbound, Value.getString, Value.ofFields, Object.ofFields, protocolField,
      Value.asString, known]
  · simp [Value.getString, Value.ofFields, Object.ofFields, tagField, Value.asString]

/-- The outbound of a location without a composite profile is the proxy `proxy`. -/
theorem buildProxyOutbound_eq_ok {parseJson : JsonParser} {server : VlessServer}
    {proxy : Value} (built : buildProxyOutbound parseJson server = .ok proxy) :
    isProxyOutbound proxy = true ∧ proxy.getString "tag" = some "proxy" := by
  rw [buildProxyOutbound] at built
  split at built
  next outbound _ =>
    split at built
    next => cases built
    next object sanitized =>
      cases built
      have kept := sanitizeRawOutbound_eq_ok sanitized
      have protocol := kept.2 "protocol" (by decide) (by decide)
      have tag := kept.2 "tag" (by decide) (by decide)
      constructor
      · rw [← kept.1]
        simp [isProxyOutbound, Value.getString, protocol, sanitizedField]
      · simp [Value.getString, tag, sanitizedField, Value.asString]
  next =>
    split at built
    next =>
      cases built
      exact proxy_ofFields (by decide) (by simp)
    next =>
      split at built
      next simple =>
        cases built
        apply proxy_ofFields
        · rcases simple with http | socks
          · rw [http]
            decide
          · rw [socks]
            decide
        · simp
      next =>
        cases built
        exact proxy_ofFields (protocolSettings_known server) (by simp)

/-- The tags of a profile's proxy outbounds, their own or by position, from `index`
on. -/
def proxyTagsFrom : (index : Nat) → List Value → List String
  | _, [] => []
  | index, outbound :: rest =>
      if isProxyOutbound outbound then
        outboundTagOr (outbound.asObject.getD []) index :: proxyTagsFrom (index + 1) rest
      else proxyTagsFrom (index + 1) rest

/-- The tags of a profile's proxy outbounds. -/
def profileProxyTags (profile : Value) : List String :=
  proxyTagsFrom 0 (profile.getItems "outbounds")

theorem outboundTagOr_ne_empty (object : Object) (index : Nat) :
    outboundTagOr object index ≠ "" := by
  have default : defaultTag index ≠ "" := by
    rw [defaultTag]
    split
    next => decide
    next =>
      intro empty
      have chars := congrArg String.toList empty
      simp at chars
  rw [outboundTagOr]
  split
  next =>
    split
    next => exact default
    next named => exact named
  next => exact default

/-- Sanitizing does not change the tag that an outbound is given. -/
private theorem sanitized_outboundTagOr {outbound : Value} {object : Object}
    (sanitized : sanitizeRawOutbound outbound true = .ok object) (index : Nat) :
    outboundTagOr object index = outboundTagOr (outbound.asObject.getD []) index := by
  have kept := (sanitizeRawOutbound_eq_ok sanitized).2 "tag" (by decide) (by decide)
  rw [sanitizedField, if_pos rfl] at kept
  rw [outboundTagOr, outboundTagOr, kept]
  cases outbound <;> rfl

/-- A sanitized outbound is a proxy under whatever tag it is given. -/
private theorem sanitized_isProxyOutbound {outbound : Value} {object : Object}
    (sanitized : sanitizeRawOutbound outbound true = .ok object) (tag : String) :
    isProxyOutbound (.object (object.insert "tag" (.string tag))) = true := by
  rcases sanitizeRawOutbound_eq_ok sanitized with ⟨proxy, kept⟩
  have protocol := kept "protocol" (by decide) (by decide)
  rw [sanitizedField, if_pos rfl] at protocol
  simpa [isProxyOutbound, Value.getString, Object.get_insert, protocol] using proxy

/-- How the proxies of a profile come about, from `index` on and with the tags taken so
far: other outbounds are passed over, and a proxy is kept under a free tag. -/
inductive Collected : (index : Nat) → (tags : List String) → List Value → List Value → Prop
  | nil {index : Nat} {tags : List String} : Collected index tags [] []
  | skip {index : Nat} {tags : List String} {outbound : Value} {rest proxies : List Value}
      (other : isProxyOutbound outbound = false)
      (later : Collected (index + 1) tags rest proxies) :
      Collected index tags (outbound :: rest) proxies
  | keep {index : Nat} {tags : List String} {outbound : Value} {rest others : List Value}
      {object : Object} (proxy : isProxyOutbound outbound = true)
      (sanitized : sanitizeRawOutbound outbound true = .ok object)
      (unreserved : outboundTagOr object index ∉ reservedOutboundTags)
      (unused : outboundTagOr object index ∉ tags)
      (later : Collected (index + 1) (outboundTagOr object index :: tags) rest others) :
      Collected index tags (outbound :: rest)
        (.object (object.insert "tag" (.string (outboundTagOr object index))) :: others)

theorem collected_of_ok {index : Nat} {tags : List String} {outbounds proxies : List Value}
    (collected : collectProxies index tags outbounds = .ok proxies) :
    Collected index tags outbounds proxies := by
  induction outbounds generalizing index tags proxies with
  | nil =>
      cases collected
      exact .nil
  | cons outbound rest ih =>
      rw [collectProxies] at collected
      by_cases proxy : isProxyOutbound outbound = true
      · rw [if_neg (by simpa [isProxyOutbound] using proxy)] at collected
        split at collected
        next => cases collected
        next object sanitized =>
          dsimp only at collected
          split at collected
          next => cases collected
          next free =>
            have unused : outboundTagOr object index ∉ reservedOutboundTags ∧
                outboundTagOr object index ∉ tags := by simpa using free
            split at collected
            next => cases collected
            next others inner =>
              cases collected
              exact .keep proxy sanitized unused.1 unused.2 (ih inner)
      · rw [if_pos (by simpa [isProxyOutbound] using proxy)] at collected
        exact .skip (Bool.not_eq_true _ ▸ proxy) (ih collected)

/-- The tag that an outbound is kept under is its tag from then on. -/
theorem tagsOf_keep (object : Object) (tag : String) (others : List Value) :
    tagsOf (.object (object.insert "tag" (.string tag)) :: others) = tag :: tagsOf others := by
  simp [tagsOf, Value.getString, Value.asString]

/-- What is known of the proxies that are collected from a profile. -/
theorem Collected.tags_free {index : Nat} {tags : List String}
    {outbounds proxies : List Value} (collected : Collected index tags outbounds proxies) :
    tagsOf proxies = proxyTagsFrom index outbounds ∧
      (∀ proxy ∈ proxies, isProxyOutbound proxy = true) ∧
      ∀ tag ∈ tagsOf proxies, tag ∉ reservedOutboundTags ∧ tag ≠ "" := by
  induction collected with
  | nil => simp [tagsOf, proxyTagsFrom]
  | skip other later ih =>
      rw [proxyTagsFrom, if_neg (by simp [other])]
      exact ih
  | keep proxy sanitized unreserved unused later ih =>
      rcases ih with ⟨tagsEqual, proxies, free⟩
      rw [tagsOf_keep, List.forall_mem_cons, List.forall_mem_cons]
      refine ⟨?_, ⟨sanitized_isProxyOutbound sanitized _, proxies⟩,
        ⟨unreserved, outboundTagOr_ne_empty _ _⟩, free⟩
      rw [proxyTagsFrom, if_pos proxy, tagsEqual, sanitized_outboundTagOr sanitized]

theorem providerProxyOutbounds_collected {profile : Value} {proxies : List Value}
    (collected : providerProxyOutbounds profile = .ok proxies) :
    Collected 0 [] (profile.getItems "outbounds") proxies := by
  rw [providerProxyOutbounds] at collected
  split at collected
  next => cases collected
  next outbounds listed =>
    split at collected
    next => cases collected
    next => cases collected
    next inner =>
      cases collected
      rw [Value.getItems, listed]
      exact collected_of_ok inner

theorem providerProxyOutbounds_eq_ok {profile : Value} {proxies : List Value}
    (collected : providerProxyOutbounds profile = .ok proxies) :
    tagsOf proxies = profileProxyTags profile ∧
      (∀ proxy ∈ proxies, isProxyOutbound proxy = true) ∧
      ∀ tag ∈ tagsOf proxies, tag ∉ reservedOutboundTags ∧ tag ≠ "" :=
  (providerProxyOutbounds_collected collected).tags_free

/-! ## Plans -/

/-- How a plan comes about: from a composite profile, or with one outbound. -/
inductive PlanRule (parseJson : JsonParser) (order : HashOrder) (server : VlessServer)
    (plan : OutboundPlan) : Prop
  | composite (profile : Value)
      (given : server.rawProfile = some profile)
      (collected : providerProxyOutbounds profile = .ok plan.proxies)
      (balancers : plan.balancers = profileBalancers profile)
      (checked : checkBalancers (tagsOf plan.proxies) (balancerItems plan.balancers) = .ok ())
      (target : profileTarget order (profileRules server) (tagsOf plan.proxies)
        (tagsOf (balancerItems plan.balancers)) = .ok plan.target)
  | single (proxy : Value)
      (built : buildProxyOutbound parseJson server = .ok proxy)
      (proxies : plan.proxies = [proxy])
      (target : plan.target = .outbound "proxy")
      (balancers : plan.balancers = none)
      (unbalanced : ∀ profile, server.rawProfile = some profile →
        profileBalancers profile = none)

/-- A plan from a composite profile. -/
structure ComposedFrom (order : HashOrder) (server : VlessServer) (profile : Value)
    (plan : OutboundPlan) : Prop where
  collected : providerProxyOutbounds profile = .ok plan.proxies
  composite : isComposite profile plan.proxies = true
  balancers : plan.balancers = profileBalancers profile
  checked : checkBalancers (tagsOf plan.proxies) (balancerItems plan.balancers) = .ok ()
  target : profileTarget order (profileRules server) (tagsOf plan.proxies)
    (tagsOf (balancerItems plan.balancers)) = .ok plan.target
  rules : plan.providerRules = safeProviderRouteRules server plan.proxies plan.balancers

theorem profilePlan_eq_some {order : HashOrder} {server : VlessServer} {plan : OutboundPlan}
    (found : profilePlan order server = .ok (some plan)) :
    ∃ profile, server.rawProfile = some profile ∧ ComposedFrom order server profile plan := by
  rw [profilePlan] at found
  split at found
  next => cases found
  next profile given =>
    split at found
    next => cases found
    next proxies collected =>
      split at found
      next => cases found
      next composite =>
        dsimp only at found
        split at found
        next => cases found
        next checked =>
          split at found
          next => cases found
          next target chosen =>
            cases found
            have composite : isComposite profile proxies = true := by simpa using composite
            exact ⟨profile, given, collected, composite, rfl, checked, chosen, rfl⟩

/-- A profile without a plan of its own is no more than an outbound. -/
theorem profilePlan_eq_none {order : HashOrder} {server : VlessServer} {profile : Value}
    (unplanned : profilePlan order server = .ok none)
    (given : server.rawProfile = some profile) :
    ∃ proxies, providerProxyOutbounds profile = .ok proxies ∧
      isComposite profile proxies = false := by
  rw [profilePlan, given] at unplanned
  dsimp only at unplanned
  split at unplanned
  next => cases unplanned
  next proxies collected =>
    split at unplanned
    next simple => exact ⟨proxies, collected, by simpa using simple⟩
    next =>
      split at unplanned
      next => cases unplanned
      next =>
        split at unplanned
        next => cases unplanned
        next => cases unplanned

/-- The two ways to a plan. -/
theorem outboundPlan_eq_ok {parseJson : JsonParser} {order : HashOrder}
    {server : VlessServer} {plan : OutboundPlan}
    (planned : outboundPlan parseJson order server = .ok plan) :
    PlanRule parseJson order server plan ∧
      plan.providerRules = safeProviderRouteRules server plan.proxies plan.balancers := by
  rw [outboundPlan] at planned
  split at planned
  next => cases planned
  next found =>
    cases planned
    rcases profilePlan_eq_some found with ⟨profile, given, composed⟩
    exact ⟨.composite profile given composed.collected composed.balancers composed.checked
      composed.target, composed.rules⟩
  next unplanned =>
    split at planned
    next => cases planned
    next proxy built =>
      cases planned
      refine ⟨.single proxy built rfl rfl rfl ?_, rfl⟩
      intro profile given
      rcases profilePlan_eq_none unplanned given with ⟨proxies, _, simple⟩
      simp only [isComposite, Bool.or_eq_false_iff] at simple
      simpa using simple.1.1.2

/-- A tunnel config is that of the location's plan. -/
theorem buildXrayConfig_eq_ok {urls : UrlParser} {parseJson : JsonParser} {order : HashOrder}
    {server : VlessServer} {options : TunnelOptions} {config : Value}
    (built : buildXrayConfig urls parseJson order server options = .ok config) :
    ∃ plan, outboundPlan parseJson order server = .ok plan ∧
      tunnelConfig server options plan (buildDnsPlan urls server) = config := by
  rw [buildXrayConfig] at built
  cases planned : outboundPlan parseJson order server with
  | error fault =>
      rw [planned] at built
      cases built
  | ok plan =>
      rw [planned] at built
      cases built
      exact ⟨plan, rfl, rfl⟩

theorem isObject_applyProviderRoutingOptions (server : VlessServer) (routing : Value) :
    (applyProviderRoutingOptions server routing).isObject = routing.isObject := by
  rw [applyProviderRoutingOptions]
  split
  next => rfl
  next => simp

/-- The provider's options do not touch the other fields of the routing section. -/
theorem get_applyProviderRoutingOptions {server : VlessServer} {routing : Value}
    {key : String} (isObject : routing.isObject = true)
    (strategy : key ≠ "domainStrategy") (matcher : key ≠ "domainMatcher") :
    (applyProviderRoutingOptions server routing).get key = routing.get key := by
  rw [applyProviderRoutingOptions]
  split
  next => rfl
  next =>
    rw [Value.get_setSome (by simpa using isObject), if_neg (Ne.symm matcher),
      Value.get_setSome isObject, if_neg (Ne.symm strategy)]

/-- The observatories do not touch the other sections of a config. -/
theorem get_withObservatories {config : Value} {key : String}
    (isObject : config.isObject = true) (observatory burst : Option Value)
    (notObservatory : key ≠ "observatory") (notBurst : key ≠ "burstObservatory") :
    ((config.setSome "observatory" observatory).setSome "burstObservatory" burst).get key =
      config.get key := by
  rw [Value.get_setSome (by simpa using isObject), if_neg (Ne.symm notBurst),
    Value.get_setSome isObject, if_neg (Ne.symm notObservatory)]

private theorem getItems_withBalancers {routing : Value} (balancers : Option Value)
    (isObject : routing.isObject = true) (absent : routing.get "balancers" = none) :
    (routing.setSome "balancers" balancers).getItems "balancers" =
      balancerItems balancers := by
  rw [Value.getItems, Value.get_setSome isObject, if_pos rfl, absent, Option.or_none,
    balancerItems]

section Config

variable (server : VlessServer) (options : TunnelOptions) (plan : OutboundPlan)
  (dns : DnsPlan)

theorem configOutbounds_tunnelConfig :
    configOutbounds (tunnelConfig server options plan dns) =
      tunnelOutbounds plan.proxies := by
  simp only [configOutbounds, tunnelConfig, Value.getItems]
  rw [get_withObservatories rfl _ _ (by decide) (by decide)]
  simp [Value.ofFields, Object.ofFields, Object.get_insert, Value.asArray]

theorem configOutbounds_probeConfig :
    configOutbounds (probeConfig plan) = probeOutbounds plan.proxies := by
  simp only [configOutbounds, probeConfig, Value.getItems]
  rw [get_withObservatories rfl _ _ (by decide) (by decide)]
  simp [Value.ofFields, Object.ofFields, Object.get_insert, Value.asArray]

theorem configBalancers_tunnelConfig :
    configBalancers (tunnelConfig server options plan dns) =
      balancerItems plan.balancers := by
  simp only [configBalancers, tunnelConfig]
  rw [get_withObservatories rfl _ _ (by decide) (by decide)]
  simp only [Value.ofFields, Object.ofFields, List.foldl, Value.get_object,
    Object.get_insert_self, Option.map_some, Option.getD_some]
  apply getItems_withBalancers
  · rw [isObject_applyProviderRoutingOptions]
    rfl
  · rw [get_applyProviderRoutingOptions rfl (by decide) (by decide), Value.get_object,
      Object.get_insert_of_ne _ _ (by decide)]
    rfl

theorem configBalancers_probeConfig :
    configBalancers (probeConfig plan) = balancerItems plan.balancers := by
  simp only [configBalancers, probeConfig]
  rw [get_withObservatories rfl _ _ (by decide) (by decide)]
  simp only [Value.ofFields, Object.ofFields, List.foldl, Value.get_object,
    Object.get_insert_self, Option.map_some, Option.getD_some]
  apply getItems_withBalancers
  · rfl
  · rw [Value.get_object, Object.get_insert_of_ne _ _ (by decide)]
    rfl

end Config

/-! ## What a target may end at -/

/-- Nothing but proxies is in reach of a balancer: none of its selectors is a prefix
of a fixed outbound's tag, and what it falls back to is a proxy. -/
def Confined (fixedTags proxyTags : List String) (balancer : Value) : Prop :=
  (∀ tag ∈ fixedTags, ∀ selector ∈ balancerSelectors balancer,
    startsWith tag selector = false) ∧
  ∀ tag, balancer.getString "fallbackTag" = some tag → tag ∈ proxyTags

section Fixed

variable {proxies fixed : List Value}
  (allProxies : ∀ proxy ∈ proxies, isProxyOutbound proxy = true)
  (noProxies : ∀ outbound ∈ fixed, isProxyOutbound outbound = false)

include allProxies noProxies

/-- A tag names a proxy when it is not the tag of a fixed outbound. -/
theorem namesProxy_append {tag : String}
    (separate : ∀ tag ∈ tagsOf proxies, tag ∉ tagsOf fixed) :
    namesProxy (proxies ++ fixed) tag = true ↔ tag ∈ tagsOf proxies := by
  have member_tags {outbounds : List Value} :
      tag ∈ tagsOf outbounds ↔ ∃ outbound ∈ outbounds, hasTag tag outbound = true := by
    simp [tagsOf, hasTag]
  constructor
  · intro names
    simp only [namesProxy, List.any_append, Bool.and_eq_true, Bool.or_eq_true,
      List.any_eq_true, List.all_eq_true, Bool.not_eq_true'] at names
    rcases names with ⟨some | some, all⟩
    · exact member_tags.2 some
    · rcases some with ⟨outbound, member, tagged⟩
      have judged := all outbound (List.mem_append_right _ member)
      simp [tagged, noProxies outbound member] at judged
  · intro member
    rcases member_tags.1 member with ⟨proxy, listed, tagged⟩
    simp only [namesProxy, Bool.and_eq_true, List.any_eq_true, List.all_eq_true,
      Bool.or_eq_true, Bool.not_eq_true']
    refine ⟨⟨proxy, List.mem_append_left _ listed, tagged⟩, ?_⟩
    intro outbound among
    rcases List.mem_append.1 among with among | among
    · exact .inr (allProxies outbound among)
    · left
      apply Bool.eq_false_iff.2
      intro shared
      exact separate tag member (member_tags.2 ⟨outbound, among, shared⟩)

/-- A balancer picks only proxies when no selector is a prefix of a fixed tag. -/
theorem picks_append (balancer : Value) :
    ((proxies ++ fixed).all fun outbound =>
      !picks balancer outbound || isProxyOutbound outbound) = true ↔
      ∀ tag ∈ tagsOf fixed, ∀ selector ∈ balancerSelectors balancer,
        startsWith tag selector = false := by
  simp only [List.all_eq_true, Bool.or_eq_true, Bool.not_eq_true']
  constructor
  · intro all tag member selector listed
    rcases List.mem_filterMap.1 member with ⟨outbound, among, tagged⟩
    rcases all outbound (List.mem_append_right _ among) with passed | proxy
    · simp [picks, tagged] at passed
      exact passed selector listed
    · rw [noProxies outbound among] at proxy
      cases proxy
  · intro avoids outbound among
    rcases List.mem_append.1 among with among | among
    · exact .inr (allProxies outbound among)
    · left
      rw [picks]
      cases tagged : outbound.getString "tag" with
      | none => rfl
      | some tag =>
          have member : tag ∈ tagsOf fixed := List.mem_filterMap.2 ⟨outbound, among, tagged⟩
          simpa using avoids tag member

theorem picksOnlyProxies_append {balancer : Value}
    (separate : ∀ tag ∈ tagsOf proxies, tag ∉ tagsOf fixed) :
    picksOnlyProxies (proxies ++ fixed) balancer = true ↔
      Confined (tagsOf fixed) (tagsOf proxies) balancer := by
  rw [picksOnlyProxies, Bool.and_eq_true, picks_append allProxies noProxies, Confined,
    Option.all_eq_true]
  simp only [namesProxy_append allProxies noProxies separate]

end Fixed

/-- The balancer that a profile sends traffic to by default: what the last rule
that names a proxy or a balancer names, or any balancer when no rule does. -/
def DefaultBalancer (order : HashOrder) (server : VlessServer) (profile : Value)
    (tag : String) : Prop :=
  let balancerTags := tagsOf (balancerItems (profileBalancers profile))
  let names := namedTarget (profileProxyTags profile) balancerTags
  (∃ before rule after, profileRules server = before ++ rule :: after ∧
    names rule = some (.balancer tag) ∧ ∀ later ∈ after, names later = none) ∨
  ((∀ rule ∈ profileRules server, names rule = none) ∧
    order.first balancerTags = some tag)

/-- The default balancer of a profile is confined. -/
def DefaultConfined (order : HashOrder) (server : VlessServer)
    (fixedTags : List String) : Prop :=
  ∀ profile tag, server.rawProfile = some profile →
    DefaultBalancer order server profile tag →
    ∀ balancer ∈ balancerItems (profileBalancers profile),
      balancer.getString "tag" = some tag →
      Confined fixedTags (profileProxyTags profile) balancer

private theorem findSome?_reverse_eq_some_iff {α β : Type} {f : α → Option β}
    {items : List α} {result : β} :
    items.reverse.findSome? f = some result ↔
      ∃ before item after, items = before ++ item :: after ∧ f item = some result ∧
        ∀ later ∈ after, f later = none := by
  rw [List.findSome?_eq_some_iff]
  constructor
  · rintro ⟨after, item, before, split, found, unnamed⟩
    refine ⟨before.reverse, item, after.reverse, ?_, found, by simpa using unnamed⟩
    rw [← List.reverse_reverse items, split]
    simp
  · rintro ⟨before, item, after, rfl, found, unnamed⟩
    exact ⟨after.reverse, item, before.reverse, by simp, found, by simpa using unnamed⟩

/-- The target of a profile is a balancer exactly when that is its default one. -/
theorem profileTarget_balancer_iff {order : HashOrder} {rules : List Value}
    {proxyTags balancerTags : List String} {tag : String} :
    profileTarget order rules proxyTags balancerTags = .ok (.balancer tag) ↔
      (∃ before rule after, rules = before ++ rule :: after ∧
        namedTarget proxyTags balancerTags rule = some (.balancer tag) ∧
        ∀ later ∈ after, namedTarget proxyTags balancerTags later = none) ∨
      ((∀ rule ∈ rules, namedTarget proxyTags balancerTags rule = none) ∧
        order.first balancerTags = some tag) := by
  unfold profileTarget
  rw [← findSome?_reverse_eq_some_iff]
  cases named : rules.reverse.findSome? (namedTarget proxyTags balancerTags) with
  | some target =>
      have notUnnamed : ¬ ∀ rule ∈ rules, namedTarget proxyTags balancerTags rule = none := by
        intro unnamed
        rw [List.findSome?_eq_none_iff.2 (by simpa using unnamed)] at named
        cases named
      simp [notUnnamed]
  | none =>
      have unnamed : ∀ rule ∈ rules, namedTarget proxyTags balancerTags rule = none := by
        simpa using List.findSome?_eq_none_iff.1 named
      cases chosen : order.first balancerTags with
      | some other => simpa using fun _ => unnamed
      | none => cases proxyTags <;> simp

/-- The target of a profile is one of its proxies or one of its balancers. -/
theorem profileTarget_mem {order : HashOrder} {rules : List Value}
    {proxyTags balancerTags : List String} {target : ProxyTarget}
    (chosen : profileTarget order rules proxyTags balancerTags = .ok target) :
    (∃ tag ∈ proxyTags, target = .outbound tag) ∨
      ∃ tag ∈ balancerTags, target = .balancer tag := by
  unfold profileTarget at chosen
  split at chosen
  next named =>
    cases chosen
    rcases List.exists_of_findSome?_eq_some named with ⟨rule, _, found⟩
    rw [namedTarget] at found
    split at found
    next tag known =>
      cases found
      rw [Option.filter_eq_some_iff] at known
      exact .inr ⟨tag, by simpa using known.2, rfl⟩
    next =>
      rcases Option.map_eq_some_iff.1 found with ⟨tag, known, rfl⟩
      rw [Option.filter_eq_some_iff] at known
      exact .inl ⟨tag, by simpa using known.2, rfl⟩
  next =>
    split at chosen
    next tag first =>
      cases chosen
      exact .inr ⟨tag, order.first_mem first, rfl⟩
    next =>
      split at chosen
      next =>
        cases chosen
        exact .inl ⟨_, .head _, rfl⟩
      next => cases chosen

section Generated

variable {parseJson : JsonParser} {order : HashOrder} {server : VlessServer}
  {plan : OutboundPlan} (rule : PlanRule parseJson order server plan)

include rule

/-- The outbounds of a plan are proxies, and their tags are free for them. -/
theorem planRule_proxies :
    (∀ proxy ∈ plan.proxies, isProxyOutbound proxy = true) ∧
      ∀ tag ∈ tagsOf plan.proxies, tag ∉ reservedOutboundTags ∧ tag ≠ "" := by
  cases rule with
  | composite profile given collected balancers checked target =>
      exact (providerProxyOutbounds_eq_ok collected).2
  | single proxy built proxies target balancers unbalanced =>
      rcases buildProxyOutbound_eq_ok built with ⟨isProxy, tagged⟩
      rw [proxies]
      simp [tagsOf, isProxy, tagged, reservedOutboundTags]

/-- The target of a plan is one of its proxies or one of its balancers. -/
theorem planRule_target :
    (∃ tag ∈ tagsOf plan.proxies, plan.target = .outbound tag) ∨
      ∃ tag ∈ tagsOf (balancerItems plan.balancers), plan.target = .balancer tag := by
  cases rule with
  | composite profile given collected balancers checked target =>
      exact profileTarget_mem target
  | single proxy built proxies target balancers unbalanced =>
      rcases buildProxyOutbound_eq_ok built with ⟨_, tagged⟩
      exact .inl ⟨"proxy", by simp [proxies, tagsOf, tagged], target⟩

/-- A target that is an outbound has a name of its own. -/
theorem planRule_target_free :
    plan.target ≠ .outbound "" ∧ ∀ tag ∈ reservedOutboundTags, plan.target ≠ .outbound tag := by
  rcases planRule_target rule with ⟨tag, member, target⟩ | ⟨tag, member, target⟩
  · rcases (planRule_proxies rule).2 tag member with ⟨unreserved, named⟩
    rw [target]
    constructor
    · rintro ⟨⟩
      exact named rfl
    · rintro other reserved ⟨⟩
      exact unreserved reserved
  · simp [target]

/-- A plan's target is a balancer exactly when that is the profile's default one. -/
theorem planRule_balancer_iff {tag : String} :
    plan.target = .balancer tag ↔
      ∃ profile, server.rawProfile = some profile ∧
        DefaultBalancer order server profile tag := by
  cases rule with
  | composite profile given collected balancers checked target =>
      rw [balancers, (providerProxyOutbounds_eq_ok collected).1] at target
      have default : DefaultBalancer order server profile tag ↔ _ :=
        profileTarget_balancer_iff.symm
      rw [target] at default
      simp [given, default]
  | single proxy built proxies target balancers unbalanced =>
      rw [target]
      constructor
      · intro balancer
        cases balancer
      · rintro ⟨profile, given, default⟩
        rw [DefaultBalancer, unbalanced profile given] at default
        rcases profileTarget_mem (profileTarget_balancer_iff.2 default) with
          ⟨_, _, outbound⟩ | ⟨_, member, _⟩
        · cases outbound
        · cases member

/-- A plan whose target is a balancer takes the profile's balancers over. -/
theorem planRule_composite {tag : String} (target : plan.target = .balancer tag) :
    ∃ profile, server.rawProfile = some profile ∧
      plan.balancers = profileBalancers profile ∧
      tagsOf plan.proxies = profileProxyTags profile := by
  cases rule with
  | composite profile given collected balancers checked chosen =>
      exact ⟨profile, given, balancers, (providerProxyOutbounds_eq_ok collected).1⟩
  | single proxy built proxies outbound balancers unbalanced =>
      rw [outbound] at target
      cases target

/-- What is sent to the plan's target stays on proxies exactly when the profile's
default balancer is confined, for every config with the plan's outbounds and
balancers. -/
theorem staysOnProxies_iff {config : Value} {fixed : List Value}
    (outbounds : configOutbounds config = plan.proxies ++ fixed)
    (balancers : configBalancers config = balancerItems plan.balancers)
    (noProxies : ∀ outbound ∈ fixed, isProxyOutbound outbound = false)
    (reserved : ∀ tag ∈ tagsOf fixed, tag ∈ reservedOutboundTags) :
    staysOnProxies config plan.target = true ↔
      DefaultConfined order server (tagsOf fixed) := by
  rcases planRule_proxies rule with ⟨allProxies, unreserved⟩
  have separate : ∀ tag ∈ tagsOf plan.proxies, tag ∉ tagsOf fixed :=
    fun tag member clash => (unreserved tag member).1 (reserved tag clash)
  rcases planRule_target rule with ⟨tag, member, target⟩ | ⟨tag, member, target⟩
  · rw [target, staysOnProxies, outbounds, namesProxy_append allProxies noProxies separate]
    constructor
    · intro _ profile other given default
      have balancer := (planRule_balancer_iff rule).2 ⟨profile, given, default⟩
      rw [target] at balancer
      cases balancer
    · intro _
      exact member
  · rcases planRule_composite rule target with ⟨profile, given, copied, tagsEqual⟩
    rw [target, staysOnProxies, outbounds, balancers, copied]
    rw [copied] at member
    simp only [Bool.and_eq_true, List.any_eq_true, List.all_eq_true, Bool.or_eq_true,
      Bool.not_eq_true', Bool.or_eq_true,
      picksOnlyProxies_append allProxies noProxies separate, tagsEqual]
    constructor
    · rintro ⟨_, all⟩ other named otherGiven default balancer listed tagged
      obtain rfl : profile = other := Option.some.inj (given.symm.trans otherGiven)
      have same := (planRule_balancer_iff rule).2 ⟨profile, given, default⟩
      rw [target] at same
      cases same
      rcases all balancer listed with untagged | confined
      · simp [hasTag, tagged] at untagged
      · exact confined
    · intro confined
      constructor
      · simpa [tagsOf, hasTag] using member
      · intro balancer listed
        cases tagged : hasTag tag balancer with
        | false => exact .inl rfl
        | true =>
            right
            rcases (planRule_balancer_iff rule).1 target with ⟨other, otherGiven, default⟩
            obtain rfl : profile = other := Option.some.inj (given.symm.trans otherGiven)
            exact confined profile tag given default balancer listed
              (by simpa [hasTag] using tagged)

end Generated

/-- In a tunnel config and in a probe config, what is sent to the proxy target
leaves through a proxy exactly when the default balancer of the profile, if it has
one, is confined: none of its selectors is a prefix of the tag of a fixed outbound,
and its fallback is a proxy.  The two generations may see the balancers in
different orders. -/
theorem target_stays_on_proxies_iff {urls : UrlParser} {parseJson : JsonParser}
    {order probeOrder : HashOrder} {server : VlessServer} {options : TunnelOptions}
    {plan probePlan : OutboundPlan} {config probe : Value}
    (planned : outboundPlan parseJson order server = .ok plan)
    (built : buildXrayConfig urls parseJson order server options = .ok config)
    (probePlanned : outboundPlan parseJson probeOrder server = .ok probePlan)
    (probeBuilt : buildConnectionProbeConfig parseJson probeOrder server = .ok probe) :
    (staysOnProxies config plan.target = true ∧
      staysOnProxies probe probePlan.target = true) ↔
    DefaultConfined order server ["direct", "dns-out", "block"] ∧
      DefaultConfined probeOrder server ["direct"] := by
  rw [buildXrayConfig, planned] at built
  rw [buildConnectionProbeConfig, probePlanned] at probeBuilt
  cases built
  cases probeBuilt
  apply and_congr
  · apply staysOnProxies_iff (outboundPlan_eq_ok planned).1
      (configOutbounds_tunnelConfig server options plan _)
      (configBalancers_tunnelConfig server options plan _)
    · decide
    · decide
  · apply staysOnProxies_iff (outboundPlan_eq_ok probePlanned).1
      (configOutbounds_probeConfig probePlan)
      (configBalancers_probeConfig probePlan)
    · decide
    · decide

/-- A profile with one proxy behind a balancer with the given fallback. -/
def balancedProfile (fallbackTag : String) : Value :=
  .ofFields
    [("outbounds", .array
      [.ofFields [("tag", .string "proxy-a"), ("protocol", .string "vless")]]),
      ("routing", .ofFields
        [("balancers", .array [.ofFields
          [("tag", .string "auto"), ("selector", .strings ["proxy"]),
            ("fallbackTag", .string fallbackTag)]])])]

/-- Options of a TUN connection without a split. -/
def TunnelOptions.plain (allowLan : Bool) : TunnelOptions where
  split := { appsMode := "general", sitesMode := "general", apps := [], sites := [] }
  mode := "tun"
  tun := .xrayNative
  allowLan
  logLevel := "warn"
  mtu := tunMtu

/-- A balancer that falls back to its own proxy is confined. -/
theorem target_stays_on_proxies_own_fallback :
    let server := VlessServer.ofProfile (balancedProfile "proxy-a")
    DefaultConfined .inserted server ["direct", "dns-out", "block"] ∧
      DefaultConfined .inserted server ["direct"] :=
  (@target_stays_on_proxies_iff (.ofPlain []) (fun _ => none) .inserted .inserted
    (.ofProfile (balancedProfile "proxy-a")) (.plain false) _ _ _ _
    rfl rfl rfl rfl).1 ⟨by decide, by decide⟩

/-- A balancer that falls back to `direct` takes the traffic of a validated location
past the proxy. -/
theorem target_falls_back_to_direct :
    let server := VlessServer.ofProfile (balancedProfile "direct")
    validateServer (fun _ => none) .inserted server = .ok () ∧
      ∃ plan config probe,
        outboundPlan (fun _ => none) .inserted server = .ok plan ∧
        buildXrayConfig (.ofPlain []) (fun _ => none) .inserted server (.plain false) =
          .ok config ∧
        buildConnectionProbeConfig (fun _ => none) .inserted server = .ok probe ∧
        staysOnProxies config plan.target = false ∧
        staysOnProxies probe plan.target = false :=
  ⟨rfl, _, _, _, rfl, rfl, rfl, by decide, by decide⟩

end Varmlen.Core
