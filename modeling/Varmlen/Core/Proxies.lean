import Varmlen.Core.Target

/-!
# The proxies of a plan

Every proxy of a plan has a tag of its own, and its dials carry Varmlen's mark unless
it is WireGuard, whatever the provider's JSON said.
-/

namespace Varmlen.Core

open Foundation.Json Foundation.Text

/-- Where the mark of an outbound's dials stands. -/
def markPath : List String := ["streamSettings", "sockopt", "mark"]

/-- What is known of each proxy of a plan. -/
structure PlannedProxy (proxy : Value) : Prop where
  isProxy : isProxyOutbound proxy = true
  tagged : (proxy.getString "tag").isSome = true
  marked : ∀ protocol, proxy.getString "protocol" = some protocol →
    toAsciiLowercase protocol ≠ "wireguard" →
      proxy.pointer markPath = some (.nat xrayDialMark)

/-- Stream settings with the mark. -/
theorem pointer_marked {proxy : Value} {stream sockopt : Object}
    (streamSettings : proxy.get "streamSettings" =
      some (.object (stream.insert "sockopt"
        (.object (sockopt.insert "mark" (.nat xrayDialMark)))))) :
    proxy.pointer markPath = some (.nat xrayDialMark) := by
  rw [markPath, Value.pointer, streamSettings]
  simp [Value.pointer]

/-- An outbound that Xray takes for WireGuard. -/
def isWireguard (outbound : Value) : Bool :=
  toAsciiLowercase ((outbound.getString "protocol").getD "") == "wireguard"

theorem protocolSettings_notWireguard (server : VlessServer) :
    (toAsciiLowercase (protocolSettings server).1 == "wireguard") = false := by
  rw [protocolSettings]
  repeat' split
  all_goals
    dsimp only
    decide

theorem simple_notWireguard {protocol : String} (simple : protocol = "http" ∨ protocol = "socks") :
    (toAsciiLowercase protocol == "wireguard") = false := by
  rcases simple with rfl | rfl
  · decide
  · decide

/-- The stream settings of a sanitized outbound that is not WireGuard. -/
def sanitizedStream (outbound : Value) (preserveTagAndChains : Bool) : Object :=
  let stream := objectField (outbound.asObject.getD []) "streamSettings"
  let sockopt := objectField stream "sockopt"
  let sockopt := if preserveTagAndChains then sockopt else sockopt.remove "dialerProxy"
  stream.insert "sockopt" (.object (sockopt.insert "mark" (.nat xrayDialMark)))

/-- What sanitizing does to the source address and the stream settings. -/
theorem sanitizeRawOutbound_stream {outbound : Value} {preserve : Bool} {object : Object}
    (sanitized : sanitizeRawOutbound outbound preserve = .ok object) :
    object.get "sendThrough" = none ∧
      object.get "streamSettings" =
        if isWireguard outbound then none
        else some (.object (sanitizedStream outbound preserve)) := by
  rw [sanitizeRawOutbound] at sanitized
  split at sanitized
  next => cases sanitized
  next =>
    cases outbound with
    | object fields =>
        dsimp only [Value.asObject] at sanitized
        split at sanitized
        next => cases sanitized
        next protocol named =>
          split at sanitized
          next => cases sanitized
          next =>
            have sameProtocol : isWireguard (.object fields) =
                (toAsciiLowercase protocol == "wireguard") := by
              rw [isWireguard, Value.getString, Value.get_object, named]
              rfl
            rw [sameProtocol]
            split at sanitized
            next wireguard =>
              rw [if_pos wireguard]
              cases sanitized
              cases preserve <;> simp [Object.get_remove, Object.get_insert]
            next other =>
              rw [if_neg other]
              cases sanitized
              cases preserve <;>
                simp [sanitizedStream, objectField, Value.asObject, Object.get_remove,
                  Object.get_insert]
    | _ => cases sanitized

/-- A sanitized outbound that is not WireGuard has the mark. -/
theorem sanitizeRawOutbound_marked {outbound : Value} {preserve : Bool} {object : Object}
    (sanitized : sanitizeRawOutbound outbound preserve = .ok object) {protocol : String}
    (named : outbound.getString "protocol" = some protocol)
    (notWireguard : toAsciiLowercase protocol ≠ "wireguard") :
    ∃ stream sockopt, object.get "streamSettings" =
      some (.object (Object.insert stream "sockopt"
        (.object (Object.insert sockopt "mark" (.nat xrayDialMark))))) := by
  have other : ¬ isWireguard outbound = true := by
    rw [isWireguard, named]
    simpa using notWireguard
  rw [(sanitizeRawOutbound_stream sanitized).2, if_neg other, sanitizedStream]
  exact ⟨_, _, rfl⟩

/-- A sanitized outbound is a proxy of a plan once it has a tag. -/
theorem plannedProxy_sanitized {outbound proxy : Value} {preserve : Bool} {object : Object}
    (sanitized : sanitizeRawOutbound outbound preserve = .ok object)
    (sameProtocol : proxy.get "protocol" = object.get "protocol")
    (sameStream : proxy.get "streamSettings" = object.get "streamSettings")
    (tagged : (proxy.getString "tag").isSome = true) : PlannedProxy proxy := by
  rcases sanitizeRawOutbound_eq_ok sanitized with ⟨isProxy, kept⟩
  have protocolKept : object.get "protocol" = outbound.get "protocol" := by
    rw [kept "protocol" (by decide) (by decide)]
    cases preserve <;> rfl
  have named : proxy.getString "protocol" = outbound.getString "protocol" := by
    rw [Value.getString, Value.getString, sameProtocol, protocolKept]
  constructor
  · rw [isProxyOutbound, named]
    exact isProxy
  · exact tagged
  · intro protocol isNamed notWireguard
    rw [named] at isNamed
    rcases sanitizeRawOutbound_marked sanitized isNamed notWireguard with
      ⟨stream, sockopt, found⟩
    exact pointer_marked (sameStream.trans found)

/-- The proxies collected from a profile, each with a tag of its own. -/
theorem Collected.planned {index : Nat} {tags : List String} {outbounds proxies : List Value}
    (collected : Collected index tags outbounds proxies) :
    (∀ proxy ∈ proxies, PlannedProxy proxy) ∧ (tagsOf proxies).Nodup ∧
      ∀ tag ∈ tagsOf proxies, tag ∉ tags := by
  induction collected with
  | nil => simp [tagsOf]
  | skip other later ih => exact ih
  | keep proxy sanitized unreserved unused later ih =>
      rcases ih with ⟨planned, distinct, unseen⟩
      rw [tagsOf_keep, List.forall_mem_cons, List.forall_mem_cons, List.nodup_cons]
      refine ⟨⟨?_, planned⟩, ⟨fun again => unseen _ again (.head _), distinct⟩, unused, ?_⟩
      · apply plannedProxy_sanitized sanitized
        · exact Object.get_insert_of_ne _ _ (by decide)
        · exact Object.get_insert_of_ne _ _ (by decide)
        · simp [Value.getString, Value.asString]
      · exact fun tag member seen => unseen tag member (.tail _ seen)

/-- A share link's outbound with stream settings. -/
theorem plannedProxy_linked (parseJson : JsonParser) (server : VlessServer)
    {protocol : String} {settings : Value}
    (known : isProxyProtocol (toAsciiLowercase protocol) = true) :
    PlannedProxy (.ofFields
      [("tag", .string "proxy"), ("protocol", .string protocol), ("settings", settings),
        ("streamSettings", buildStreamSettings parseJson server)]) := by
  constructor
  · simpa [isProxyOutbound, Value.getString, Value.ofFields, Object.ofFields,
      Object.get_insert, Value.asString] using known
  · simp [Value.getString, Value.ofFields, Object.ofFields, Object.get_insert, Value.asString]
  · intro named _ _
    apply pointer_marked
    simp only [Value.ofFields, Value.get_object, Object.ofFields, List.foldl_cons,
      List.foldl_nil, Object.get_insert_self, buildStreamSettings]
    rfl

theorem plannedProxy_built {parseJson : JsonParser} {server : VlessServer} {proxy : Value}
    (built : buildProxyOutbound parseJson server = .ok proxy) : PlannedProxy proxy := by
  rcases buildProxyOutbound_eq_ok built with ⟨isProxy, tag⟩
  have tagged : (proxy.getString "tag").isSome = true := by rw [tag]; rfl
  rw [buildProxyOutbound] at built
  split at built
  next outbound _ =>
    split at built
    next => cases built
    next object sanitized =>
      cases built
      exact plannedProxy_sanitized sanitized rfl rfl tagged
  next =>
    split at built
    next =>
      cases built
      refine ⟨isProxy, tagged, ?_⟩
      intro protocol named notWireguard
      have wireguard : (buildWireguardOutbound server).getString "protocol" =
          some "wireguard" := by
        simp [buildWireguardOutbound, Value.getString, Value.ofFields, Object.ofFields,
          Object.get_insert, Value.asString]
      rw [wireguard, Option.some.injEq] at named
      rw [← named] at notWireguard
      exact absurd rfl notWireguard
    next =>
      split at built
      next simple =>
        cases built
        apply plannedProxy_linked
        rcases simple with http | socks
        · rw [http]
          decide
        · rw [socks]
          decide
      next =>
        cases built
        exact plannedProxy_linked parseJson server (protocolSettings_known server)

theorem providerProxyOutbounds_planned {profile : Value} {proxies : List Value}
    (collected : providerProxyOutbounds profile = .ok proxies) :
    (∀ proxy ∈ proxies, PlannedProxy proxy) ∧ (tagsOf proxies).Nodup ∧ proxies ≠ [] := by
  rw [providerProxyOutbounds] at collected
  split at collected
  next => cases collected
  next =>
    split at collected
    next => cases collected
    next => cases collected
    next nonempty inner =>
      cases collected
      rcases (collected_of_ok inner).planned with ⟨planned, distinct, _⟩
      exact ⟨planned, distinct, fun empty => nonempty (empty ▸ rfl)⟩

/-- The proxies of a plan, each with a tag of its own. -/
theorem planRule_planned {parseJson : JsonParser} {order : HashOrder} {server : VlessServer}
    {plan : OutboundPlan} (rule : PlanRule parseJson order server plan) :
    (∀ proxy ∈ plan.proxies, PlannedProxy proxy) ∧ (tagsOf plan.proxies).Nodup ∧
      plan.proxies ≠ [] := by
  cases rule with
  | composite profile given collected balancers checked target =>
      exact providerProxyOutbounds_planned collected
  | single proxy built proxies target balancers unbalanced =>
      have planned := plannedProxy_built built
      rw [proxies]
      simp [tagsOf, planned, (buildProxyOutbound_eq_ok built).2]

/-! ## The two ways to a plan -/

/-- Every proxy outbound of a profile is kept. -/
theorem Collected.length_eq {index : Nat} {tags : List String} {outbounds proxies : List Value}
    (collected : Collected index tags outbounds proxies) :
    proxies.length = (outbounds.filter isProxyOutbound).length := by
  induction collected with
  | nil => rfl
  | skip other later ih =>
      rw [List.filter_cons_of_neg (by simp [other])]
      exact ih
  | keep proxy sanitized unreserved unused later ih =>
      rw [List.filter_cons_of_pos proxy, List.length_cons, List.length_cons, ih]

/-- A profile with more than a lone outbound, as far as the profile itself shows. -/
def isCompositeProfile (profile : Value) : Bool :=
  decide (1 < ((profile.getItems "outbounds").filter isProxyOutbound).length) ||
    (profileBalancers profile).isSome ||
    (profile.get "observatory").isSome || (profile.get "burstObservatory").isSome

theorem isComposite_eq {profile : Value} {proxies : List Value}
    (collected : providerProxyOutbounds profile = .ok proxies) :
    isComposite profile proxies = isCompositeProfile profile := by
  rw [isComposite, isCompositeProfile, (providerProxyOutbounds_collected collected).length_eq]

/-- The two ways to the proxies of a plan. -/
theorem outboundPlan_proxies {parseJson : JsonParser} {order : HashOrder}
    {server : VlessServer} {plan : OutboundPlan}
    (planned : outboundPlan parseJson order server = .ok plan) :
    (∃ profile, server.rawProfile = some profile ∧ isCompositeProfile profile = true ∧
      providerProxyOutbounds profile = .ok plan.proxies ∧
      profileTarget order (profileRules server) (profileProxyTags profile)
        (tagsOf (balancerItems (profileBalancers profile))) = .ok plan.target) ∨
    (∀ profile, server.rawProfile = some profile → isCompositeProfile profile = false) ∧
      ∃ proxy, buildProxyOutbound parseJson server = .ok proxy ∧ plan.proxies = [proxy] ∧
        plan.target = .outbound "proxy" := by
  rw [outboundPlan] at planned
  split at planned
  next => cases planned
  next found =>
    cases planned
    rcases profilePlan_eq_some found with ⟨profile, given, composed⟩
    have target := composed.target
    rw [composed.balancers, (providerProxyOutbounds_eq_ok composed.collected).1] at target
    refine .inl ⟨profile, given, ?_, composed.collected, target⟩
    rw [← isComposite_eq composed.collected]
    exact composed.composite
  next unplanned =>
    split at planned
    next => cases planned
    next proxy built =>
      cases planned
      refine .inr ⟨?_, proxy, built, rfl, rfl⟩
      intro profile given
      rcases profilePlan_eq_none unplanned given with ⟨proxies, collected, simple⟩
      rw [← isComposite_eq collected]
      exact simple

/-! ## Hash orders -/

theorem profileTarget_exists (order : HashOrder) (rules : List Value)
    {proxyTags : List String} (balancerTags : List String) (nonempty : proxyTags ≠ []) :
    ∃ target, profileTarget order rules proxyTags balancerTags = .ok target := by
  rw [profileTarget.eq_def]
  cases rules.reverse.findSome? (namedTarget proxyTags balancerTags) with
  | some target => exact ⟨target, rfl⟩
  | none =>
      cases order.first balancerTags with
      | some tag => exact ⟨.balancer tag, rfl⟩
      | none =>
          cases proxyTags with
          | nil => exact absurd rfl nonempty
          | cons tag rest => exact ⟨.outbound tag, rfl⟩

theorem tagsOf_ne_nil {proxies : List Value} (nonempty : proxies ≠ [])
    (tagged : ∀ proxy ∈ proxies, PlannedProxy proxy) : tagsOf proxies ≠ [] := by
  cases proxies with
  | nil => exact absurd rfl nonempty
  | cons first rest =>
      rcases Option.isSome_iff_exists.1 (tagged first (.head _)).tagged with ⟨tag, named⟩
      simp [tagsOf, named]

/-- Another hash order changes at most the target of a plan. -/
theorem outboundPlan_order {parseJson : JsonParser} {order : HashOrder}
    {server : VlessServer} {plan : OutboundPlan}
    (planned : outboundPlan parseJson order server = .ok plan) (other : HashOrder) :
    ∃ target, outboundPlan parseJson other server = .ok { plan with target } := by
  rw [outboundPlan, profilePlan] at planned ⊢
  cases given : server.rawProfile with
  | none =>
      rw [given] at planned
      dsimp only at planned ⊢
      exact ⟨plan.target, planned⟩
  | some profile =>
      rw [given] at planned
      dsimp only at planned ⊢
      cases collected : providerProxyOutbounds profile with
      | error message =>
          rw [collected] at planned
          cases planned
      | ok proxies =>
          rw [collected] at planned
          dsimp only at planned ⊢
          by_cases simple : (!isComposite profile proxies) = true
          · rw [if_pos simple] at planned ⊢
            exact ⟨plan.target, planned⟩
          · rw [if_neg simple] at planned ⊢
            rcases providerProxyOutbounds_planned collected with ⟨tagged, _, nonempty⟩
            cases checked : checkBalancers (tagsOf proxies)
                (balancerItems (profileBalancers profile)) with
            | error message =>
                rw [checked] at planned
                cases planned
            | ok done =>
                rw [checked] at planned
                dsimp only at planned ⊢
                rcases profileTarget_exists other (profileRules server)
                  (tagsOf (balancerItems (profileBalancers profile)))
                  (tagsOf_ne_nil nonempty tagged) with ⟨target, chosen⟩
                rw [chosen]
                cases before : profileTarget order (profileRules server) (tagsOf proxies)
                    (tagsOf (balancerItems (profileBalancers profile))) with
                | error fault =>
                    rw [before] at planned
                    cases planned
                | ok old =>
                    rw [before] at planned
                    cases planned
                    exact ⟨target, rfl⟩

end Varmlen.Core
