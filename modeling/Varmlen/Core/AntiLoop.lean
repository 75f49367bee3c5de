import Varmlen.Core.References

/-!
# Outbounds that do not loop

What Xray dials itself must not come back through the tunnel.  Every outbound that
leaves the machine carries the mark that keeps it outside, whatever the provider wrote
in its place; WireGuard cannot have stream settings and is kept outside by its endpoint.
-/

namespace Varmlen.Core

open Foundation.Json Foundation.Text

/-- The outbounds of a config do not loop. -/
structure AntiLoop (config : Value) : Prop where
  tagged : ∀ outbound ∈ configOutbounds config,
    ∃ tag, outbound.getString "tag" = some tag ∧ tag ≠ ""
  distinct : (tagsOf (configOutbounds config)).Nodup
  fixed : ∀ tag ∈ ["direct", "dns-out", "block"],
    (configOutbounds config).countP (hasTag tag) = 1
  marked : ∀ outbound ∈ configOutbounds config,
    (isProxyOutbound outbound = true ∧ isWireguard outbound = false) ∨
      hasTag "direct" outbound = true →
    outbound.pointer markPath = some (.nat xrayDialMark)
  wireguard : ∀ outbound ∈ configOutbounds config, isWireguard outbound = true →
    outbound.get "streamSettings" = none
  unbound : ∀ outbound ∈ configOutbounds config, isProxyOutbound outbound = true →
    outbound.get "sendThrough" = none

/-- A proxy without a source address of its own and, if it is WireGuard, without stream
settings. -/
structure Guarded (proxy : Value) : Prop where
  wireguard : isWireguard proxy = true → proxy.get "streamSettings" = none
  unbound : proxy.get "sendThrough" = none

/-- A sanitized outbound, under whatever tag. -/
theorem guarded_sanitized {outbound proxy : Value} {preserve : Bool} {object : Object}
    (sanitized : sanitizeRawOutbound outbound preserve = .ok object)
    (same : ∀ key, key ≠ "tag" → proxy.get key = object.get key) : Guarded proxy := by
  rcases sanitizeRawOutbound_stream sanitized with ⟨unbound, stream⟩
  have protocol : object.get "protocol" = outbound.get "protocol" := by
    rw [(sanitizeRawOutbound_eq_ok sanitized).2 "protocol" (by decide) (by decide)]
    cases preserve <;> rfl
  have sameKind : isWireguard proxy = isWireguard outbound := by
    rw [isWireguard, isWireguard, Value.getString, Value.getString, same _ (by decide),
      protocol]
  constructor
  · intro wireguard
    rw [sameKind] at wireguard
    rw [same _ (by decide), stream, if_pos wireguard]
  · rw [same _ (by decide), unbound]

theorem Collected.guarded {index : Nat} {tags : List String} {outbounds proxies : List Value}
    (collected : Collected index tags outbounds proxies) :
    ∀ proxy ∈ proxies, Guarded proxy := by
  induction collected with
  | nil => simp
  | skip other later ih => exact ih
  | keep proxy sanitized unreserved unused later ih =>
      rw [List.forall_mem_cons]
      constructor
      · apply guarded_sanitized sanitized
        intro key other
        exact Object.get_insert_of_ne _ _ (Ne.symm other)
      · exact ih

/-- A share link's outbound with stream settings. -/
theorem guarded_written {protocol : String} {settings stream : Value}
    (notWireguard : (toAsciiLowercase protocol == "wireguard") = false) :
    Guarded (.ofFields
      [("tag", .string "proxy"), ("protocol", .string protocol), ("settings", settings),
        ("streamSettings", stream)]) := by
  constructor
  · intro wireguard
    rw [isWireguard, @Value.getString_ofFields _ (by simp) "protocol" protocol (by simp),
      Option.getD_some, notWireguard] at wireguard
    cases wireguard
  · exact Value.get_ofFields_none (by simp)

theorem guarded_built {parseJson : JsonParser} {server : VlessServer} {proxy : Value}
    (built : buildProxyOutbound parseJson server = .ok proxy) : Guarded proxy := by
  rw [buildProxyOutbound] at built
  split at built
  next =>
    split at built
    next => cases built
    next object sanitized =>
      cases built
      exact guarded_sanitized sanitized fun _ _ => rfl
  next =>
    split at built
    next =>
      cases built
      rw [buildWireguardOutbound]
      exact ⟨fun _ => Value.get_ofFields_none (by simp), Value.get_ofFields_none (by simp)⟩
    next =>
      split at built
      next simple =>
        cases built
        exact guarded_written (simple_notWireguard simple)
      next =>
        cases built
        exact guarded_written (protocolSettings_notWireguard server)

/-- Every proxy of a plan is guarded. -/
theorem plan_guarded {parseJson : JsonParser} {order : HashOrder} {server : VlessServer}
    {plan : OutboundPlan} (planned : outboundPlan parseJson order server = .ok plan) :
    ∀ proxy ∈ plan.proxies, Guarded proxy := by
  rcases outboundPlan_proxies planned with
    ⟨profile, given, composite, collected, _⟩ | ⟨simple, proxy, built, proxies, _⟩
  · exact (providerProxyOutbounds_collected collected).guarded
  · rw [proxies, List.forall_mem_singleton]
    exact guarded_built built

theorem PlannedProxy.marked_of_notWireguard {proxy : Value} (planned : PlannedProxy proxy)
    (notWireguard : isWireguard proxy = false) :
    proxy.pointer markPath = some (.nat xrayDialMark) := by
  have isProxy := planned.isProxy
  rw [isProxyOutbound] at isProxy
  rw [isWireguard] at notWireguard
  cases named : proxy.getString "protocol" with
  | none =>
      rw [named] at isProxy
      exact absurd isProxy (by decide)
  | some protocol =>
      rw [named] at notWireguard
      exact planned.marked protocol named (by simpa using notWireguard)

theorem plannedProxy_tag {proxies : List Value} {proxy : Value}
    (planned : ∀ proxy ∈ proxies, PlannedProxy proxy) (member : proxy ∈ proxies) :
    ∃ tag, proxy.getString "tag" = some tag ∧ tag ∈ tagsOf proxies := by
  rcases Option.isSome_iff_exists.1 (planned proxy member).tagged with ⟨tag, named⟩
  exact ⟨tag, named, List.mem_filterMap.2 ⟨proxy, member, named⟩⟩

/-- No proxy has the name of a fixed outbound. -/
theorem not_hasTag_reserved {proxies : List Value} {tag : String}
    (unreserved : ∀ own ∈ tagsOf proxies, own ∉ reservedOutboundTags)
    (reserved : tag ∈ reservedOutboundTags) :
    ∀ proxy ∈ proxies, ¬ hasTag tag proxy = true := by
  intro proxy member tagged
  rw [hasTag, beq_iff_eq] at tagged
  exact unreserved tag (List.mem_filterMap.2 ⟨proxy, member, tagged⟩) reserved

/-! ## Configs -/

/-- The outbounds that are the same in every tunnel config. -/
def fixedOutbounds : List Value := tunnelOutbounds []

theorem fixedOutbounds_guarded :
    ∀ outbound ∈ fixedOutbounds, isProxyOutbound outbound = false ∧
      isWireguard outbound = false ∧
      (outbound.getString "tag").any (· != "") = true ∧
      (hasTag "direct" outbound = true →
        outbound.pointer markPath = some (.nat xrayDialMark)) := by
  intro outbound member
  simp only [fixedOutbounds, tunnelOutbounds, List.nil_append, List.mem_cons,
    List.not_mem_nil, or_false] at member
  rcases member with rfl | rfl | rfl
  · exact ⟨by decide, by decide, by decide, fun _ => rfl⟩
  · exact ⟨by decide, by decide, by decide, fun direct => absurd direct (by decide)⟩
  · exact ⟨by decide, by decide, by decide, fun direct => absurd direct (by decide)⟩

/-- In every tunnel config the outbounds have distinct names, the fixed ones are there
once, all that dial carry the mark except WireGuard, which has no stream settings, and no
proxy has a source address of its own. -/
theorem tunnel_outbounds_anti_loop {urls : UrlParser} {parseJson : JsonParser}
    {order : HashOrder} {server : VlessServer} {options : TunnelOptions} {config : Value}
    (built : buildXrayConfig urls parseJson order server options = .ok config) :
    AntiLoop config := by
  rcases buildXrayConfig_eq_ok built with ⟨plan, planned, rfl⟩
  have rule := (outboundPlan_eq_ok planned).1
  rcases planRule_planned rule with ⟨proxied, distinct, _⟩
  have unreserved := (planRule_proxies rule).2
  have guarded := plan_guarded planned
  have outbounds : configOutbounds (tunnelConfig server options plan
      (buildDnsPlan urls server)) = plan.proxies ++ fixedOutbounds :=
    configOutbounds_tunnelConfig server options plan (buildDnsPlan urls server)
  have foreign {tag : String} (reserved : tag ∈ reservedOutboundTags) :=
    not_hasTag_reserved (fun own listed => (unreserved own listed).1) reserved
  constructor
  · rw [outbounds]
    intro outbound member
    rcases List.mem_append.1 member with proxy | fixed
    · rcases plannedProxy_tag proxied proxy with ⟨tag, named, listed⟩
      exact ⟨tag, named, (unreserved tag listed).2⟩
    · have named := (fixedOutbounds_guarded outbound fixed).2.2.1
      rcases (Option.any_eq_true _ _).1 named with ⟨tag, isTag, nonempty⟩
      exact ⟨tag, isTag, by simpa using nonempty⟩
  · rw [outbounds, tagsOf, List.filterMap_append, ← tagsOf, List.nodup_append]
    refine ⟨distinct, by decide, ?_⟩
    intro tag listed other fixed same
    exact (unreserved tag listed).1 (same ▸ fixed)
  · rw [outbounds]
    intro tag reserved
    rw [List.countP_append, List.countP_eq_zero.2 (foreign reserved), Nat.zero_add]
    revert tag
    decide
  · rw [outbounds]
    intro outbound member dials
    rcases List.mem_append.1 member with proxy | fixed
    · rcases dials with ⟨isProxy, notWireguard⟩ | direct
      · exact (proxied outbound proxy).marked_of_notWireguard notWireguard
      · exact absurd direct (foreign (by simp [reservedOutboundTags]) outbound proxy)
    · rcases fixedOutbounds_guarded outbound fixed with ⟨noProxy, _, _, marked⟩
      rcases dials with ⟨isProxy, _⟩ | direct
      · rw [noProxy] at isProxy
        cases isProxy
      · exact marked direct
  · rw [outbounds]
    intro outbound member wireguard
    rcases List.mem_append.1 member with proxy | fixed
    · exact (guarded outbound proxy).wireguard wireguard
    · rw [(fixedOutbounds_guarded outbound fixed).2.1] at wireguard
      cases wireguard
  · rw [outbounds]
    intro outbound member isProxy
    rcases List.mem_append.1 member with proxy | fixed
    · exact (guarded outbound proxy).unbound
    · rw [(fixedOutbounds_guarded outbound fixed).1] at isProxy
      cases isProxy

/-- A profile whose proxy has a source address and a text for stream settings, beside a
WireGuard one with a mark of its own. -/
def strayProfile : Value :=
  .ofFields [("outbounds", .array
    [.ofFields
      [("protocol", .string "vless"), ("sendThrough", .string "192.0.2.9"),
        ("streamSettings", .string "raw")],
      .ofFields
        [("protocol", .string "WireGuard"), ("streamSettings", .ofFields
          [("sockopt", .ofFields [("mark", .nat 1)])])]])]

theorem tunnel_outbounds_anti_loop_stray :
    ∃ config,
      buildXrayConfig (.ofPlain []) (fun _ => none) .inserted (.ofProfile strayProfile)
        (.plain false) = .ok config ∧ AntiLoop config :=
  ⟨_, rfl, @tunnel_outbounds_anti_loop (.ofPlain []) (fun _ => none) .inserted
    (.ofProfile strayProfile) (.plain false) _ rfl⟩

end Varmlen.Core
