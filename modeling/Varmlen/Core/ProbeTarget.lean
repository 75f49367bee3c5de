import Varmlen.Core.Proxies
import Varmlen.Core.Rules

/-!
# The path that the probe tests

A probe is run before a tunnel is brought up, over a config of its own.  Both configs
send traffic to the target of a plan, and each generation plans anew.  When no rule of a
profile names a target, the plan takes the first balancer that a `HashSet` yields, and
the two need not agree.
-/

namespace Varmlen.Core

open Foundation.Json Foundation.Text

/-- The proxy target of a tunnel config: where the rule before the last one, which is
for the DNS upstreams, sends its traffic. -/
def tunnelTarget (config : Value) : Option ProxyTarget :=
  ((configRules config).dropLast.getLast?).bind ruleTarget

/-- The target of the default route of a probe config. -/
def probeTarget (config : Value) : Option ProxyTarget :=
  ((configRules config).head?).bind ruleTarget

/-- Nothing about a profile's target is left to a hash order: a rule names it, or there
are no two balancers with different tags. -/
def TargetFixed (server : VlessServer) : Prop :=
  ∀ profile, server.rawProfile = some profile →
    let balancerTags := tagsOf (balancerItems (profileBalancers profile))
    (∃ rule ∈ profileRules server,
      (namedTarget (profileProxyTags profile) balancerTags rule).isSome = true) ∨
    ∀ left ∈ balancerTags, ∀ right ∈ balancerTags, left = right

/-- An order that yields the given element first wherever it is present. -/
def HashOrder.starting (element : String) : HashOrder where
  first elements := if element ∈ elements then some element else elements.head?
  first_mem := by
    intro elements found chosen
    split at chosen
    next present =>
      cases chosen
      exact present
    next => exact List.mem_of_mem_head? chosen
  first_isSome := by
    intro elements nonempty
    split
    next => rfl
    next => simpa using nonempty

theorem HashOrder.first_starting {element : String} {elements : List String}
    (present : element ∈ elements) :
    (HashOrder.starting element).first elements = some element := if_pos present

/-! ## Targets of plans -/

section Profile

variable {rules : List Value} {proxyTags balancerTags : List String}

/-- A target that nothing leaves to the order is the same for all orders. -/
theorem profileTarget_congr (order other : HashOrder)
    (fixed : (∃ rule ∈ rules, (namedTarget proxyTags balancerTags rule).isSome = true) ∨
      ∀ left ∈ balancerTags, ∀ right ∈ balancerTags, left = right) :
    profileTarget order rules proxyTags balancerTags =
      profileTarget other rules proxyTags balancerTags := by
  have sameFirst (same : ∀ left ∈ balancerTags, ∀ right ∈ balancerTags, left = right) :
      order.first balancerTags = other.first balancerTags := by
    cases chosen : order.first balancerTags with
    | none =>
        have empty : balancerTags = [] := by
          by_contra nonempty
          have isSome := order.first_isSome nonempty
          rw [chosen] at isSome
          cases isSome
        cases second : other.first balancerTags with
        | none => rfl
        | some tag =>
            have member := other.first_mem second
            rw [empty] at member
            cases member
    | some tag =>
        have nonempty : balancerTags ≠ [] := List.ne_nil_of_mem (order.first_mem chosen)
        rcases Option.isSome_iff_exists.1 (other.first_isSome nonempty) with ⟨second, found⟩
        rw [found, same tag (order.first_mem chosen) second (other.first_mem found)]
  rw [profileTarget.eq_def, profileTarget.eq_def]
  cases named : rules.reverse.findSome? (namedTarget proxyTags balancerTags) with
  | some target => rfl
  | none =>
      rcases fixed with ⟨rule, member, isNamed⟩ | same
      · have unnamed := List.findSome?_eq_none_iff.1 named rule (List.mem_reverse.2 member)
        rw [unnamed] at isNamed
        cases isNamed
      · rw [sameFirst same]

end Profile

section Plans

variable {parseJson : JsonParser} {server : VlessServer}

/-- The targets of two plans of a location agree when nothing is left to the order. -/
theorem plan_target_eq {order other : HashOrder} {plan otherPlan : OutboundPlan}
    (planned : outboundPlan parseJson order server = .ok plan)
    (otherPlanned : outboundPlan parseJson other server = .ok otherPlan)
    (fixed : TargetFixed server) : plan.target = otherPlan.target := by
  rcases outboundPlan_proxies planned with
    ⟨profile, given, composite, _, chosen⟩ | ⟨simple, _, _, _, target⟩
  · rcases outboundPlan_proxies otherPlanned with
      ⟨profile', given', _, _, chosen'⟩ | ⟨simple', _⟩
    · cases Option.some.inj (given.symm.trans given')
      have same := profileTarget_congr order other (fixed profile given)
      rw [chosen, chosen'] at same
      exact Except.ok.inj same
    · rw [simple' profile given] at composite
      cases composite
  · rcases outboundPlan_proxies otherPlanned with
      ⟨profile', given', composite', _⟩ | ⟨_, _, _, _, target'⟩
    · rw [simple profile' given'] at composite'
      cases composite'
    · rw [target, target']

/-- A profile with balancers under two tags and no rule that names a target ends at
whichever balancer the order yields first. -/
theorem plan_target_starting {order : HashOrder} {plan : OutboundPlan} {profile : Value}
    (planned : outboundPlan parseJson order server = .ok plan)
    (given : server.rawProfile = some profile)
    (unnamed : ∀ rule ∈ profileRules server, namedTarget (profileProxyTags profile)
      (tagsOf (balancerItems (profileBalancers profile))) rule = none)
    {tag : String} (listed : tag ∈ tagsOf (balancerItems (profileBalancers profile))) :
    ∃ chosen, outboundPlan parseJson (.starting tag) server = .ok chosen ∧
      chosen.target = .balancer tag := by
  rcases outboundPlan_order planned (.starting tag) with ⟨target, again⟩
  refine ⟨_, again, ?_⟩
  apply (planRule_balancer_iff (outboundPlan_eq_ok again).1).2
  exact ⟨profile, given, .inr ⟨unnamed, HashOrder.first_starting listed⟩⟩

end Plans

/-! ## Configs -/

theorem tunnelTarget_tunnelConfig {parseJson : JsonParser} {order : HashOrder}
    {server : VlessServer} {plan : OutboundPlan}
    (planned : outboundPlan parseJson order server = .ok plan) (options : TunnelOptions)
    (dns : DnsPlan) :
    tunnelTarget (tunnelConfig server options plan dns) = some plan.target := by
  have named := (planRule_target_free (outboundPlan_eq_ok planned).1).1
  have last : (tunnelRules options plan dns).dropLast.getLast? =
      some (pinRule plan.target dns.upstreamIps) := by
    rw [tunnelRules, buildRouteRules, List.dropLast_append_of_ne_nil (by simp)]
    simp
  rw [tunnelTarget, configRules_tunnelConfig, last, Option.bind_some, pinRule,
    ruleTarget_apply named (by decide)]

theorem configRules_probeConfig (plan : OutboundPlan) :
    configRules (probeConfig plan) = [probeRule plan.target] := by
  simp only [configRules, probeConfig]
  rw [get_withObservatories rfl _ _ (by decide) (by decide)]
  simp only [Value.ofFields, Object.ofFields, List.foldl, Value.get_object,
    Object.get_insert_self, Option.map_some, Option.getD_some, Value.getItems]
  rw [Value.get_setSome rfl, if_neg (by decide), Value.get_object, Object.get_insert_self]
  rfl

theorem ruleTarget_probeRule {target : ProxyTarget} (named : target ≠ .outbound "") :
    ruleTarget (probeRule target) = some target := by
  cases target with
  | outbound tag =>
      have nonEmpty : tag ≠ "" := fun empty => named (by rw [empty])
      simp [ruleTarget, probeRule, ProxyTarget.apply, Value.ofFields, Value.getString,
        Value.get_set, Value.asString, Option.filter, nonEmpty]
  | balancer tag =>
      simp [ruleTarget, probeRule, ProxyTarget.apply, Value.ofFields, Value.getString,
        Value.get_set, Value.asString, Object.ofFields, Object.get_insert, Object.get]

theorem probeTarget_probeConfig {parseJson : JsonParser} {order : HashOrder}
    {server : VlessServer} {plan : OutboundPlan}
    (planned : outboundPlan parseJson order server = .ok plan) :
    probeTarget (probeConfig plan) = some plan.target := by
  rw [probeTarget, configRules_probeConfig]
  exact ruleTarget_probeRule (planRule_target_free (outboundPlan_eq_ok planned).1).1

/-- A probe config is that of the location's plan. -/
theorem buildConnectionProbeConfig_eq_ok {parseJson : JsonParser} {order : HashOrder}
    {server : VlessServer} {config : Value}
    (built : buildConnectionProbeConfig parseJson order server = .ok config) :
    ∃ plan, outboundPlan parseJson order server = .ok plan ∧ probeConfig plan = config := by
  rw [buildConnectionProbeConfig] at built
  cases planned : outboundPlan parseJson order server with
  | error fault =>
      rw [planned] at built
      cases built
  | ok plan =>
      rw [planned] at built
      cases built
      exact ⟨plan, rfl, rfl⟩

/-- For a location that has a plan, the probe tests the target of the tunnel in every pair
of hash orders exactly when a rule of the profile names the target or there are no two
balancers with different tags. -/
theorem probe_target_eq_iff {urls : UrlParser} {parseJson : JsonParser} {server : VlessServer}
    {options : TunnelOptions}
    (planned : ∃ order plan, outboundPlan parseJson order server = .ok plan) :
    (∀ order probeOrder config probe,
      buildXrayConfig urls parseJson order server options = .ok config →
      buildConnectionProbeConfig parseJson probeOrder server = .ok probe →
      probeTarget probe = tunnelTarget config) ↔
    TargetFixed server := by
  constructor
  · intro same profile given
    rcases planned with ⟨order, plan, planned⟩
    by_contra loose
    rw [not_or] at loose
    rcases loose with ⟨unnamed, different⟩
    apply different
    intro left leftListed right rightListed
    have free : ∀ rule ∈ profileRules server, namedTarget (profileProxyTags profile)
        (tagsOf (balancerItems (profileBalancers profile))) rule = none := by
      intro rule member
      by_contra named
      exact unnamed ⟨rule, member, Option.isSome_iff_ne_none.2 named⟩
    rcases plan_target_starting planned given free leftListed with
      ⟨leftPlan, leftPlanned, leftTarget⟩
    rcases plan_target_starting planned given free rightListed with
      ⟨rightPlan, rightPlanned, rightTarget⟩
    have agree := same (.starting left) (.starting right)
      (tunnelConfig server options leftPlan (buildDnsPlan urls server)) (probeConfig rightPlan)
      (by rw [buildXrayConfig, leftPlanned]) (by rw [buildConnectionProbeConfig, rightPlanned])
    rw [probeTarget_probeConfig rightPlanned, tunnelTarget_tunnelConfig leftPlanned, leftTarget,
      rightTarget] at agree
    cases agree
    rfl
  · intro fixed order probeOrder config probe built probeBuilt
    rcases buildXrayConfig_eq_ok built with ⟨plan, planned, rfl⟩
    rcases buildConnectionProbeConfig_eq_ok probeBuilt with ⟨probePlan, probePlanned, rfl⟩
    rw [probeTarget_probeConfig probePlanned, tunnelTarget_tunnelConfig planned,
      plan_target_eq planned probePlanned fixed]

/-- A profile with one proxy and balancers under the given tags. -/
def balancersProfile (tags : List String) : Value :=
  .ofFields
    [("outbounds", .array
      [.ofFields [("tag", .string "proxy-a"), ("protocol", .string "vless")]]),
      ("routing", .ofFields
        [("balancers", .array (tags.map fun tag => .ofFields
          [("tag", .string tag), ("selector", .strings ["proxy"])]))])]

/-- With one balancer the probe tests what the tunnel uses. -/
theorem probe_target_eq_one_balancer :
    let server := VlessServer.ofProfile (balancersProfile ["auto"])
    (∃ order plan, outboundPlan (fun _ => none) order server = .ok plan) ∧
      ∀ order probeOrder config probe,
        buildXrayConfig (.ofPlain []) (fun _ => none) order server (.plain false) =
          .ok config →
        buildConnectionProbeConfig (fun _ => none) probeOrder server = .ok probe →
        probeTarget probe = tunnelTarget config :=
  ⟨⟨.inserted, _, rfl⟩, (@probe_target_eq_iff (.ofPlain []) (fun _ => none)
    (.ofProfile (balancersProfile ["auto"])) (.plain false) ⟨.inserted, _, rfl⟩).2 (by
      intro profile given
      cases given
      right
      have tags : ∀ tag ∈ tagsOf (balancerItems (profileBalancers
          (balancersProfile ["auto"]))), tag = "auto" := by decide
      intro left leftListed right rightListed
      rw [tags left leftListed, tags right rightListed])⟩

/-- With two balancers and no rules, the probe tests one and the tunnel uses the other. -/
theorem probe_target_differs :
    let server := VlessServer.ofProfile (balancersProfile ["fast", "slow"])
    ∃ config probe,
      buildXrayConfig (.ofPlain []) (fun _ => none) (.starting "fast") server (.plain false) =
        .ok config ∧
      buildConnectionProbeConfig (fun _ => none) (.starting "slow") server = .ok probe ∧
      tunnelTarget config = some (.balancer "fast") ∧
      probeTarget probe = some (.balancer "slow") :=
  ⟨_, _, rfl, rfl, by decide, by decide⟩

end Varmlen.Core
