import Varmlen.Contract.FileKeys
import Varmlen.Core.Proxies

/-!
# Plans before the daemon's checks

What the daemon checks of tags, outbounds and balancers, and what every plan of the
client has of it.
-/

namespace Varmlen.Contract

open Foundation.Json Foundation.Text
open Varmlen.Core (OutboundPlan PlannedProxy tagsOf)

/-! ## Tags -/

/-- Every value has a tag, and the tags are distinct, not empty and not used before. -/
structure FreshTags (seen : List String) (values : List Value) : Prop where
  tagged : ∀ value ∈ values, (value.getString "tag").isSome = true
  named : ∀ tag ∈ tagsOf values, tag ≠ ""
  distinct : (tagsOf values).Nodup
  unseen : ∀ tag ∈ tagsOf values, tag ∉ seen

theorem tagsOf_cons {value : Value} {tag : String} (tagged : value.getString "tag" = some tag)
    (rest : List Value) : tagsOf (value :: rest) = tag :: tagsOf rest := by
  simp [tagsOf, tagged]

theorem freshTags_nil (seen : List String) : FreshTags seen [] := by
  constructor <;> simp [tagsOf]

theorem freshTags_cons {seen : List String} {value : Value} {rest : List Value}
    {tag : String} (tagged : value.getString "tag" = some tag) :
    FreshTags seen (value :: rest) ↔
      (tag ≠ "" ∧ tag ∉ seen) ∧ FreshTags (tag :: seen) rest := by
  have tags := tagsOf_cons tagged rest
  constructor
  · intro fresh
    rcases fresh with ⟨each, named, distinct, unseen⟩
    rw [tags] at named distinct unseen
    rw [List.nodup_cons] at distinct
    refine ⟨⟨named tag (.head _), unseen tag (.head _)⟩, ?_⟩
    constructor
    · exact fun other member => each other (.tail _ member)
    · exact fun other member => named other (.tail _ member)
    · exact distinct.2
    · intro other member
      rw [List.mem_cons, not_or]
      exact ⟨fun same => distinct.1 (same ▸ member), unseen other (.tail _ member)⟩
  · intro both
    rcases both with ⟨⟨notEmpty, new⟩, each, named, distinct, unseen⟩
    constructor
    · rw [List.forall_mem_cons, tagged]
      exact ⟨rfl, each⟩
    · rw [tags, List.forall_mem_cons]
      exact ⟨notEmpty, named⟩
    · rw [tags, List.nodup_cons]
      exact ⟨fun again => unseen tag again (.head _), distinct⟩
    · rw [tags, List.forall_mem_cons]
      exact ⟨new, fun other member seen => unseen other member (.tail _ seen)⟩

/-- The tags used before do not matter to the values themselves. -/
theorem FreshTags.forget {seen : List String} {values : List Value}
    (fresh : FreshTags seen values) : FreshTags [] values :=
  ⟨fresh.tagged, fresh.named, fresh.distinct, fun _ _ => List.not_mem_nil⟩

theorem not_freshTags {seen : List String} {value : Value} {rest : List Value}
    (untagged : value.getString "tag" = none) : ¬FreshTags seen (value :: rest) := by
  intro fresh
  have tagged := fresh.tagged value (.head _)
  rw [untagged] at tagged
  cases tagged

theorem validTags_iff {seen : List String} {values : List Value} :
    Daemon.validTags seen values = true ↔ FreshTags seen values := by
  induction values generalizing seen with
  | nil => simp [Daemon.validTags, freshTags_nil]
  | cons value rest ih =>
      rw [Daemon.validTags]
      cases tagged : value.getString "tag" with
      | none => simp [not_freshTags tagged]
      | some tag =>
          rw [freshTags_cons tagged, ← ih]
          simp [and_assoc]

theorem pingProxyTags_iff {seen tags : List String} {values : List Value} :
    Daemon.pingProxyTags seen values = .ok tags ↔
      FreshTags seen values ∧ tags = (tagsOf values).reverse ++ seen ∧
        ∀ value ∈ values, Daemon.isProxy value = true ∧ Daemon.isMarked value = true := by
  induction values generalizing seen with
  | nil =>
      rw [Daemon.pingProxyTags, Except.ok.injEq]
      simpa [freshTags_nil, tagsOf] using eq_comm
  | cons value rest ih =>
      simp only [Daemon.pingProxyTags, Foundation.Checks.bind_eq_ok, Daemon.expected_eq_ok, ih]
      cases tagged : value.getString "tag" with
      | none => simp [not_freshTags tagged]
      | some tag =>
          rw [freshTags_cons tagged, List.forall_mem_cons, tagsOf_cons tagged]
          simp only [Option.filter_some, Option.ite_none_right_eq_some, Option.some.injEq,
            Bool.and_eq_true, bne_iff_ne, Bool.not_eq_true', List.contains_eq_mem,
            decide_eq_false_iff_not, List.reverse_cons, List.append_assoc,
            List.singleton_append]
          constructor
          · intro accepted
            rcases accepted with ⟨_, ⟨⟨⟨⟨isProxy, named⟩, new⟩, marked⟩, rfl⟩, fresh, rfl,
              others⟩
            exact ⟨⟨⟨named, new⟩, fresh⟩, rfl, ⟨isProxy, marked⟩, others⟩
          · intro fits
            rcases fits with ⟨⟨⟨named, new⟩, fresh⟩, rfl, ⟨isProxy, marked⟩, others⟩
            exact ⟨tag, ⟨⟨⟨⟨isProxy, named⟩, new⟩, marked⟩, rfl⟩, fresh, rfl, others⟩

/-- The balancer has selectors, and one of them selects a proxy. -/
def SelectsProxy (proxyTags : List String) (balancer : Value) : Prop :=
  ∃ selectors, (balancer.get "selector").bind Value.asArray = some selectors ∧
    Daemon.selectsProxy proxyTags selectors = true

theorem pingBalancerTags_iff {proxyTags seen tags : List String} {values : List Value} :
    Daemon.pingBalancerTags proxyTags seen values = .ok tags ↔
      FreshTags seen values ∧ tags = (tagsOf values).reverse ++ seen ∧
        ∀ value ∈ values, SelectsProxy proxyTags value := by
  induction values generalizing seen with
  | nil =>
      rw [Daemon.pingBalancerTags, Except.ok.injEq]
      simpa [freshTags_nil, tagsOf] using eq_comm
  | cons value rest ih =>
      simp only [Daemon.pingBalancerTags, Foundation.Checks.bind_eq_ok, Daemon.expected_eq_ok,
        Daemon.require_eq_ok, exists_const, ih]
      cases tagged : value.getString "tag" with
      | none => simp [not_freshTags tagged]
      | some tag =>
          rw [freshTags_cons tagged, List.forall_mem_cons, tagsOf_cons tagged]
          simp only [Option.filter_some, Option.ite_none_right_eq_some, Option.some.injEq,
            Bool.and_eq_true, bne_iff_ne, Bool.not_eq_true', List.contains_eq_mem,
            decide_eq_false_iff_not, List.reverse_cons, List.append_assoc,
            List.singleton_append]
          constructor
          · intro accepted
            rcases accepted with ⟨_, ⟨named, rfl⟩, selectors, given, ⟨⟨new, _⟩, selects⟩, fresh,
              rfl, others⟩
            exact ⟨⟨⟨named, new⟩, fresh⟩, rfl, ⟨selectors, given, selects⟩, others⟩
          · intro fits
            rcases fits with ⟨⟨⟨named, new⟩, fresh⟩, rfl, ⟨selectors, given, selects⟩, others⟩
            -- an empty list of selectors selects nothing
            have nonempty : selectors.isEmpty = false := by
              cases selectors with
              | nil => cases selects
              | cons first rest => rfl
            exact ⟨tag, ⟨named, rfl⟩, selectors, given, ⟨⟨new, nonempty⟩, selects⟩, fresh, rfl,
              others⟩

/-! ## What is known of a plan -/

/-- The shape of every plan, whatever the provider's JSON was. -/
structure Planned (plan : OutboundPlan) : Prop where
  proxies : ∀ proxy ∈ plan.proxies, PlannedProxy proxy
  fresh : FreshTags Core.reservedOutboundTags plan.proxies
  nonempty : plan.proxies ≠ []
  target : (∃ tag ∈ tagsOf plan.proxies, plan.target = .outbound tag) ∨
    ∃ tag ∈ tagsOf (Core.balancerItems plan.balancers), plan.target = .balancer tag
  listed : ∀ balancers ∈ plan.balancers, balancers = .array (Core.balancerItems plan.balancers)
  balancers : ∀ balancer ∈ Core.balancerItems plan.balancers,
    (balancer.getString "tag").isSome = true ∧ SelectsProxy (tagsOf plan.proxies) balancer

theorem checkBalancers_eq_ok {proxyTags : List String} {items : List Value}
    (checked : Core.checkBalancers proxyTags items = .ok ()) :
    ∀ balancer ∈ items,
      (balancer.getString "tag").isSome = true ∧ SelectsProxy proxyTags balancer := by
  induction items with
  | nil => exact fun _ member => nomatch member
  | cons balancer rest ih =>
      rw [Core.checkBalancers] at checked
      split at checked
      next => cases checked
      next tag tagged =>
        split at checked
        next => cases checked
        next selectors given =>
          split at checked
          next selects =>
            rw [List.forall_mem_cons, tagged]
            exact ⟨⟨rfl, selectors, given, selects⟩, ih checked⟩
          next => cases checked

/-- The balancers that a profile is taken to have are an array. -/
theorem profileBalancers_listed {profile balancers : Value}
    (given : Core.profileBalancers profile = some balancers) :
    balancers = .array (Core.balancerItems (some balancers)) := by
  have isArray := (Option.filter_eq_some_iff.1 given).2
  cases balancers with
  | array items => rfl
  | _ => cases isArray

theorem planned_of_ok {parseJson : Core.JsonParser} {order : Core.HashOrder}
    {server : Core.VlessServer} {plan : OutboundPlan}
    (planned : Core.outboundPlan parseJson order server = .ok plan) : Planned plan := by
  have rule := (Core.outboundPlan_eq_ok planned).1
  rcases Core.planRule_planned rule with ⟨proxies, distinct, nonempty⟩
  have free := (Core.planRule_proxies rule).2
  refine ⟨proxies, ?_, nonempty, Core.planRule_target rule, ?_, ?_⟩
  · exact ⟨fun proxy member => (proxies proxy member).tagged, fun tag member => (free tag member).2,
      distinct, fun tag member => (free tag member).1⟩
  · intro balancers given
    cases rule with
    | composite profile _ _ copied _ _ =>
        rw [given, profileBalancers_listed (copied.symm.trans given)]
        rfl
    | single _ _ _ _ none _ =>
        rw [none] at given
        cases given
  · cases rule with
    | composite profile _ _ _ checked _ => exact checkBalancers_eq_ok checked
    | single _ _ _ _ none _ =>
        rw [none]
        exact fun _ member => nomatch member

/-! ## Proxies of a plan -/

/-- The daemon's names of protocols are in lower case. -/
theorem toAsciiLowercase_of_isProxyProtocol {protocol : String}
    (known : Daemon.isProxyProtocol protocol = true) : toAsciiLowercase protocol = protocol := by
  have listed : protocol ∈ ["http", "socks", "shadowsocks", "vmess", "vless", "trojan",
      "hysteria", "wireguard"] := by simpa [Daemon.isProxyProtocol] using known
  have each : ∀ name ∈ ["http", "socks", "shadowsocks", "vmess", "vless", "trojan",
      "hysteria", "wireguard"], toAsciiLowercase name = name := by decide
  exact each protocol listed

/-- A proxy that the daemon knows has the mark it asks for. -/
theorem isMarked_of_isProxy {proxy : Value} (planned : PlannedProxy proxy)
    (known : Daemon.isProxy proxy = true) : Daemon.isMarked proxy = true := by
  rw [Daemon.isProxy, Option.any_eq_true] at known
  rcases known with ⟨protocol, named, isKnown⟩
  rw [Daemon.isMarked, named]
  by_cases wireguard : protocol = "wireguard"
  · simp [wireguard]
  · have lower := toAsciiLowercase_of_isProxyProtocol isKnown
    have marked := planned.marked protocol named (by rwa [lower])
    rw [Core.markPath] at marked
    rw [marked, Bool.or_eq_true]
    exact .inr rfl

/-! ## Outbounds -/

/-- The outbounds that every tunnel has. -/
def fixedOutbounds : List Value := Core.tunnelOutbounds []

theorem tunnelOutbounds_eq (proxies : List Value) :
    Core.tunnelOutbounds proxies = proxies ++ fixedOutbounds := rfl

theorem tagsOf_append (left right : List Value) :
    tagsOf (left ++ right) = tagsOf left ++ tagsOf right :=
  List.filterMap_append

theorem tagsOf_fixedOutbounds : tagsOf fixedOutbounds = Core.reservedOutboundTags := by
  decide

theorem countP_proxies_eq_zero {proxies : List Value}
    (fresh : FreshTags Core.reservedOutboundTags proxies) {tag : String} (protocol : String)
    (reserved : tag ∈ Core.reservedOutboundTags) :
    proxies.countP (fun outbound => outbound.getString "tag" == some tag &&
      outbound.getString "protocol" == some protocol) = 0 := by
  rw [List.countP_eq_zero]
  intro proxy member both
  have tagged : proxy.getString "tag" = some tag := eq_of_beq (Bool.and_eq_true_iff.1 both).1
  exact fresh.unseen tag (List.mem_filterMap.2 ⟨proxy, member, tagged⟩) reserved

theorem systemOutbounds_exact {proxies : List Value}
    (fresh : FreshTags Core.reservedOutboundTags proxies) :
    (Daemon.requiredSystemOutbounds.all fun (tag, protocol) =>
      (Core.tunnelOutbounds proxies).countP (fun outbound =>
        outbound.getString "tag" == some tag &&
          outbound.getString "protocol" == some protocol) == 1) = true := by
  have exact : ∀ system ∈ Daemon.requiredSystemOutbounds,
      system.1 ∈ Core.reservedOutboundTags ∧
        fixedOutbounds.countP (fun outbound => outbound.getString "tag" == some system.1 &&
          outbound.getString "protocol" == some system.2) = 1 := by decide
  rw [List.all_eq_true]
  rintro ⟨tag, protocol⟩ member
  rcases exact (tag, protocol) member with ⟨reserved, once⟩
  dsimp only at once ⊢
  rw [tunnelOutbounds_eq, List.countP_append, countP_proxies_eq_zero fresh protocol reserved,
    once]
  rfl

theorem freshTags_tunnelOutbounds {proxies : List Value}
    (fresh : FreshTags Core.reservedOutboundTags proxies) :
    FreshTags [] (Core.tunnelOutbounds proxies) := by
  have tags : tagsOf (Core.tunnelOutbounds proxies) =
      tagsOf proxies ++ Core.reservedOutboundTags := by
    rw [tunnelOutbounds_eq, tagsOf_append, tagsOf_fixedOutbounds]
  constructor
  · rw [tunnelOutbounds_eq, List.forall_mem_append]
    exact ⟨fresh.tagged, by decide⟩
  · rw [tags, List.forall_mem_append]
    exact ⟨fresh.named, by decide⟩
  · rw [tags, List.nodup_append]
    refine ⟨fresh.distinct, by decide, ?_⟩
    rintro tag member _ reserved rfl
    exact fresh.unseen tag member reserved
  · exact fun _ _ => List.not_mem_nil

theorem outboundSetPermitted_iff {plan : OutboundPlan} (planned : Planned plan)
    (few : plan.proxies.length ≤ Daemon.maxServerIps) :
    Daemon.outboundSetPermitted (Core.tunnelOutbounds plan.proxies) = true ↔
      ∀ proxy ∈ plan.proxies, Daemon.isProxy proxy = true := by
  have count : (Core.tunnelOutbounds plan.proxies).countP Daemon.isProxy =
      plan.proxies.countP Daemon.isProxy := by
    rw [tunnelOutbounds_eq, List.countP_append]
    rfl
  have tags := validTags_iff.2 (freshTags_tunnelOutbounds planned.fresh)
  have length : (Core.tunnelOutbounds plan.proxies).length = plan.proxies.length + 3 := by
    rw [tunnelOutbounds_eq, List.length_append]
    rfl
  have some : 0 < plan.proxies.length := List.length_pos_iff.2 planned.nonempty
  rw [← List.countP_eq_length]
  simp only [Daemon.outboundSetPermitted, systemOutbounds_exact planned.fresh, tags, count, length,
    Bool.and_true, Bool.true_and, Bool.and_eq_true, decide_eq_true_eq, beq_iff_eq]
  constructor
  · intro permitted
    rcases permitted with ⟨_, all⟩
    exact (Nat.add_right_cancel all).symm
  · intro all
    rw [all]
    exact ⟨⟨some, few⟩, rfl⟩

end Varmlen.Contract
