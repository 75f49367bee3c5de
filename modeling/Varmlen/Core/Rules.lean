import Varmlen.Core.Local
import Varmlen.Core.Target

/-!
# The generated rules

Which connections each rule of a tunnel config matches and where it sends them.
The rules before the provider's ask for a port of the data inbound, a process or a
domain, or are the one that keeps the LAN direct.
-/

namespace Varmlen.Core

open Foundation.Ip Foundation.Json Foundation.Text

/-! ## Selectors of generated rules -/

@[simp] theorem stringList_strings (texts : List String) :
    stringList (.strings texts) = some texts := by
  rw [Value.strings, stringList]
  induction texts with
  | nil => rfl
  | cons text rest ih => simp [List.mapM_cons, Value.asString, ih]

/-- A list of texts asks for one of them, unless it is empty. -/
@[simp] theorem listSelects_strings (test : String → Bool) (texts : List String) :
    listSelects test (.strings texts) = (texts.isEmpty || texts.any test) := by
  rw [listSelects, stringList_strings]
  cases texts with
  | nil => rfl
  | cons text rest => simp

/-- One text asks for one of its parts. -/
theorem listSelects_string (test : String → Bool) (text : String) :
    listSelects test (.string text) = (split ',' text).any test := by
  have read : stringList (.string text) = some (split ',' text) := rfl
  rw [listSelects, read]
  cases parts : split ',' text with
  | nil => exact absurd parts (split_ne_nil _ _)
  | cons first rest => rfl

namespace Connection

theorem selectorHolds_none {rule : Object} {key : String} {test : Value → Bool}
    (absent : rule.get key = none) : selectorHolds rule key test = true := by
  rw [selectorHolds, absent]

theorem selectorHolds_some {rule : Object} {key : String} {test : Value → Bool}
    {selector : Value} (given : rule.get key = some selector) (notNull : selector ≠ .null) :
    selectorHolds rule key test = test selector := by
  rw [selectorHolds, given]
  cases selector with
  | null => exact absurd rfl notNull
  | _ => rfl

variable (connection : Connection)

/-- A field that is no selector does not change what a rule matches. -/
theorem matchedBy_set {rule : Value} {key : String} (field : Value)
    (notSelector : ∀ test ∈ connection.tests, test.1 ≠ key) :
    connection.matchedBy (rule.set key field) = connection.matchedBy rule := by
  cases rule with
  | object fields =>
      rw [Bool.eq_iff_iff]
      simp only [matchedBy, Value.set, Value.asObject, List.all_eq_true]
      apply forall_congr'
      intro test
      apply forall_congr'
      intro member
      rw [selectorHolds, selectorHolds,
        Object.get_insert_of_ne _ _ (Ne.symm (notSelector test member))]
  | _ => rfl

@[simp] theorem matchedBy_apply (target : ProxyTarget) (rule : Value) :
    connection.matchedBy (target.apply rule) = connection.matchedBy rule := by
  cases target with
  | outbound tag => exact connection.matchedBy_set _ (by simp [tests])
  | balancer tag => exact connection.matchedBy_set _ (by simp [tests])

@[simp] theorem matchedBy_sendTo (useProxy : Bool) (target : ProxyTarget) (rule : Value) :
    connection.matchedBy (sendTo useProxy target rule) = connection.matchedBy rule := by
  cases useProxy with
  | true => exact connection.matchedBy_apply target rule
  | false => exact connection.matchedBy_set _ (by simp [tests])

/-- A rule with one selector matches what its test holds of. -/
theorem matchedBy_fieldRule {key : String} {selector : Value} (notNull : selector ≠ .null) :
    connection.matchedBy (fieldRule key selector) =
      connection.tests.all fun (name, test) => name != key || test selector := by
  have typeUntested : ∀ test ∈ connection.tests, test.1 ≠ "type" := by simp [tests]
  rw [Bool.eq_iff_iff]
  simp only [matchedBy, fieldRule, Value.ofFields, Object.ofFields, List.foldl,
    Value.asObject, List.all_eq_true]
  apply forall_congr'
  rintro ⟨name, test⟩
  apply forall_congr'
  intro member
  by_cases same : key = name
  · subst same
    rw [selectorHolds_some (Object.get_insert_self _ _ _) notNull]
    simp
  · have absent : (Object.insert (Object.insert [] "type" (.string "field")) key
        selector).get name = none := by
      rw [Object.get_insert_of_ne _ _ same,
        Object.get_insert_of_ne _ _ (Ne.symm (typeUntested _ member))]
      rfl
    rw [selectorHolds_none absent]
    simp [Ne.symm same]

theorem matchedBy_ip (texts : List String) :
    connection.matchedBy (fieldRule "ip" (.strings texts)) =
      (texts.isEmpty || texts.any (blockCovers connection.ip)) := by
  rw [matchedBy_fieldRule _ (by simp [Value.strings])]
  simp [tests]

theorem matchedBy_process (names : List String) :
    connection.matchedBy (fieldRule "process" (.strings names)) =
      connection.process.any fun name => names.isEmpty || names.any (name == ·) := by
  rw [matchedBy_fieldRule _ (by simp [Value.strings])]
  cases process : connection.process <;> simp [tests, onSome, process]

theorem matchedBy_domain (selectors : List String) :
    connection.matchedBy (fieldRule "domain" (.strings selectors)) =
      connection.domain.any fun domain =>
        selectors.isEmpty || selectors.any (domainSelects domain) := by
  rw [matchedBy_fieldRule _ (by simp [Value.strings])]
  cases domain : connection.domain <;> simp [tests, onSome, domain]

/-- The last rule matches everything. -/
theorem matchedBy_network :
    connection.matchedBy (fieldRule "network" (.string "tcp,udp")) = true := by
  rw [matchedBy_fieldRule _ (by simp)]
  have split : stringList (.string "tcp,udp") = some ["tcp", "udp"] := by decide
  cases network : connection.network <;>
    simp [tests, listSelects, split, network, Network.name, toAsciiLowercase]

theorem selectorHolds_insert_of_ne {rule : Object} {key other : String} {selector : Value}
    {test : Value → Bool} (different : other ≠ key) :
    selectorHolds (rule.insert other selector) key test = selectorHolds rule key test := by
  rw [selectorHolds, selectorHolds, Object.get_insert_of_ne _ _ different]

/-- A port is asked for on top of the other selectors. -/
theorem matchedBy_port {fields : Object} {selector : Value}
    (absent : fields.get "port" = none) (notNull : selector ≠ .null) :
    connection.matchedBy (Value.set (.object fields) "port" selector) =
      (connection.matchedBy (.object fields) && portSelects connection.port selector) := by
  have added {test : Value → Bool} :
      selectorHolds (fields.insert "port" selector) "port" test = test selector :=
    selectorHolds_some (Object.get_insert_self _ _ _) notNull
  have missing {test : Value → Bool} : selectorHolds fields "port" test = true :=
    selectorHolds_none absent
  simp [matchedBy, Value.set, Value.asObject, tests, selectorHolds_insert_of_ne, added,
    missing, Bool.and_assoc, Bool.and_comm, Bool.and_left_comm]

/-- The DNS rule asks for port 53 of the data inbound. -/
theorem matchedBy_dnsRule (inboundTag : String) :
    connection.matchedBy (dnsRule inboundTag) =
      (decide (connection.inboundTag = some inboundTag) && decide (connection.port = 53)) := by
  have parts : dnsRule inboundTag =
      ((fieldRule "inboundTag" (.strings [inboundTag])).set "port" (.nat 53)).set
        "outboundTag" (.string "dns-out") := rfl
  have absent : Object.get (Object.ofFields
      [("type", .string "field"), ("inboundTag", .strings [inboundTag])]) "port" = none := by
    simp [Object.ofFields, Object.get_insert, Object.get]
  rw [parts, matchedBy_set _ _ (by simp [tests]), fieldRule, Value.ofFields,
    matchedBy_port _ absent (by simp [Value.nat]), ← Value.ofFields, ← fieldRule,
    matchedBy_fieldRule _ (by simp [Value.strings])]
  cases tag : connection.inboundTag with
  | none => simp [tests, onSome, tag]
  | some other =>
      have number : (53 : Int) = connection.port ↔ connection.port = 53 := by omega
      rw [Bool.eq_iff_iff]
      simp [tests, onSome, tag, portSelects, Value.nat, number]

end Connection

/-! ## Targets of generated rules -/

@[simp] theorem ruleTarget_apply {target : ProxyTarget} {key : String} {selector : Value}
    (named : target ≠ .outbound "") (notTag : key ≠ "outboundTag") :
    ruleTarget (target.apply (fieldRule key selector)) = some target := by
  cases target with
  | outbound tag =>
      have nonEmpty : tag ≠ "" := fun empty => named (by rw [empty])
      simp [ruleTarget, ProxyTarget.apply, fieldRule, Value.ofFields, Value.getString,
        Value.get_set, Value.asString, Option.filter, nonEmpty]
  | balancer tag =>
      have unset : Object.get (Object.ofFields [("type", .string "field"), (key, selector)])
          "outboundTag" = none := by
        simp [Object.ofFields, Object.get_insert, Object.get, notTag]
      simp [ruleTarget, ProxyTarget.apply, fieldRule, Value.ofFields, Value.getString,
        Value.get_set, Value.asString, unset]

theorem ruleTarget_lanRule : ruleTarget lanRule = some (.outbound "direct") := by
  decide

/-! ## The rules of a tunnel config -/

/-- The routing rules of a config. -/
def configRules (config : Value) : List Value :=
  ((config.get "routing").map (·.getItems "rules")).getD []

theorem configRules_tunnelConfig (server : VlessServer) (options : TunnelOptions)
    (plan : OutboundPlan) (dns : DnsPlan) :
    configRules (tunnelConfig server options plan dns) = tunnelRules options plan dns := by
  simp only [configRules, tunnelConfig]
  rw [get_withObservatories rfl _ _ (by decide) (by decide)]
  simp only [Value.ofFields, Object.ofFields, List.foldl, Value.get_object,
    Object.get_insert_self, Option.map_some, Option.getD_some, Value.getItems]
  rw [Value.get_setSome (isObject_applyProviderRoutingOptions server _),
    if_neg (by decide), get_applyProviderRoutingOptions rfl (by decide) (by decide),
    Value.get_object, Object.get_insert_self]
  rfl

theorem matchedBy_lanRule (connection : Connection) :
    connection.matchedBy lanRule = isLocal connection.ip := by
  rw [lanRule, connection.matchedBy_set _ (by simp [Connection.tests]),
    connection.matchedBy_ip]
  rfl

/-- What the rules before the provider's do to a connection that has no process and
no domain and is not application DNS. -/
theorem find?_leadingRules {connection : Connection} {split : SplitInput} {allowLan : Bool}
    {inboundTag : String} {tun : TunMode} {target : ProxyTarget}
    (notHijacked : ¬ (connection.inboundTag = some inboundTag ∧ connection.port = 53))
    (noProcess : connection.process = none) (noDomain : connection.domain = none) :
    (leadingRules split allowLan inboundTag tun target).find? connection.matchedBy =
      if allowLan = true ∧ isLocal connection.ip = true then some lanRule else none := by
  have notDns : connection.matchedBy (dnsRule inboundTag) = false := by
    rw [connection.matchedBy_dnsRule]
    simpa using notHijacked
  have notApp : (appRules split tun target).find? connection.matchedBy = none := by
    rw [List.find?_eq_none]
    intro rule member
    cases tun with
    | tun2socks => cases member
    | xrayNative =>
        rcases List.mem_map.1 member with ⟨app, _, rfl⟩
        simp [connection.matchedBy_process, noProcess]
  have notSite : (siteRules split target).find? connection.matchedBy = none := by
    rw [List.find?_eq_none]
    intro rule member
    rw [siteRules] at member
    split at member
    next => cases member
    next =>
      rcases List.mem_singleton.1 member with rfl
      simp [connection.matchedBy_domain, noDomain]
  simp only [leadingRules, List.find?_append, notApp, notSite, Option.or_none]
  cases allowLan with
  | false => simp [notDns]
  | true =>
      cases near : isLocal connection.ip <;> simp [notDns, matchedBy_lanRule, near]

/-- The rules decide about every connection: none is left to Xray's own default. -/
theorem decidingIndex_isSome (options : TunnelOptions) (plan : OutboundPlan) (dns : DnsPlan)
    (connection : Connection) :
    (decidingIndex (tunnelRules options plan dns) connection).isSome = true := by
  rw [decidingIndex, List.findIdx?_isSome, List.any_eq_true]
  refine ⟨defaultRule options.split (effectiveTun options.mode options.tun) plan.target,
    ?_, ?_⟩
  · simp [tunnelRules, buildRouteRules]
  · rw [defaultRule, connection.matchedBy_sendTo, connection.matchedBy_network]

end Varmlen.Core
