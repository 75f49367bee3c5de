import Varmlen.Contract.Sections
import Varmlen.Core.Checked
import Varmlen.Core.Import

/-!
# Documents between client and daemon

The client generates a tunnel document and a probe document for a location, and the
daemon checks both before it runs Xray.  Everything the client writes itself passes;
what it takes over from a provider passes under conditions that the client does not
check.
-/

namespace Varmlen.Contract

open Foundation.Json
open Varmlen.Core (OutboundPlan ProxyTarget TunnelOptions VlessServer DnsPlan tagsOf)
open Varmlen.Daemon (isPrivilegedKey)

/-! ## What is permitted -/

section Permitted

variable {plan : OutboundPlan}

theorem keysAll_setSome {test : String → Bool} {value : Value} {key : String}
    {field : Option Value} (allowed : test key = true)
    (known : ∃ object, value.asObject = some object ∧ object.keysAll test = true) :
    ∃ object, (value.setSome key field).asObject = some object ∧
      object.keysAll test = true := by
  rcases known with ⟨object, isObject, all⟩
  rcases Daemon.asObject_eq_some.1 isObject with rfl
  cases field with
  | none => exact ⟨object, rfl, all⟩
  | some inner => exact ⟨_, rfl, Object.keysAll_insert all allowed inner⟩

theorem keysAll_withObservatories {test : String → Bool} {fields : List (String × Value)}
    (known : ∀ field ∈ fields, test field.1 = true) (observatory : test "observatory" = true)
    (burst : test "burstObservatory" = true) :
    ∃ object, (withObservatories plan (.ofFields fields)).asObject = some object ∧
      object.keysAll test = true :=
  keysAll_setSome burst
    (keysAll_setSome observatory ⟨_, rfl, Object.keysAll_ofFields known⟩)

/-- The sections of a document are its own, except for the observatories. -/
theorem get_withObservatories {fields : List (String × Value)}
    (distinct : ("observatory" :: "burstObservatory" :: fields.map Prod.fst).Nodup)
    {key : String} {value : Value} (member : (key, value) ∈ fields) :
    (withObservatories plan (.ofFields fields)).get key = some value := by
  rw [List.nodup_cons, List.nodup_cons, List.mem_cons, not_or] at distinct
  rcases distinct with ⟨⟨_, noObservatory⟩, noBurst, distinct⟩
  have keyMember : key ∈ fields.map Prod.fst := List.mem_map.2 ⟨_, member, rfl⟩
  rw [withObservatories, Core.get_withObservatories rfl]
  · exact Object.get_ofFields distinct member
  · exact fun same => noObservatory (same ▸ keyMember)
  · exact fun same => noBurst (same ▸ keyMember)

theorem get_tunnelConfig (server : VlessServer) (options : TunnelOptions) (plan : OutboundPlan)
    (dns : DnsPlan) {key : String} {value : Value}
    (member : (key, value) ∈ tunnelFields server options plan dns) :
    (Core.tunnelConfig server options plan dns).get key = some value :=
  get_withObservatories (by simp) member

theorem log_permitted (level : String) :
    ∃ log, (some (Value.ofFields [("loglevel", .string level)])).bind Value.asObject = some log ∧
      log.keysAll (· == "loglevel") = true :=
  ⟨_, rfl, rfl⟩

theorem dataInbound_buildInbounds (mode : String) (mtu : Nat) :
    ∃ data, (Core.buildInbounds (Core.effectiveTun mode .xrayNative) mtu).asArray = some [data] ∧
      Daemon.DataInbound (mode != "proxy") data := by
  by_cases proxy : mode = "proxy"
  · rw [Core.effectiveTun, if_pos proxy, proxy]
    refine ⟨_, rfl, ?_⟩
    constructor
    · exact Value.getString_ofFields (by simp) (.head _)
    · exact Value.getString_ofFields (by simp) (.tail _ (.tail _ (.tail _ (.head _))))
    · rw [Daemon.checkDataInbound, if_neg (by simp), Daemon.require_eq_ok]
      rw [Value.getString_ofFields (by simp) (.tail _ (.head _))]
      simp [Value.ofFields, Object.ofFields, Object.get_insert, Value.asU64, Value.nat,
        Core.xraySocksPort, Daemon.proxyPort]
  · have expectsTun : (mode != "proxy") = true := by simpa using proxy
    rw [Core.effectiveTun, if_neg proxy, expectsTun]
    refine ⟨_, rfl, ?_⟩
    constructor
    · exact Value.getString_ofFields (by simp) (.head _)
    · exact Value.getString_ofFields (by simp) (.tail _ (.head _))
    · rw [Daemon.checkDataInbound, if_pos rfl, Daemon.require_eq_ok]
      simp [Value.pointer, Value.ofFields, Object.ofFields, Object.get_insert, Value.asString,
        Core.tunName, Daemon.tunInterface]

theorem isObject_tunnelRouting (server : VlessServer) (options : TunnelOptions)
    (plan : OutboundPlan) (dns : DnsPlan) :
    (tunnelRouting server options plan dns).isObject = true := by
  rw [tunnelRouting, Value.isObject_setSome, Core.isObject_applyProviderRoutingOptions]
  rfl

/-- A tunnel document is permitted exactly when its proxies are known to the daemon
and nothing in it refers to a file. -/
theorem tunnelPermitted_tunnelConfig {server : VlessServer} {split : Core.SplitInput}
    {mode : String} {allowLan : Bool} {mtu : Nat} {dns : DnsPlan} (planned : Planned plan)
    (few : plan.proxies.length ≤ Daemon.maxServerIps) :
    Daemon.TunnelPermitted (mode != "proxy")
        (Core.tunnelConfig server (.requested split mode allowLan mtu) plan dns) ↔
      (∀ proxy ∈ plan.proxies, Daemon.isProxy proxy = true) ∧
        Daemon.containsForbiddenFileKey
          (Core.tunnelConfig server (.requested split mode allowLan mtu) plan dns) = false := by
  have found {key : String} {value : Value} (member : (key, value) ∈
      tunnelFields server (.requested split mode allowLan mtu) plan dns) :=
    get_tunnelConfig server (.requested split mode allowLan mtu) plan dns member
  have outbounds := found (.tail _ (.tail _ (.tail _ (.head _))))
  constructor
  · intro permitted
    rcases permitted.outbounds with ⟨given, same, set⟩
    rw [outbounds] at same
    cases same
    exact ⟨(outboundSetPermitted_iff planned few).1 set, permitted.files⟩
  · intro both
    rcases both with ⟨proxies, files⟩
    constructor
    · apply keysAll_withObservatories
      · simp [Daemon.tunnelSections]
      · decide
      · decide
    · rw [found (.head _)]
      exact log_permitted _
    · rw [found (.tail _ (.tail _ (.head _)))]
      exact dataInbound_buildInbounds mode _
    · rw [outbounds]
      exact ⟨_, rfl, (outboundSetPermitted_iff planned few).2 proxies⟩
    · rw [found (.tail _ (.head _))]
      rfl
    · rw [found (.tail _ (.tail _ (.tail _ (.tail _ (.head _)))))]
      exact isObject_tunnelRouting server _ plan dns
    · exact files

/-! ### Probe documents -/

theorem pingInboundTags_probeInbound :
    Daemon.pingInboundTags 1 0 ([probeInbound].zip [Core.connectionProbePortBase]) =
      .ok ["socks-in-0"] := by
  decide

theorem get_probeConfig (plan : OutboundPlan) {key : String} {value : Value}
    (member : (key, value) ∈ probeFields plan) : (Core.probeConfig plan).get key = some value :=
  get_withObservatories (by simp) member

/-- A probe document names the port of the client. -/
theorem portsPermitted_probeConfig {ports : List Nat} :
    Daemon.PortsPermitted ports (Core.probeConfig plan) ↔
      ports = [Core.connectionProbePortBase] := by
  have listed : [probeInbound].mapM Daemon.validationPort =
      some [Core.connectionProbePortBase] := by decide
  rw [Daemon.PortsPermitted, get_probeConfig plan (.tail _ (.head _)), Option.bind_some,
    Value.asArray]
  constructor
  · intro named
    rcases named with ⟨inbounds, same, _, found⟩
    cases same
    rw [listed] at found
    exact (Option.some.inj found).symm
  · rintro rfl
    exact ⟨_, rfl, by decide, listed⟩

theorem pingOutboundsPermitted_probeOutbounds {proxies : List Value} (nonempty : proxies ≠ [])
    (few : proxies.length ≤ Daemon.maxServerIps) :
    Daemon.pingOutboundsPermitted (Core.probeOutbounds proxies) = true := by
  have positive : 0 < proxies.length := List.length_pos_iff.2 nonempty
  have length : (Core.probeOutbounds proxies).length = proxies.length + 1 := by
    rw [Core.probeOutbounds, List.length_append]
    rfl
  have last : (Core.probeOutbounds proxies).getLast? =
      some (Value.ofFields [("tag", .string "direct"), ("protocol", .string "freedom")]) :=
    List.getLast?_concat
  have direct : (Value.ofFields
      [("tag", .string "direct"), ("protocol", .string "freedom")]).getString "tag" =
        some "direct" ∧
      (Value.ofFields
        [("tag", .string "direct"), ("protocol", .string "freedom")]).getString "protocol" =
        some "freedom" := by decide
  rw [Daemon.pingOutboundsPermitted, length, last, Option.bind_some, Option.bind_some, direct.1,
    direct.2]
  simpa [Nat.succ_le_succ_iff] using ⟨positive, few⟩

theorem selectsProxy_reverse {proxyTags : List String} {balancer : Value} :
    SelectsProxy proxyTags.reverse balancer ↔ SelectsProxy proxyTags balancer := by
  simp [SelectsProxy, Daemon.selectsProxy]

theorem pingBalancers_eq_ok {balancerTags : List String} (planned : Planned plan) :
    Daemon.pingBalancers (tagsOf plan.proxies).reverse plan.balancers = .ok balancerTags ↔
      ((Core.balancerItems plan.balancers).length ≤ Daemon.maxServerIps ∧
        FreshTags [] (Core.balancerItems plan.balancers)) ∧
      balancerTags = (tagsOf (Core.balancerItems plan.balancers)).reverse := by
  have selects : ∀ balancer ∈ Core.balancerItems plan.balancers,
      SelectsProxy (tagsOf plan.proxies).reverse balancer :=
    fun balancer member => selectsProxy_reverse.2 (planned.balancers balancer member).2
  cases given : plan.balancers with
  | none =>
      rw [Daemon.pingBalancers, Except.ok.injEq]
      simp [Core.balancerItems, freshTags_nil, tagsOf]
  | some balancers =>
      have listed := planned.listed balancers given
      rw [given] at listed selects
      simp only [Daemon.pingBalancers, Foundation.Checks.bind_eq_ok, Daemon.expected_eq_ok,
        Daemon.require_eq_ok, exists_const, pingBalancerTags_iff, decide_eq_true_eq,
        List.append_nil]
      rw [listed, Value.asArray]
      constructor
      · intro accepted
        rcases accepted with ⟨items, same, count, fresh, tags, _⟩
        cases same
        exact ⟨⟨count, fresh⟩, tags⟩
      · intro fits
        rcases fits with ⟨⟨count, fresh⟩, tags⟩
        exact ⟨_, rfl, count, fresh, tags, selects⟩

theorem ruleMeasures_probeRule (planned : Planned plan) :
    Daemon.ruleMeasures 1 "socks-in-0" (tagsOf plan.proxies).reverse
      (tagsOf (Core.balancerItems plan.balancers)).reverse (Core.probeRule plan.target) = true := by
  rcases planned.target with ⟨tag, member, target⟩ | ⟨tag, member, target⟩
  · rw [target]
    simp [Daemon.ruleMeasures, Core.probeRule, ProxyTarget.apply, Value.set, Value.getString,
      Value.ofFields, Object.ofFields, Object.get_insert, Object.get, Value.asString,
      Value.strings, member]
  · rw [target]
    simp [Daemon.ruleMeasures, Core.probeRule, ProxyTarget.apply, Value.set, Value.getString,
      Value.ofFields, Object.ofFields, Object.get_insert, Object.get, Value.asString,
      Value.strings, member]

theorem probeRouting_permitted (plan : OutboundPlan) :
    ∃ routing, (probeRouting plan).asObject = some routing ∧
      routing.keysAll ["rules", "balancers"].contains = true ∧
      routing.get "balancers" = plan.balancers ∧
      routing.get "rules" = some (.array [Core.probeRule plan.target]) := by
  have known : ∃ routing, (probeRouting plan).asObject = some routing ∧
      routing.keysAll ["rules", "balancers"].contains = true :=
    keysAll_setSome (by decide) ⟨_, rfl, Object.keysAll_ofFields (by simp)⟩
  have balancers : (probeRouting plan).get "balancers" = plan.balancers := by
    rw [probeRouting, Value.get_setSome rfl, if_pos rfl, Value.get_ofFields_none (by simp),
      Option.or_none]
  have rules : (probeRouting plan).get "rules" =
      some (.array [Core.probeRule plan.target]) := by
    rw [probeRouting, Value.get_setSome rfl, if_neg (by decide)]
    exact Object.get_ofFields (by simp) (.head _)
  rcases known with ⟨routing, isObject, policy⟩
  rw [Daemon.asObject_eq_some.1 isObject] at balancers rules
  exact ⟨routing, isObject, policy, balancers, rules⟩

/-- A probe document is permitted exactly when its proxies are known to the daemon, its
balancers are few and have names of their own, and nothing in it refers to a file. -/
theorem probePermitted_probeConfig (planned : Planned plan)
    (few : plan.proxies.length ≤ Daemon.maxServerIps) :
    (∃ inboundTags proxyTags balancerTags, Daemon.ProbePermitted [Core.connectionProbePortBase]
      inboundTags proxyTags balancerTags (Core.probeConfig plan)) ↔
    (∀ proxy ∈ plan.proxies, Daemon.isProxy proxy = true) ∧
      ((Core.balancerItems plan.balancers).length ≤ Daemon.maxServerIps ∧
        FreshTags [] (Core.balancerItems plan.balancers)) ∧
      Daemon.containsForbiddenFileKey (Core.probeConfig plan) = false := by
  have outbounds := get_probeConfig plan (.tail _ (.tail _ (.head _)))
  have routing := get_probeConfig plan (.tail _ (.tail _ (.tail _ (.head _))))
  have dropped : (Core.probeOutbounds plan.proxies).dropLast = plan.proxies :=
    List.dropLast_concat
  rcases probeRouting_permitted plan with ⟨fields, isObject, policy, balancers, rules⟩
  constructor
  · intro accepted
    rcases accepted with ⟨inboundTags, proxyTags, balancerTags, permitted⟩
    rcases permitted.outbounds with ⟨given, same, _, tags⟩
    rw [outbounds] at same
    cases same
    rw [dropped, pingProxyTags_iff, List.append_nil] at tags
    rcases tags with ⟨_, rfl, proxies⟩
    rcases permitted.routing with ⟨object, same, _, tags, _⟩
    rw [routing, Option.bind_some, isObject] at same
    cases same
    rw [balancers, pingBalancers_eq_ok planned] at tags
    exact ⟨fun proxy member => (proxies proxy member).1, tags.1, permitted.files⟩
  · intro fits
    rcases fits with ⟨proxies, fits, files⟩
    refine ⟨["socks-in-0"], (tagsOf plan.proxies).reverse,
      (tagsOf (Core.balancerItems plan.balancers)).reverse, ?_⟩
    constructor
    · apply keysAll_withObservatories
      · simp [Daemon.pingSections]
      · decide
      · decide
    · rw [get_probeConfig plan (.head _)]
      exact log_permitted _
    · rw [get_probeConfig plan (.tail _ (.head _))]
      exact ⟨_, rfl, rfl, pingInboundTags_probeInbound⟩
    · rw [outbounds]
      refine ⟨_, rfl, pingOutboundsPermitted_probeOutbounds planned.nonempty few, ?_⟩
      rw [dropped, pingProxyTags_iff, List.append_nil]
      exact ⟨planned.fresh.forget, rfl, fun proxy member =>
        ⟨proxies proxy member, isMarked_of_isProxy (planned.proxies proxy member)
          (proxies proxy member)⟩⟩
    · rw [routing]
      refine ⟨fields, isObject, policy, ?_, [Core.probeRule plan.target], ?_, rfl, ?_⟩
      · rw [balancers, pingBalancers_eq_ok planned]
        exact ⟨fits, rfl⟩
      · rw [rules]
        rfl
      · simp [ruleMeasures_probeRule planned]
    · exact files

end Permitted

/-! ## Agreement -/

/-- The daemon accepts the tunnel document of a location. -/
def TunnelAccepted (lib : Core.Libraries) (checkOrder order : Core.HashOrder)
    (server : VlessServer) (split : Core.SplitInput) (mode : String) (allowLan : Bool)
    (mtu : Nat) : Prop :=
  ∃ text, Core.generateXrayConfig lib.urls lib.parseJson checkOrder order server split mode
      allowLan mtu = .ok text ∧
    Daemon.validateXrayDocument lib.readJson text (mode != "proxy") = .ok ()

/-- The daemon accepts the probe document of a location. -/
def ProbeAccepted (lib : Core.Libraries) (order : Core.HashOrder) (server : VlessServer) :
    Prop :=
  ∃ config ports, Core.buildConnectionProbeConfig lib.parseJson order server = .ok config ∧
    Daemon.validationConfigPorts lib.readJson config.toText = .ok ports ∧
    Daemon.validatePingXrayDocument lib.readJson config.toText ports = .ok ()

/-- What the daemon asks of the parts of a plan that come from a provider: protocols in
lower case, at most 64 balancers with distinct names, no key for a privileged file, and
no part that nests too deeply.  A reader takes 127 levels, of which each part is given
those below its place in the document. -/
structure Transmissible (plan : OutboundPlan) (dns : DnsPlan) : Prop where
  protocols : ∀ proxy ∈ plan.proxies, Daemon.isProxy proxy = true
  balancerCount : (Core.balancerItems plan.balancers).length ≤ Daemon.maxServerIps
  balancerNames : ∀ tag ∈ tagsOf (Core.balancerItems plan.balancers), tag ≠ ""
  balancersDistinct : (tagsOf (Core.balancerItems plan.balancers)).Nodup
  proxies : ∀ proxy ∈ plan.proxies, proxy.Fits isPrivilegedKey 125
  balancers : ∀ value ∈ plan.balancers, value.Fits isPrivilegedKey 125
  rules : ∀ rule ∈ plan.providerRules, rule.Fits isPrivilegedKey 124
  observatory : ∀ value ∈ plan.observatory, value.Fits isPrivilegedKey 126
  burstObservatory : ∀ value ∈ plan.burstObservatory, value.Fits isPrivilegedKey 126
  dns : (Value.object dns.config).Fits isPrivilegedKey 126

section Agreement

variable {lib : Core.Libraries} {checkOrder order : Core.HashOrder} {server : VlessServer}
  {plan : OutboundPlan}

theorem tunnelAccepted_iff {split : Core.SplitInput} {mode : String} {allowLan : Bool}
    {mtu : Nat} (validated : Core.validateServer lib.parseJson checkOrder server = .ok ())
    (planned : Core.outboundPlan lib.parseJson order server = .ok plan)
    (few : plan.proxies.length ≤ Daemon.maxServerIps)
    (reads : ∀ config, Core.buildXrayConfig lib.urls lib.parseJson order server
      (.requested split mode allowLan mtu) = .ok config →
        ReadsBack lib.readJson config.toPrettyText config) :
    TunnelAccepted lib checkOrder order server split mode allowLan mtu ↔
      (∀ proxy ∈ plan.proxies, Daemon.isProxy proxy = true) ∧
        (Core.tunnelConfig server (.requested split mode allowLan mtu) plan
          (Core.buildDnsPlan lib.urls server)).Fits isPrivilegedKey 127 := by
  have built : Core.buildXrayConfig lib.urls lib.parseJson order server
      (.requested split mode allowLan mtu) =
        .ok (Core.tunnelConfig server (.requested split mode allowLan mtu) plan
          (Core.buildDnsPlan lib.urls server)) := by
    rw [Core.buildXrayConfig, planned]
  have generated : Core.generateXrayConfig lib.urls lib.parseJson checkOrder order server split
      mode allowLan mtu = .ok (Core.tunnelConfig server (.requested split mode allowLan mtu) plan
          (Core.buildDnsPlan lib.urls server)).toPrettyText := by
    rw [Core.generateXrayConfig, validated]
    dsimp only
    rw [built]
  rw [TunnelAccepted, generated]
  simp only [Except.ok.injEq, exists_eq_left', Daemon.validateXrayDocument_eq_ok]
  rw [(reads _ built).passes_iff fun _ => Daemon.tunnelPermitted_exactPart,
    tunnelPermitted_tunnelConfig (planned_of_ok planned) few, ← readable_iff]
  exact and_left_comm

theorem probeAccepted_iff (planned : Core.outboundPlan lib.parseJson order server = .ok plan)
    (few : plan.proxies.length ≤ Daemon.maxServerIps)
    (reads : ∀ config, Core.buildConnectionProbeConfig lib.parseJson order server =
      .ok config → ReadsBack lib.readJson config.toText config) :
    ProbeAccepted lib order server ↔
      ((∀ proxy ∈ plan.proxies, Daemon.isProxy proxy = true) ∧
        (Core.balancerItems plan.balancers).length ≤ Daemon.maxServerIps ∧
        FreshTags [] (Core.balancerItems plan.balancers)) ∧
      (Core.probeConfig plan).Fits isPrivilegedKey 127 := by
  have built : Core.buildConnectionProbeConfig lib.parseJson order server =
      .ok (Core.probeConfig plan) := by
    rw [Core.buildConnectionProbeConfig, planned]
  have ofPorts {ports : List Nat} : Daemon.validationConfigPorts lib.readJson
      (Core.probeConfig plan).toText = .ok ports ↔
        (Core.probeConfig plan).depth < recursionLimit ∧
          ports = [Core.connectionProbePortBase] := by
    rw [Daemon.validationConfigPorts_eq_ok,
      (reads _ built).passes_iff fun _ => Daemon.portsPermitted_exactPart,
      portsPermitted_probeConfig]
  have ofDocument : Daemon.validatePingXrayDocument lib.readJson (Core.probeConfig plan).toText
      [Core.connectionProbePortBase] = .ok () ↔
        (Core.probeConfig plan).depth < recursionLimit ∧
          (∀ proxy ∈ plan.proxies, Daemon.isProxy proxy = true) ∧
          ((Core.balancerItems plan.balancers).length ≤ Daemon.maxServerIps ∧
            FreshTags [] (Core.balancerItems plan.balancers)) ∧
          Daemon.containsForbiddenFileKey (Core.probeConfig plan) = false := by
    rw [Daemon.validatePingXrayDocument_eq_ok, (reads _ built).passes_iff,
      probePermitted_probeConfig (planned_of_ok planned) few]
    intro value
    simp only [Daemon.probePermitted_exactPart]
  rw [← readable_iff]
  constructor
  · intro accepted
    rcases accepted with ⟨config, ports, same, accepted, measured⟩
    rw [built] at same
    cases same
    rcases ofPorts.1 accepted with ⟨shallow, rfl⟩
    rcases ofDocument.1 measured with ⟨_, proxies, balancers, files⟩
    exact ⟨⟨proxies, balancers⟩, shallow, files⟩
  · intro fits
    rcases fits with ⟨⟨proxies, balancers⟩, shallow, files⟩
    exact ⟨_, _, built, ofPorts.2 ⟨shallow, rfl⟩,
      ofDocument.2 ⟨shallow, proxies, balancers, files⟩⟩

/-- The daemon accepts both documents of a validated location with at most 64 proxies,
for every split, mode, LAN setting and device size, exactly when what its plan takes over
from the provider is transmissible. -/
theorem documents_accepted_iff {planOrder probeOrder : Core.HashOrder}
    (split : Core.SplitInput) (mode : String) (allowLan : Bool) (mtu : Nat)
    (validated : Core.validateServer lib.parseJson checkOrder server = .ok ())
    (planned : Core.outboundPlan lib.parseJson planOrder server = .ok plan)
    (few : plan.proxies.length ≤ Daemon.maxServerIps)
    (tunnelReads : ∀ config, Core.buildXrayConfig lib.urls lib.parseJson order server
      (.requested split mode allowLan mtu) = .ok config →
        ReadsBack lib.readJson config.toPrettyText config)
    (probeReads : ∀ config, Core.buildConnectionProbeConfig lib.parseJson probeOrder server =
      .ok config → ReadsBack lib.readJson config.toText config) :
    (TunnelAccepted lib checkOrder order server split mode allowLan mtu ∧
      ProbeAccepted lib probeOrder server) ↔
    Transmissible plan (Core.buildDnsPlan lib.urls server) := by
  -- the orders of the check and of the two generations only matter to the target
  rcases Core.outboundPlan_order planned order with ⟨target, tunnelPlanned⟩
  rcases Core.outboundPlan_order planned probeOrder with ⟨probeTarget, probePlanned⟩
  have tagged := (planned_of_ok planned).balancers
  rw [tunnelAccepted_iff validated tunnelPlanned few tunnelReads,
    probeAccepted_iff probePlanned few probeReads, fits_tunnelConfig, fits_probeConfig]
  constructor
  · intro accepted
    rcases accepted with ⟨⟨protocols, ⟨dns, proxies, rules, balancers⟩, observatory, burst⟩, ⟨_,
      count, fresh⟩, _⟩
    exact ⟨protocols, count, fresh.named, fresh.distinct, proxies, balancers, rules, observatory,
      burst, dns⟩
  · intro fits
    have fresh : FreshTags [] (Core.balancerItems plan.balancers) :=
      ⟨fun balancer member => (tagged balancer member).1, fits.balancerNames,
        fits.balancersDistinct, fun _ _ => List.not_mem_nil⟩
    exact ⟨⟨fits.protocols, ⟨fits.dns, fits.proxies, fits.rules, fits.balancers⟩,
      fits.observatory, fits.burstObservatory⟩, ⟨fits.protocols, fits.balancerCount, fresh⟩,
      ⟨fits.proxies, fits.balancers⟩, fits.observatory, fits.burstObservatory⟩

end Agreement

/-! ## Locations with a lone outbound -/

/-- A value with a field is an object that is not empty. -/
theorem object_of_get {value field : Value} {key : String} (found : value.get key = some field) :
    ∃ first rest, value = .object (first :: rest) := by
  cases value with
  | object fields =>
      cases fields with
      | nil => cases found
      | cons first rest => exact ⟨first, rest, rfl⟩
  | _ => cases found

/-- Packages that read the given texts. -/
def textLibraries (documents : List (String × Value)) : Core.Libraries where
  urls := .ofPlain []
  urlError _ := "relative URL without a base"
  readJson := .ofTexts documents
  decodeBase64 _ _ := none
  percentDecode text := text

def plainSplit : Core.SplitInput := ⟨"general", "general", [], []⟩

/-- The location of an outbound that is listed in a JSON body. -/
def tlsServer (outbound : Value) : VlessServer :=
  { Core.Checked.ofOutbound outbound with
    uuid := "p"
    password := some "p"
    security := "tls"
    sourceJson := some outbound.toText }

def tlsPlan (outbound : Value) : OutboundPlan where
  proxies := [.object ((Core.sanitizeRawOutbound outbound false).toOption.getD [])]
  target := .outbound "proxy"
  balancers := none
  observatory := none
  burstObservatory := none
  providerRules := []

def tlsTunnel (outbound : Value) : Value :=
  Core.tunnelConfig (tlsServer outbound) (.requested plainSplit "tun" false 1500)
    (tlsPlan outbound) (Core.buildDnsPlan (.ofPlain []) (tlsServer outbound))

def tlsProbe (outbound : Value) : Value := Core.probeConfig (tlsPlan outbound)

/-- Packages that read the body and the two documents of a location. -/
def tlsLibraries (outbound : Value) : Core.Libraries :=
  textLibraries
    [((Value.array [outbound]).toText, .array [outbound]),
      ((tlsTunnel outbound).toPrettyText, tlsTunnel outbound),
      ((tlsProbe outbound).toText, tlsProbe outbound)]

section Lone

variable (outbound : Value)

theorem readJson_tlsLibraries :
    (tlsLibraries outbound).readJson = .ofTexts
      [((Value.array [outbound]).toText, .array [outbound]),
        ((tlsTunnel outbound).toPrettyText, tlsTunnel outbound),
        ((tlsProbe outbound).toText, tlsProbe outbound)] := rfl

theorem tlsTunnel_object : ∃ first rest, tlsTunnel outbound = .object (first :: rest) :=
  object_of_get (get_tunnelConfig _ _ _ _ (.head _))

theorem tlsProbe_object : ∃ first rest, tlsProbe outbound = .object (first :: rest) :=
  object_of_get (get_probeConfig _ (.head _))

theorem tlsLibraries_readTunnel :
    (tlsLibraries outbound).readJson (tlsTunnel outbound).toPrettyText =
      .ok (tlsTunnel outbound) := by
  rcases tlsTunnel_object outbound with ⟨field, rest, tunnel⟩
  have notBody : (tlsTunnel outbound).toPrettyText ≠ (Value.array [outbound]).toText := by
    rw [tunnel]
    rcases toPrettyText_object field rest with ⟨_, opened⟩
    exact toText_array_ne opened
  rw [readJson_tlsLibraries, ofTexts_tail notBody, ofTexts_head]

theorem tlsLibraries_readProbe :
    (tlsLibraries outbound).readJson (tlsProbe outbound).toText = .ok (tlsProbe outbound) := by
  rcases tlsTunnel_object outbound with ⟨_, _, tunnel⟩
  rcases tlsProbe_object outbound with ⟨field, rest, probe⟩
  have notBody : (tlsProbe outbound).toText ≠ (Value.array [outbound]).toText := by
    rw [probe]
    rcases toText_object field rest with ⟨_, opened⟩
    exact toText_array_ne opened
  have notTunnel : (tlsProbe outbound).toText ≠ (tlsTunnel outbound).toPrettyText := by
    rw [probe, tunnel]
    exact Ne.symm toPrettyText_ne_toText
  rw [readJson_tlsLibraries, ofTexts_tail notBody, ofTexts_tail notTunnel, ofTexts_head]

/-- The locations in a body that lists an outbound. -/
theorem parseSubscription_listed {server : VlessServer}
    (collected : Core.collectJsonServers (tlsLibraries outbound) Core.collectLevels
      (.array [outbound]) none = [server]) :
    Core.parseSubscription (tlsLibraries outbound) (Value.array [outbound]).toText =
      [server] := by
  rcases toText_array [outbound] with ⟨_, opened⟩
  have read : (tlsLibraries outbound).readJson (Value.array [outbound]).toText =
      .ok (.array [outbound]) := ofTexts_head
  rw [Core.parseSubscription_json _ opened (.inr rfl), Core.parseJsonSubscription, read]
  dsimp only
  rw [collected]
  rfl

variable {outbound}
  (planned : Core.outboundPlan (tlsLibraries outbound).parseJson .inserted (tlsServer outbound) =
    .ok (tlsPlan outbound))

include planned

theorem tlsTunnel_readsBack (shallow : (tlsTunnel outbound).depth < recursionLimit) :
    ∀ config, Core.buildXrayConfig (tlsLibraries outbound).urls (tlsLibraries outbound).parseJson
        .inserted (tlsServer outbound) (.requested plainSplit "tun" false 1500) = .ok config →
      ReadsBack (tlsLibraries outbound).readJson config.toPrettyText config := by
  have generated : Core.buildXrayConfig (tlsLibraries outbound).urls
      (tlsLibraries outbound).parseJson .inserted (tlsServer outbound)
      (.requested plainSplit "tun" false 1500) = .ok (tlsTunnel outbound) := by
    rw [Core.buildXrayConfig, planned]
    rfl
  intro config built
  rw [generated] at built
  rw [← Except.ok.inj built]
  exact readsBack_of_read (tlsLibraries_readTunnel outbound) shallow

theorem tlsProbe_readsBack (shallow : (tlsProbe outbound).depth < recursionLimit) :
    ∀ config, Core.buildConnectionProbeConfig (tlsLibraries outbound).parseJson .inserted
        (tlsServer outbound) = .ok config →
      ReadsBack (tlsLibraries outbound).readJson config.toText config := by
  have generated : Core.buildConnectionProbeConfig (tlsLibraries outbound).parseJson .inserted
      (tlsServer outbound) = .ok (tlsProbe outbound) := by
    rw [Core.buildConnectionProbeConfig, planned]
    rfl
  intro config built
  rw [generated] at built
  rw [← Except.ok.inj built]
  exact readsBack_of_read (tlsLibraries_readProbe outbound) shallow

end Lone

/-- The daemon accepts the documents of an outbound without files. -/
theorem documents_of_tls_outbound :
    let outbound := Core.Checked.tlsOutbound "minVersion" "1.3"
    let lib := tlsLibraries outbound
    tlsServer outbound ∈ Core.parseSubscription lib (Value.array [outbound]).toText ∧
      TunnelAccepted lib .inserted .inserted (tlsServer outbound) plainSplit "tun" false 1500 ∧
      ProbeAccepted lib .inserted (tlsServer outbound) := by
  intro outbound lib
  have imported : Core.parseSubscription lib (Value.array [outbound]).toText =
      [tlsServer outbound] := parseSubscription_listed outbound rfl
  have planned : Core.outboundPlan lib.parseJson .inserted (tlsServer outbound) =
      .ok (tlsPlan outbound) := rfl
  have accepted := @documents_accepted_iff lib .inserted .inserted (tlsServer outbound)
    (tlsPlan outbound) .inserted .inserted plainSplit "tun" false 1500 rfl planned (by decide)
    (tlsTunnel_readsBack planned (by decide)) (tlsProbe_readsBack planned (by decide))
  refine ⟨?_, accepted.2 ?_⟩
  · rw [imported]
    exact .head _
  · constructor <;> decide

/-- The client imports and checks an outbound with a path of a certificate, but the daemon
refuses both of its documents. -/
theorem documents_of_certificate_path :
    let outbound := Core.Checked.tlsOutbound "certificatePath" "/etc/ca.pem"
    let lib := tlsLibraries outbound
    tlsServer outbound ∈ Core.parseSubscription lib (Value.array [outbound]).toText ∧
      Core.validateServer lib.parseJson .inserted (tlsServer outbound) = .ok () ∧
      Core.outboundPlan lib.parseJson .inserted (tlsServer outbound) = .ok (tlsPlan outbound) ∧
      (tlsPlan outbound).proxies.length ≤ Daemon.maxServerIps ∧
      ReadsBack lib.readJson (tlsTunnel outbound).toPrettyText (tlsTunnel outbound) ∧
      ReadsBack lib.readJson (tlsProbe outbound).toText (tlsProbe outbound) ∧
      ¬TunnelAccepted lib .inserted .inserted (tlsServer outbound) plainSplit "tun" false 1500 ∧
      ¬ProbeAccepted lib .inserted (tlsServer outbound) := by
  intro outbound lib
  have imported : Core.parseSubscription lib (Value.array [outbound]).toText =
      [tlsServer outbound] := parseSubscription_listed outbound rfl
  have planned : Core.outboundPlan lib.parseJson .inserted (tlsServer outbound) =
      .ok (tlsPlan outbound) := rfl
  have validated : Core.validateServer lib.parseJson .inserted (tlsServer outbound) = .ok () := rfl
  have few : (tlsPlan outbound).proxies.length ≤ Daemon.maxServerIps := by decide
  have shallowTunnel : (tlsTunnel outbound).depth < recursionLimit := by decide
  have shallowProbe : (tlsProbe outbound).depth < recursionLimit := by decide
  have refused : ¬∀ proxy ∈ (tlsPlan outbound).proxies, proxy.Fits isPrivilegedKey 125 := by
    decide
  refine ⟨?_, validated, planned, few,
    readsBack_of_read (tlsLibraries_readTunnel outbound) shallowTunnel,
    readsBack_of_read (tlsLibraries_readProbe outbound) shallowProbe, ?_, ?_⟩
  · rw [imported]
    exact .head _
  · rw [tunnelAccepted_iff validated planned few (tlsTunnel_readsBack planned shallowTunnel),
      fits_tunnelConfig]
    exact fun accepted => refused accepted.2.1.2.1
  · rw [probeAccepted_iff planned few (tlsProbe_readsBack planned shallowProbe),
      fits_probeConfig]
    exact fun accepted => refused accepted.2.1.1

end Varmlen.Contract
