import Varmlen.Foundation.Checks
import Varmlen.Daemon.Document
import Varmlen.Foundation.JsonReading

/-!
# Accepted documents

What the daemon's checks come to: a document is accepted exactly when it can be read
and each of its sections is permitted.  No check looks at an inexact number.
-/

namespace Varmlen.Daemon

open Foundation.Checks Foundation.Json Foundation.Text

/-! ## Sequences of checks -/

section Checks

variable {α : Type}

theorem require_eq_ok {condition : Bool} {message : String} {done : Unit} :
    require condition message = .ok done ↔ condition = true := by
  cases condition with
  | false => simp [require]
  | true => simp [require]

theorem expected_eq_ok {value : Option α} {message : String} {found : α} :
    expected value message = .ok found ↔ value = some found := by
  cases value with
  | none => simp [expected]
  | some value => simp [expected]

theorem parseDocument_eq_ok {read : JsonReader} {what raw : String} {document : Value} :
    parseDocument read what raw = .ok document ↔ read raw = .ok document := by
  rw [parseDocument]
  cases read raw with
  | error error => simp
  | ok document => simp

end Checks

theorem asObject_eq_some {document : Value} {object : Object} :
    document.asObject = some object ↔ document = .object object := by
  cases document <;> simp [Value.asObject]

/-! ## Privileged files -/

/-- The keys that the daemon refuses. -/
def isPrivilegedKey (key : String) : Bool :=
  ["certificateFile", "keyFile", "certificatePath", "keyPath"].contains key

mutual

theorem containsForbiddenFileKey_eq (value : Value) :
    containsForbiddenFileKey value = value.anyKey isPrivilegedKey := by
  cases value with
  | object fields => exact fieldsContainForbiddenFileKey_eq fields
  | array items => exact itemsContainForbiddenFileKey_eq items
  | null => rfl
  | bool value => rfl
  | number value => rfl
  | string value => rfl

theorem fieldsContainForbiddenFileKey_eq (fields : List (String × Value)) :
    fieldsContainForbiddenFileKey fields =
      Value.fieldsAnyKey isPrivilegedKey fields := by
  match fields with
  | [] => rfl
  | (key, value) :: rest =>
      rw [fieldsContainForbiddenFileKey, Value.fieldsAnyKey, containsForbiddenFileKey_eq value,
        fieldsContainForbiddenFileKey_eq rest]
      rfl

theorem itemsContainForbiddenFileKey_eq (items : List Value) :
    itemsContainForbiddenFileKey items = Value.itemsAnyKey isPrivilegedKey items := by
  match items with
  | [] => rfl
  | value :: rest =>
      rw [itemsContainForbiddenFileKey, Value.itemsAnyKey, containsForbiddenFileKey_eq value,
        itemsContainForbiddenFileKey_eq rest]

end

/-! ## Tunnel documents -/

/-- The only inbound carries the data of a connection. -/
@[mk_iff]
structure DataInbound (expectsTun : Bool) (data : Value) : Prop where
  tag : data.getString "tag" = some (if expectsTun then "tun-in" else "socks-in")
  protocol : data.getString "protocol" = some (if expectsTun then "tun" else "socks")
  checked : checkDataInbound expectsTun data = .ok ()

/-- A document that a tunnel may be run with. -/
@[mk_iff]
structure TunnelPermitted (expectsTun : Bool) (document : Value) : Prop where
  sections : ∃ object, document.asObject = some object ∧
    object.keysAll tunnelSections.contains = true
  log : ∃ log, (document.get "log").bind Value.asObject = some log ∧
    log.keysAll (· == "loglevel") = true
  inbound : ∃ data, (document.get "inbounds").bind Value.asArray = some [data] ∧
    DataInbound expectsTun data
  outbounds : ∃ outbounds, (document.get "outbounds").bind Value.asArray = some outbounds ∧
    outboundSetPermitted outbounds = true
  dns : ((document.get "dns").bind Value.asObject).isSome = true
  routing : ((document.get "routing").bind Value.asObject).isSome = true
  files : containsForbiddenFileKey document = false

/-- The data inbound is the first one, when there is only one. -/
theorem inboundByTag_dataInbound {expectsTun : Bool} {inbounds : List Value} :
    (inbounds.length = 1 ∧ ∃ data,
      inboundByTag inbounds (if expectsTun then "tun-in" else "socks-in")
        (if expectsTun then "tun" else "socks") = .ok data ∧
      checkDataInbound expectsTun data = .ok ()) ↔
    ∃ data, inbounds = [data] ∧ DataInbound expectsTun data := by
  constructor
  · intro located
    rcases located with ⟨one, data, found, checked⟩
    rcases List.length_eq_one_iff.1 one with ⟨only, rfl⟩
    rw [inboundByTag, expected_eq_ok] at found
    rcases List.mem_singleton.1 (List.mem_of_find?_eq_some found) with rfl
    have matched := List.find?_some found
    simp only [Bool.and_eq_true, beq_iff_eq] at matched
    exact ⟨data, rfl, matched.1, matched.2, checked⟩
  · intro single
    rcases single with ⟨data, rfl, permitted⟩
    refine ⟨rfl, data, ?_, permitted.checked⟩
    rw [inboundByTag, expected_eq_ok]
    simp [permitted.tag, permitted.protocol]

theorem validateXrayDocument_eq_ok {read : JsonReader} {raw : String} {expectsTun : Bool} :
    validateXrayDocument read raw expectsTun = .ok () ↔
      ∃ document, read raw = .ok document ∧ TunnelPermitted expectsTun document := by
  simp only [validateXrayDocument, bind_eq_ok, require_eq_ok, expected_eq_ok,
    parseDocument_eq_ok, exists_const]
  apply exists_congr
  intro document
  apply and_congr_right
  intro _
  constructor
  · intro accepted
    rcases accepted with ⟨object, isObject, sections, log, hasLog, loglevel, inbounds,
      hasInbounds, one, data, found, ⟨⟩, checked, outbounds, hasOutbounds, set, dnsRouting,
      files⟩
    rcases asObject_eq_some.1 isObject with rfl
    rcases inboundByTag_dataInbound.1 ⟨eq_of_beq one, data, found, checked⟩ with
      ⟨only, rfl, permitted⟩
    rw [Bool.and_eq_true] at dnsRouting
    exact ⟨⟨object, isObject, sections⟩, ⟨log, hasLog, loglevel⟩,
      ⟨only, hasInbounds, permitted⟩, ⟨outbounds, hasOutbounds, set⟩, dnsRouting.1,
      dnsRouting.2, by simpa using files⟩
  · intro permitted
    rcases permitted with ⟨⟨object, isObject, sections⟩, ⟨log, hasLog, loglevel⟩, ⟨only,
      hasInbounds, permitted⟩, ⟨outbounds, hasOutbounds, set⟩, dns, routing, files⟩
    rcases asObject_eq_some.1 isObject with rfl
    rcases inboundByTag_dataInbound.2 ⟨only, rfl, permitted⟩ with ⟨_, data, found, checked⟩
    have dnsRouting := Bool.and_eq_true_iff.2 ⟨dns, routing⟩
    exact ⟨object, isObject, sections, log, hasLog, loglevel, [only], hasInbounds, rfl, data,
      found, (), checked, outbounds, hasOutbounds, set, dnsRouting, by simpa using files⟩

/-! ## Probe documents -/

/-- The port of an inbound that a probe may listen on. -/
def validationPort (inbound : Value) : Option Nat :=
  ((inbound.get "port").bind Value.asU64).filter fun port => port < 2 ^ 16 && 1024 ≤ port

/-- The document names the given ports, each for an inbound. -/
def PortsPermitted (ports : List Nat) (document : Value) : Prop :=
  ∃ inbounds, (document.get "inbounds").bind Value.asArray = some inbounds ∧
    (1 ≤ inbounds.length ∧ inbounds.length ≤ maxServerIps) ∧
    inbounds.mapM validationPort = some ports

/-- A document that a probe may be run with on the given ports, with the tags of its
inbounds, proxies and balancers. -/
@[mk_iff]
structure ProbePermitted (ports : List Nat) (inboundTags proxyTags balancerTags : List String)
    (document : Value) : Prop where
  sections : ∃ object, document.asObject = some object ∧
    object.keysAll pingSections.contains = true
  log : ∃ log, (document.get "log").bind Value.asObject = some log ∧
    log.keysAll (· == "loglevel") = true
  inbounds : ∃ inbounds, (document.get "inbounds").bind Value.asArray = some inbounds ∧
    inbounds.length = ports.length ∧
    pingInboundTags ports.length 0 (inbounds.zip ports) = .ok inboundTags
  outbounds : ∃ outbounds, (document.get "outbounds").bind Value.asArray = some outbounds ∧
    pingOutboundsPermitted outbounds = true ∧
    pingProxyTags [] outbounds.dropLast = .ok proxyTags
  routing : ∃ routing, (document.get "routing").bind Value.asObject = some routing ∧
    routing.keysAll ["rules", "balancers"].contains = true ∧
    pingBalancers proxyTags (routing.get "balancers") = .ok balancerTags ∧
    ∃ rules, (routing.get "rules").bind Value.asArray = some rules ∧
      rules.length = ports.length ∧
      ((rules.zip inboundTags).all fun (rule, inboundTag) =>
        ruleMeasures ports.length inboundTag proxyTags balancerTags rule) = true
  files : containsForbiddenFileKey document = false

theorem validationConfigPorts_eq_ok {read : JsonReader} {raw : String} {ports : List Nat} :
    validationConfigPorts read raw = .ok ports ↔
      ∃ document, read raw = .ok document ∧ PortsPermitted ports document := by
  have ofInbounds (inbounds : List Value) : (inbounds.mapM fun inbound =>
      expected (validationPort inbound) "validation config contains an invalid port") =
        .ok ports ↔ inbounds.mapM validationPort = some ports := by
    induction inbounds generalizing ports with
    | nil => simp [pure, Except.pure]
    | cons inbound rest ih =>
        simp only [List.mapM_cons, bind_eq_ok, expected_eq_ok, ih, Option.bind_eq_bind,
          Option.bind_eq_some_iff]
        simp [pure, Except.pure]
  simp only [validationConfigPorts, bind_eq_ok, expected_eq_ok, parseDocument_eq_ok,
    Option.filter_eq_some_iff]
  apply exists_congr
  intro document
  apply and_congr_right
  intro _
  apply exists_congr
  intro inbounds
  rw [and_assoc, ← ofInbounds inbounds]
  simp [validationPort]

theorem validatePingXrayDocument_eq_ok {read : JsonReader} {raw : String}
    {ports : List Nat} :
    validatePingXrayDocument read raw ports = .ok () ↔
      ∃ document, read raw = .ok document ∧
        ∃ inboundTags proxyTags balancerTags,
          ProbePermitted ports inboundTags proxyTags balancerTags document := by
  simp only [validatePingXrayDocument, bind_eq_ok, require_eq_ok, expected_eq_ok,
    parseDocument_eq_ok, exists_const]
  apply exists_congr
  intro document
  apply and_congr_right
  intro _
  constructor
  · intro accepted
    rcases accepted with ⟨object, isObject, sections, log, hasLog, loglevel, inbounds,
      hasInbounds, ports, inboundTags, tagged, outbounds, hasOutbounds, set, proxyTags, proxies,
      routing, hasRouting, policy, balancerTags, balancers, rules, hasRules, count, measured,
      files⟩
    rcases asObject_eq_some.1 isObject with rfl
    exact ⟨inboundTags, proxyTags, balancerTags, ⟨object, isObject, sections⟩,
      ⟨log, hasLog, loglevel⟩, ⟨inbounds, hasInbounds, eq_of_beq ports, tagged⟩,
      ⟨outbounds, hasOutbounds, set, proxies⟩,
      ⟨routing, hasRouting, policy, balancers, rules, hasRules, eq_of_beq count, measured⟩,
      by simpa using files⟩
  · intro permitted
    rcases permitted with ⟨inboundTags, proxyTags, balancerTags, ⟨object, isObject, sections⟩,
      ⟨log, hasLog, loglevel⟩, ⟨inbounds, hasInbounds, ports, tagged⟩, ⟨outbounds, hasOutbounds,
      set, proxies⟩, ⟨routing, hasRouting, policy, balancers, rules, hasRules, count, measured⟩,
      files⟩
    rcases asObject_eq_some.1 isObject with rfl
    exact ⟨object, isObject, sections, log, hasLog, loglevel, inbounds, hasInbounds,
      beq_iff_eq.2 ports, inboundTags, tagged, outbounds, hasOutbounds, set, proxyTags,
      proxies, routing, hasRouting, policy, balancerTags, balancers, rules, hasRules,
      beq_iff_eq.2 count, measured, by simpa using files⟩

/-! ## Inexact numbers -/

section Exact

variable (value : Value)

@[simp] theorem isProxy_exactPart : isProxy value.exactPart = isProxy value := by
  rw [isProxy, isProxy, Value.getString_exactPart]

@[simp] theorem isMarked_exactPart : isMarked value.exactPart = isMarked value := by
  simp [isMarked]

theorem checkDataInbound_exactPart (expectsTun : Bool) :
    checkDataInbound expectsTun value.exactPart = checkDataInbound expectsTun value := by
  simp [checkDataInbound]

theorem pingInboundTag_exactPart (portCount index port : Nat) :
    pingInboundTag portCount index value.exactPart port =
      pingInboundTag portCount index value port := by
  simp [pingInboundTag]

theorem ruleMeasures_exactPart (portCount : Nat) (inboundTag : String)
    (proxyTags balancerTags : List String) :
    ruleMeasures portCount inboundTag proxyTags balancerTags value.exactPart =
      ruleMeasures portCount inboundTag proxyTags balancerTags value := by
  simp only [ruleMeasures, Value.getString_exactPart, Value.get_exactPart]
  cases value.get "inboundTag" with
  | none => rfl
  | some tag =>
      cases tag with
      | array items =>
          match items with
          | [] => rfl
          | [item] => simp [Value.exactPart, Value.itemsExactPart]
          | _ :: _ :: _ => rfl
      | number number => cases number <;> rfl
      | _ => rfl

theorem files_exactPart :
    containsForbiddenFileKey value.exactPart = containsForbiddenFileKey value := by
  rw [containsForbiddenFileKey_eq, containsForbiddenFileKey_eq, Value.anyKey_exactPart]

end Exact

section ExactLists

variable (values : List Value)

theorem validTags_exactPart (seen : List String) :
    validTags seen (values.map Value.exactPart) = validTags seen values := by
  induction values generalizing seen with
  | nil => rfl
  | cons value rest ih => simp [validTags, ih]

theorem outboundSetPermitted_exactPart :
    outboundSetPermitted (values.map Value.exactPart) = outboundSetPermitted values := by
  simp [outboundSetPermitted, validTags_exactPart, List.countP_map, Function.comp_def]

theorem pingInboundTags_exactPart (portCount index : Nat) (ports : List Nat) :
    pingInboundTags portCount index ((values.map Value.exactPart).zip ports) =
      pingInboundTags portCount index (values.zip ports) := by
  induction values generalizing index ports with
  | nil => rfl
  | cons value rest ih =>
      cases ports with
      | nil => rfl
      | cons port ports => simp [pingInboundTags, pingInboundTag_exactPart, ih]

theorem pingOutboundsPermitted_exactPart :
    pingOutboundsPermitted (values.map Value.exactPart) = pingOutboundsPermitted values := by
  simp [pingOutboundsPermitted, List.getLast?_map, Option.bind_map]

theorem pingProxyTags_exactPart (seen : List String) :
    pingProxyTags seen (values.map Value.exactPart) = pingProxyTags seen values := by
  induction values generalizing seen with
  | nil => rfl
  | cons value rest ih => simp [pingProxyTags, ih]

theorem selectsProxy_exactPart (proxyTags : List String) :
    selectsProxy proxyTags (values.map Value.exactPart) = selectsProxy proxyTags values := by
  simp [selectsProxy, List.filterMap_map]

theorem pingBalancerTags_exactPart (proxyTags seen : List String) :
    pingBalancerTags proxyTags seen (values.map Value.exactPart) =
      pingBalancerTags proxyTags seen values := by
  induction values generalizing seen with
  | nil => rfl
  | cons value rest ih =>
      simp only [List.map_cons, pingBalancerTags, Value.getString_exactPart,
        Value.get_exactPart, Value.bind_asArray_exactPart, ih]
      cases (value.get "selector").bind Value.asArray with
      | none => rfl
      | some selectors => simp [expected, selectsProxy_exactPart, bind, Except.bind]

theorem rulesMeasure_exactPart (portCount : Nat)
    (inboundTags proxyTags balancerTags : List String) :
    (((values.map Value.exactPart).zip inboundTags).all fun (rule, inboundTag) =>
        ruleMeasures portCount inboundTag proxyTags balancerTags rule) =
      (values.zip inboundTags).all fun (rule, inboundTag) =>
        ruleMeasures portCount inboundTag proxyTags balancerTags rule := by
  induction values generalizing inboundTags with
  | nil => rfl
  | cons value rest ih =>
      cases inboundTags with
      | nil => rfl
      | cons tag tags => simp [ruleMeasures_exactPart, ih]

end ExactLists

theorem pingBalancers_exactPart (proxyTags : List String) (balancers : Option Value) :
    pingBalancers proxyTags (balancers.map Value.exactPart) =
      pingBalancers proxyTags balancers := by
  cases balancers with
  | none => rfl
  | some value =>
      simp only [Option.map_some, pingBalancers, Value.asArray_exactPart]
      cases value.asArray with
      | none => rfl
      | some items => simp [expected, pingBalancerTags_exactPart, bind, Except.bind]

theorem dataInbound_exactPart {expectsTun : Bool} {data : Value} :
    DataInbound expectsTun data.exactPart ↔ DataInbound expectsTun data := by
  rw [dataInbound_iff, dataInbound_iff, Value.getString_exactPart, Value.getString_exactPart,
    checkDataInbound_exactPart]

/-- The only entry of a list, exact or not. -/
theorem onlyInbound_exactPart {expectsTun : Bool} {inbounds : Option (List Value)} :
    (∃ data, inbounds.map (·.map Value.exactPart) = some [data] ∧
      DataInbound expectsTun data) ↔
    ∃ data, inbounds = some [data] ∧ DataInbound expectsTun data := by
  constructor
  · intro given
    rcases given with ⟨data, mapped, permitted⟩
    rcases Option.map_eq_some_iff.1 mapped with ⟨items, rfl, single⟩
    rcases List.map_eq_singleton_iff.1 single with ⟨item, rfl, rfl⟩
    exact ⟨item, rfl, dataInbound_exactPart.1 permitted⟩
  · intro given
    rcases given with ⟨data, rfl, permitted⟩
    exact ⟨data.exactPart, rfl, dataInbound_exactPart.2 permitted⟩

theorem tunnelPermitted_exactPart {expectsTun : Bool} {document : Value} :
    TunnelPermitted expectsTun document.exactPart ↔ TunnelPermitted expectsTun document := by
  simp only [tunnelPermitted_iff, Value.asObject_exactPart, Value.get_exactPart,
    Value.bind_asObject_exactPart, Value.bind_asArray_exactPart, onlyInbound_exactPart,
    Option.isSome_map, files_exactPart]
  simp only [Option.map_eq_some_iff, exists_exists_and_eq_and, Value.keysAll_fieldsExactPart,
    outboundSetPermitted_exactPart]

theorem probePermitted_exactPart {ports : List Nat}
    {inboundTags proxyTags balancerTags : List String} {document : Value} :
    ProbePermitted ports inboundTags proxyTags balancerTags document.exactPart ↔
      ProbePermitted ports inboundTags proxyTags balancerTags document := by
  simp only [probePermitted_iff, Value.asObject_exactPart, Value.get_exactPart,
    Value.bind_asObject_exactPart, Value.bind_asArray_exactPart, Option.map_eq_some_iff,
    exists_exists_and_eq_and, Value.keysAll_fieldsExactPart, List.length_map,
    pingInboundTags_exactPart, pingOutboundsPermitted_exactPart, ← List.map_dropLast,
    pingProxyTags_exactPart, Value.get_fieldsExactPart, pingBalancers_exactPart,
    rulesMeasure_exactPart, files_exactPart]

theorem mapM_validationPort_exactPart (inbounds : List Value) :
    (inbounds.map Value.exactPart).mapM validationPort = inbounds.mapM validationPort := by
  induction inbounds with
  | nil => rfl
  | cons inbound rest ih =>
      have same : validationPort inbound.exactPart = validationPort inbound := by
        rw [validationPort, validationPort, Value.get_exactPart, Value.bind_asU64_exactPart]
      rw [List.map_cons, List.mapM_cons, List.mapM_cons, same, ih]

theorem portsPermitted_exactPart {ports : List Nat} {document : Value} :
    PortsPermitted ports document.exactPart ↔ PortsPermitted ports document := by
  simp only [PortsPermitted, Value.get_exactPart, Value.bind_asArray_exactPart,
    Option.map_eq_some_iff, exists_exists_and_eq_and, List.length_map,
    mapM_validationPort_exactPart]

end Varmlen.Daemon
