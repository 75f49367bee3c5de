import Varmlen.Core.Rules

/-!
# Local traffic and the provider's rules

With the LAN not allowed, no rule of a provider should take local traffic to
`direct`.  The filter drops a direct rule when an entry of its `ip` list has a local
address, taken without the prefix length.  It does not look at a rule without
`ip`, at an `ip` that is a text, or at how far a block reaches; what passes through
these gaps is stopped only by an earlier rule.
-/

namespace Varmlen.Core

open Foundation.Ip Foundation.Json Foundation.Text

/-- A connection of the data inbound to a private address, not application DNS. -/
structure Connection.ToLan (connection : Connection) (inboundTag : String) : Prop where
  fromData : connection.inboundTag = some inboundTag
  isPrivate : isLocal connection.ip = true
  notDns : connection.port ≠ 53

/-- The rules generated before the provider's. -/
def tunnelLeadingRules (options : TunnelOptions) (plan : OutboundPlan) : List Value :=
  let tun := effectiveTun options.mode options.tun
  leadingRules options.split options.allowLan tun.inboundTag tun plan.target

/-- A connection ends at `direct`, and what decides so is a rule of the provider. -/
def EndsDirect (options : TunnelOptions) (plan : OutboundPlan) (config : Value)
    (connection : Connection) : Prop :=
  ∃ before rule after, plan.providerRules = before ++ rule :: after ∧
    decidingIndex (configRules config) connection =
      some ((tunnelLeadingRules options plan).length + before.length) ∧
    ruleTarget rule = some (.outbound "direct")

/-! ## The gaps of the filter -/

/-- How the `ip` selector of a kept direct rule can hold of an address. -/
inductive IpGap (address : IpAddr) : Option Value → Prop
  | absent : IpGap address none
  | null : IpGap address (some .null)
  /-- A text is not looked at. -/
  | text {ranges : String}
      (covered : (split ',' ranges).any (blockCovers address) = true) :
      IpGap address (some (.string ranges))
  | nothingListed : IpGap address (some (.strings []))
  /-- A block that begins at a public address may reach further. -/
  | publicBase {texts : List String} {text : String} {block : Cidr}
      (listed : text ∈ texts) (parsed : Cidr.parse text = some block)
      (isPublic : isSafeRemoteDnsIp block.base = true)
      (covered : block.contains address = true) :
      IpGap address (some (.strings texts))

theorem mapM_asString_eq_some {items : List Value} {texts : List String}
    (read : items.mapM Value.asString = some texts) : Value.array items = .strings texts := by
  induction items generalizing texts with
  | nil =>
      cases read
      rfl
  | cons item rest ih =>
      rw [List.mapM_cons] at read
      rcases Option.bind_eq_some_iff.1 read with ⟨text, isText, read⟩
      rcases Option.bind_eq_some_iff.1 read with ⟨others, readRest, same⟩
      cases same
      cases item with
      | string value =>
          cases isText
          have tail := ih readRest
          simp only [Value.strings, Value.array.injEq] at tail ⊢
          rw [tail, List.map_cons]
      | _ => cases isText

/-- A block whose address is not taken for local begins at a public address. -/
theorem public_of_notLocal {text : String} {block : Cidr}
    (notLocal : isLocalRouteSelector (.string text) = false)
    (parsed : Cidr.parse text = some block) : isSafeRemoteDnsIp block.base = true := by
  simp only [isLocalRouteSelector, Value.asString] at notLocal
  split at notLocal
  next => cases notLocal
  next =>
    rw [Cidr.base_of_parse parsed] at notLocal
    simpa using notLocal

private theorem strings_injective {left right : List String}
    (same : Value.strings left = .strings right) : left = right := by
  have read := congrArg stringList same
  rw [stringList_strings, stringList_strings] at read
  exact Option.some.inj read

/-- A list that the filter lets through covers an address through a gap. -/
theorem strings_iff_gap {texts : List String} {address : IpAddr}
    (passed : ∀ text ∈ texts, isLocalRouteSelector (.string text) = false) :
    listSelects (blockCovers address) (.strings texts) = true ↔
      IpGap address (some (.strings texts)) := by
  rw [listSelects_strings, Bool.or_eq_true]
  constructor
  · rintro (empty | covered)
    · rw [List.isEmpty_iff.1 empty]
      exact .nothingListed
    · rcases List.any_eq_true.1 covered with ⟨text, listed, covered⟩
      rcases (Option.any_eq_true _ _).1 covered with ⟨block, parsed, covered⟩
      exact .publicBase listed parsed (public_of_notLocal (passed text listed) parsed) covered
  · generalize same : some (Value.strings texts) = selector
    intro gap
    cases gap with
    | absent => cases same
    | null => cases same
    | text => cases same
    | nothingListed =>
        rw [strings_injective (Option.some.inj same)]
        exact .inl rfl
    | @publicBase others text block listed parsed isPublic covered =>
        rw [strings_injective (Option.some.inj same)]
        right
        exact List.any_eq_true.2 ⟨text, listed, by simp [blockCovers, parsed, covered]⟩

/-- A gap is something Xray can read. -/
private theorem readable_of_gap {selector : Value} {address : IpAddr}
    (gap : IpGap address (some selector)) :
    selector = .null ∨ (stringList selector).isSome = true := by
  cases gap with
  | null => exact .inl rfl
  | text => exact .inr rfl
  | nothingListed => simp
  | publicBase => simp

private theorem unreadable_iff_gap {selector : Value} {address : IpAddr}
    (notNull : selector ≠ .null) (unread : stringList selector = none) :
    listSelects (blockCovers address) selector = true ↔ IpGap address (some selector) := by
  constructor
  · intro held
    rw [listSelects, unread] at held
    cases held
  · intro gap
    rcases readable_of_gap gap with null | readable
    · exact absurd null notNull
    · rw [unread] at readable
      cases readable

/-- A selector that the filter lets through holds of an address through a gap. -/
theorem ipSelector_iff_gap {fields : Object} {address : IpAddr}
    (passed : anyItem fields "ip" isLocalRouteSelector = false) :
    Connection.selectorHolds fields "ip" (listSelects (blockCovers address)) = true ↔
      IpGap address (fields.get "ip") := by
  cases given : fields.get "ip" with
  | none =>
      rw [Connection.selectorHolds_none given]
      exact ⟨fun _ => .absent, fun _ => rfl⟩
  | some selector =>
      by_cases null : selector = .null
      · rw [Connection.selectorHolds, given, null]
        exact ⟨fun _ => .null, fun _ => rfl⟩
      · rw [Connection.selectorHolds_some given null]
        cases read : stringList selector with
        | none => exact unreadable_iff_gap null read
        | some texts =>
            cases selector with
            | string ranges =>
                rw [listSelects_string]
                constructor
                · exact .text
                · rintro ⟨⟩
                  assumption
            | array items =>
                have same : Value.array items = .strings texts := mapM_asString_eq_some read
                rw [same] at given ⊢
                apply strings_iff_gap
                simpa [anyItem, given, Value.strings, Value.asArray] using passed
            | _ => cases read

/-- The selectors of a rule other than `ip` hold of a connection. -/
def Connection.otherSelectorsHold (connection : Connection) (rule : Object) : Bool :=
  (connection.tests.filter (·.1 != "ip")).all fun (key, test) =>
    Connection.selectorHolds rule key test

theorem matchedBy_object (connection : Connection) (fields : Object) :
    connection.matchedBy (.object fields) =
      (connection.otherSelectorsHold fields &&
        Connection.selectorHolds fields "ip" (listSelects (blockCovers connection.ip))) := by
  simp [Connection.matchedBy, Value.asObject, Connection.otherSelectorsHold,
    Connection.tests, Bool.and_assoc, Bool.and_comm, Bool.and_left_comm]

/-- A direct rule that is kept lists nothing local. -/
theorem notLocal_of_keepsRule {proxyTags balancerTags : List String} {fields : Object}
    (kept : keepsRule proxyTags balancerTags (.object fields) = true)
    (direct : (Object.get fields "outboundTag").bind Value.asString = some "direct") :
    anyItem fields "ip" isLocalRouteSelector = false := by
  simp only [keepsRule, Value.asObject, overridesAllowLan, Bool.and_eq_true,
    Bool.not_eq_true', direct, decide_true, Bool.true_and] at kept
  exact kept.2

/-- A kept direct rule matches a connection that its other selectors hold of through a
gap of the filter. -/
theorem matchedBy_direct_iff {connection : Connection} {proxyTags balancerTags : List String}
    {fields : Object} (kept : keepsRule proxyTags balancerTags (.object fields) = true)
    (direct : (Object.get fields "outboundTag").bind Value.asString = some "direct") :
    connection.matchedBy (.object fields) = true ↔
      connection.otherSelectorsHold fields = true ∧
        IpGap connection.ip (Object.get fields "ip") := by
  rw [matchedBy_object, Bool.and_eq_true,
    ipSelector_iff_gap (notLocal_of_keepsRule kept direct)]

/-- A rule sends its connections to `direct` when it names it. -/
theorem ruleTarget_direct_iff {fields : Object} :
    ruleTarget (.object fields) = some (.outbound "direct") ↔
      (Object.get fields "outboundTag").bind Value.asString = some "direct" := by
  rw [ruleTarget, Value.getString, Value.get_object]
  cases named : (Object.get fields "outboundTag").bind Value.asString with
  | none => simp
  | some tag =>
      by_cases empty : tag = ""
      · simp [Option.filter, empty]
      · simp [Option.filter, empty]

/-- The position of a rule is the deciding one when the rule matches and none before it
does. -/
theorem decidingIndex_eq_length_iff {before after : List Value} {rule : Value}
    {connection : Connection} :
    decidingIndex (before ++ rule :: after) connection = some before.length ↔
      (∀ earlier ∈ before, connection.matchedBy earlier = false) ∧
        connection.matchedBy rule = true := by
  rw [decidingIndex]
  induction before with
  | nil =>
      cases matched : connection.matchedBy rule <;> simp [List.findIdx?_cons, matched]
  | cons earlier rest ih =>
      rw [List.cons_append, List.findIdx?_cons, List.length_cons, List.forall_mem_cons,
        and_assoc, ← ih]
      cases connection.matchedBy earlier <;> simp

/-! ## The property -/

/-- Local traffic that a kept direct rule would take through a gap of the filter is taken
by an earlier kept rule. -/
def GapsCovered (server : VlessServer) (plan : OutboundPlan) (inboundTag : String) : Prop :=
  ∀ before fields after connection,
    safeProviderRouteRules server plan.proxies plan.balancers =
      before ++ .object fields :: after →
    (Object.get fields "outboundTag").bind Value.asString = some "direct" →
    Connection.ToLan connection inboundTag →
    connection.otherSelectorsHold fields = true →
    IpGap connection.ip (Object.get fields "ip") →
    ∃ earlier ∈ before, connection.matchedBy earlier = true

section Route

variable {urls : UrlParser} {parseJson : JsonParser} {order : HashOrder}
  {server : VlessServer} {options : TunnelOptions} {plan : OutboundPlan} {config : Value}

/-- Without a split and without the LAN rule, nothing before the provider's rules matches
a connection to the LAN. -/
theorem leading_unmatched {connection : Connection}
    (closed : options.allowLan = false) (noApps : options.split.apps = [])
    (noSites : options.split.sites = [])
    (toLan : connection.ToLan (effectiveTun options.mode options.tun).inboundTag) :
    ∀ rule ∈ tunnelLeadingRules options plan, connection.matchedBy rule = false := by
  have apps : options.split.enabledApps = [] := by simp [SplitInput.enabledApps, noApps]
  have sites : siteSelectors options.split = [] := by simp [siteSelectors, noSites]
  have onlyDns : tunnelLeadingRules options plan =
      [dnsRule (effectiveTun options.mode options.tun).inboundTag] := by
    cases tun : effectiveTun options.mode options.tun <;>
      simp [tunnelLeadingRules, leadingRules, closed, appRules, siteRules, sites, apps, tun]
  intro rule member
  rw [onlyDns, List.mem_singleton] at member
  rw [member, connection.matchedBy_dnsRule]
  simp [toLan.notDns]

/-- A rule of the provider decides about a connection to the LAN when it matches and no
earlier one does. -/
theorem decidingIndex_provider_iff {connection : Connection} {before after : List Value}
    {rule : Value} (closed : options.allowLan = false) (noApps : options.split.apps = [])
    (noSites : options.split.sites = [])
    (toLan : connection.ToLan (effectiveTun options.mode options.tun).inboundTag)
    (split : plan.providerRules = before ++ rule :: after) (dns : DnsPlan) :
    decidingIndex (tunnelRules options plan dns) connection =
        some ((tunnelLeadingRules options plan).length + before.length) ↔
      (∀ earlier ∈ before, connection.matchedBy earlier = false) ∧
        connection.matchedBy rule = true := by
  have unmatched := @leading_unmatched options plan connection closed noApps noSites toLan
  obtain ⟨rest, rules⟩ : ∃ rest, tunnelRules options plan dns =
      (tunnelLeadingRules options plan ++ before) ++ rule :: rest := by
    refine ⟨after ++ [pinRule plan.target dns.upstreamIps, defaultRule options.split
      (effectiveTun options.mode options.tun) plan.target], ?_⟩
    simp only [tunnelRules, buildRouteRules, split, tunnelLeadingRules, List.append_assoc,
      List.cons_append]
  rw [rules, ← List.length_append, decidingIndex_eq_length_iff]
  apply and_congr_left
  intro _
  constructor
  · intro none earlier member
    exact none earlier (List.mem_append_right _ member)
  · intro none earlier member
    rcases List.mem_append.1 member with member | member
    · exact unmatched earlier member
    · exact none earlier member

/-- With the LAN not allowed and an empty split, no connection to the LAN ends at `direct`
through a rule of the provider exactly when every gap of the filter is covered. -/
theorem lan_override_iff
    (planned : outboundPlan parseJson order server = .ok plan)
    (built : buildXrayConfig urls parseJson order server options = .ok config)
    (closed : options.allowLan = false) (noApps : options.split.apps = [])
    (noSites : options.split.sites = []) :
    (∀ connection : Connection,
      connection.ToLan (effectiveTun options.mode options.tun).inboundTag →
      ¬ EndsDirect options plan config connection) ↔
    GapsCovered server plan (effectiveTun options.mode options.tun).inboundTag := by
  rcases outboundPlan_eq_ok planned with ⟨_, retained⟩
  rw [buildXrayConfig, planned] at built
  cases built
  have kept (rule : Value) (member : rule ∈ plan.providerRules) :
      keepsRule (tagsOf plan.proxies) (tagsOf (balancerItems plan.balancers)) rule = true := by
    rw [retained] at member
    exact (List.mem_filter.1 member).2
  constructor
  · intro property before fields after connection split direct toLan others gap
    by_contra uncovered
    rw [← retained] at split
    apply property connection toLan
    refine ⟨before, _, after, split, ?_, ruleTarget_direct_iff.2 direct⟩
    rw [configRules_tunnelConfig,
      decidingIndex_provider_iff closed noApps noSites toLan split]
    constructor
    · intro earlier member
      apply Bool.eq_false_iff.2
      intro matched
      exact uncovered ⟨earlier, member, matched⟩
    · exact (matchedBy_direct_iff (kept _ (by simp [split])) direct).2 ⟨others, gap⟩
  · rintro covered connection toLan ⟨before, rule, after, split, decides, target⟩
    rw [configRules_tunnelConfig,
      decidingIndex_provider_iff closed noApps noSites toLan split] at decides
    have keptRule := kept rule (by simp [split])
    cases rule with
    | object fields =>
        rw [ruleTarget_direct_iff] at target
        rcases (matchedBy_direct_iff keptRule target).1 decides.2 with ⟨others, gap⟩
        rw [retained] at split
        rcases covered before fields after connection split target toLan others gap with
          ⟨earlier, member, matched⟩
        rw [decides.1 earlier member] at matched
        cases matched
    | _ => cases keptRule

end Route

/-- A profile with one proxy and the given rules. -/
def ruledProfile (rules : List Value) : Value :=
  .ofFields
    [("outbounds", .array
      [.ofFields [("tag", .string "proxy"), ("protocol", .string "vless")]]),
      ("routing", .ofFields [("rules", .array rules)])]

/-- A direct rule with the given `ip` selector. -/
def directRule (ip : Value) : Value :=
  (fieldRule "ip" ip).set "outboundTag" (.string "direct")

/-- A connection of an application to a host in the LAN. -/
def lanConnection : Connection where
  inboundTag := some "tun-in"
  process := none
  domain := none
  network := .tcp
  ip := .v4 ⟨192, 168, 1, 1⟩
  port := 80
  source := none
  sourcePort := none
  user := none
  protocol := none
  attrs := fun _ => false

/-- A private range in a list is dropped, so nothing is left to override. -/
theorem lan_override_listed_range :
    let server := VlessServer.ofProfile
      (ruledProfile [directRule (.strings ["192.168.0.0/16"])])
    ∃ plan config,
      outboundPlan (fun _ => none) .inserted server = .ok plan ∧
      buildXrayConfig (.ofPlain []) (fun _ => none) .inserted server (.plain false) =
        .ok config ∧
      ∀ connection : Connection, connection.ToLan "tun-in" →
        ¬ EndsDirect (.plain false) plan config connection :=
  ⟨_, _, rfl, rfl, (@lan_override_iff (.ofPlain []) (fun _ => none) .inserted
    (.ofProfile (ruledProfile [directRule (.strings ["192.168.0.0/16"])])) (.plain false) _ _
    rfl rfl rfl rfl rfl).2 (by
      intro before fields after connection split
      have empty : [] = before ++ Value.object fields :: after := split
      simp at empty)⟩

/-- The same range as a text is kept, and takes local traffic past the proxy. -/
theorem lan_overridden_by_text :
    let server := VlessServer.ofProfile (ruledProfile [directRule (.string "192.168.0.0/16")])
    lanConnection.ToLan "tun-in" ∧
      ∃ plan config,
        outboundPlan (fun _ => none) .inserted server = .ok plan ∧
        buildXrayConfig (.ofPlain []) (fun _ => none) .inserted server (.plain false) =
          .ok config ∧
        EndsDirect (.plain false) plan config lanConnection :=
  ⟨⟨rfl, by decide, by decide⟩, _, _, rfl, rfl, [], _, [], rfl, by decide, by decide⟩

end Varmlen.Core
