import Varmlen.Core.Proxies

/-!
# Generation with its assertions

The generators take several things for granted with an `expect`, an index or an
assignment to a field (`core/src/xray.rs`).  Here each of them is kept as a fault, and
all but one are shown to hold: the generation is the one without them.
-/

namespace Varmlen.Core.Checked

open Foundation.Json Foundation.Text

/-! ## Assertions -/

section Assertions

variable {α : Type}

/-- The value, or a panic. -/
def expect (value : Option α) (message : String) : Except Fault α :=
  match value with
  | some value => .ok value
  | none => .error (.panic message)

/-- The result, or a panic in place of an error. -/
def expectOk (result : Except Fault α) (message : String) : Except Fault α :=
  match result with
  | .error (.error _) => .error (.panic message)
  | other => other

/-- What a kind of value is called in a panic. -/
def typeName : Value → String
  | .null => "null"
  | .bool _ => "boolean"
  | .number _ => "number"
  | .string _ => "string"
  | .array _ => "array"
  | .object _ => "object"

/-- `value[key] = field`: nothing becomes an object, and only an object has fields. -/
def assign (value : Value) (key : String) (field : Value) : Except Fault Value :=
  match value with
  | .object fields => .ok (.object (Object.insert fields key field))
  | .null => .ok (.object [(key, field)])
  | other =>
      .error (.panic ("cannot access key \"" ++ key ++ "\" in JSON " ++ typeName other))

/-- Assign a field if there is something to assign. -/
def assignSome (value : Value) (key : String) (field : Option Value) :
    Except Fault Value :=
  match field with
  | some field => assign value key field
  | none => .ok value

/-- The object in a field, which is put there when there is none. -/
def entryObject (object : Object) (key message : String) : Except Fault Object :=
  let entry := (object.get key).getD (.object [])
  let entry := if entry.isObject then entry else .object []
  expect entry.asObject message

theorem ok_bind {β : Type} (value : α) (next : α → Except Fault β) :
    (Except.ok value >>= next) = next value := rfl

theorem error_bind {β : Type} (fault : Fault) (next : α → Except Fault β) :
    (Except.error fault >>= next) = .error fault := rfl

theorem expectOk_ok (value : α) (message : String) :
    expectOk (.ok value) message = .ok value := rfl

theorem assign_eq {value : Value} (isObject : value.isObject = true) (key : String)
    (field : Value) : assign value key field = .ok (value.set key field) := by
  cases value with
  | object fields => rfl
  | _ => cases isObject

theorem assignSome_eq {value : Value} (isObject : value.isObject = true) (key : String)
    (field : Option Value) :
    assignSome value key field = .ok (value.setSome key field) := by
  cases field with
  | none => rfl
  | some field => exact assign_eq isObject key field

theorem entryObject_eq (object : Object) (key message : String) :
    entryObject object key message = .ok (objectField object key) := by
  rw [entryObject, objectField]
  cases object.get key with
  | none => rfl
  | some value => cases value <;> rfl

end Assertions

/-! ## Proxy outbounds -/

def sanitizeRawOutbound (outbound : Value) (preserveTagAndChains : Bool) :
    Except Fault Value :=
  if containsForbiddenProviderFileReference outbound then
    .error (.error "JSON proxy outbound may not reference local files")
  else
    match outbound.asObject with
    | none => .error (.error "JSON proxy outbound must be an object")
    | some object =>
        match (object.get "protocol").bind Value.asString with
        | none => .error (.error "JSON proxy outbound has no protocol")
        | some protocol =>
            let protocol := toAsciiLowercase protocol
            if !isProxyProtocol protocol then
              .error (.error ("unsupported proxy protocol in JSON: " ++ protocol))
            else
              let object := object.remove "sendThrough"
              let object :=
                if preserveTagAndChains then object
                else (object.remove "proxySettings").insert "tag" (.string "proxy")
              if protocol == "wireguard" then
                .ok (.object (object.remove "streamSettings"))
              else do
                let stream ← entryObject object "streamSettings" "object inserted above"
                let sockopt ← entryObject stream "sockopt" "object inserted above"
                let sockopt :=
                  if preserveTagAndChains then sockopt else sockopt.remove "dialerProxy"
                let sockopt := sockopt.insert "mark" (.nat xrayDialMark)
                .ok (.object (object.insert "streamSettings"
                  (.object (stream.insert "sockopt" (.object sockopt)))))

def collectProxies : (index : Nat) → (tags : List String) → List Value →
    Except Fault (List Value)
  | _, _, [] => .ok []
  | index, tags, outbound :: rest =>
      let protocol := toAsciiLowercase ((outbound.getString "protocol").getD "")
      if !isProxyProtocol protocol then collectProxies (index + 1) tags rest
      else do
        let outbound ← sanitizeRawOutbound outbound true
        let object ← expect outbound.asObject "sanitized object"
        let tag := outboundTagOr object index
        if reservedOutboundTags.contains tag || tags.contains tag then
          .error (.error ("unsafe or duplicate proxy outbound tag: " ++ tag))
        else do
          let proxies ← collectProxies (index + 1) (tag :: tags) rest
          .ok (.object (object.insert "tag" (.string tag)) :: proxies)

def providerProxyOutbounds (profile : Value) : Except Fault (List Value) :=
  match (profile.get "outbounds").bind Value.asArray with
  | none => .error (.error "Xray profile has no outbounds array")
  | some outbounds =>
      match collectProxies 0 [] outbounds with
      | .error fault => .error fault
      | .ok [] => .error (.error "Xray profile has no supported proxy outbounds")
      | .ok proxies => .ok proxies

def buildProxyOutbound (parseJson : JsonParser) (server : VlessServer) :
    Except Fault Value :=
  match server.rawOutbound with
  | some outbound =>
      expectOk (sanitizeRawOutbound outbound false)
        "raw outbound was validated before config generation"
  | none => Core.buildProxyOutbound parseJson server

/-- An error of the plain functions as a fault. -/
def lifted {α : Type} (result : Except String α) : Except Fault α :=
  match result with
  | .ok value => .ok value
  | .error message => .error (.error message)

theorem sanitizeRawOutbound_eq (outbound : Value) (preserve : Bool) :
    sanitizeRawOutbound outbound preserve =
      (lifted (Core.sanitizeRawOutbound outbound preserve)).map .object := by
  rw [sanitizeRawOutbound, Core.sanitizeRawOutbound]
  split
  next => rfl
  next =>
    cases outbound.asObject with
    | none => rfl
    | some object =>
        dsimp only
        cases (Object.get object "protocol").bind Value.asString with
        | none => rfl
        | some protocol =>
            dsimp only
            split
            next => rfl
            next =>
              split
              next => rfl
              next =>
                rw [entryObject_eq, ok_bind, entryObject_eq, ok_bind]
                rfl

theorem collectProxies_eq (index : Nat) (tags : List String) (outbounds : List Value) :
    collectProxies index tags outbounds =
      lifted (Core.collectProxies index tags outbounds) := by
  induction outbounds generalizing index tags with
  | nil => rfl
  | cons outbound rest ih =>
      rw [collectProxies, Core.collectProxies]
      dsimp only
      split
      next => exact ih (index + 1) tags
      next =>
        rw [sanitizeRawOutbound_eq]
        cases Core.sanitizeRawOutbound outbound true with
        | error message => rfl
        | ok object =>
            change (if _ then _ else _) = _
            dsimp only
            split
            next => rfl
            next =>
              rw [ih]
              cases Core.collectProxies (index + 1) (outboundTagOr object index :: tags)
                rest with
              | error message => rfl
              | ok proxies => rfl

theorem providerProxyOutbounds_eq (profile : Value) :
    providerProxyOutbounds profile = lifted (Core.providerProxyOutbounds profile) := by
  rw [providerProxyOutbounds, Core.providerProxyOutbounds]
  cases (profile.get "outbounds").bind Value.asArray with
  | none => rfl
  | some outbounds =>
      dsimp only
      rw [collectProxies_eq]
      cases Core.collectProxies 0 [] outbounds with
      | error message => rfl
      | ok proxies => cases proxies <;> rfl

theorem buildProxyOutbound_eq (parseJson : JsonParser) (server : VlessServer) :
    buildProxyOutbound parseJson server = Core.buildProxyOutbound parseJson server := by
  rw [buildProxyOutbound]
  cases given : server.rawOutbound with
  | none => rfl
  | some outbound =>
      dsimp only
      rw [sanitizeRawOutbound_eq, Core.buildProxyOutbound, given]
      dsimp only
      cases Core.sanitizeRawOutbound outbound false with
      | error message => rfl
      | ok object => rfl

/-! ## Plans -/

/-- Where a composite profile sends traffic by default; its first proxy has a tag. -/
def profileTarget (order : HashOrder) (rules proxies : List Value)
    (balancerTags : List String) : Except Fault ProxyTarget :=
  match rules.reverse.findSome? (namedTarget (tagsOf proxies) balancerTags) with
  | some target => .ok target
  | none =>
      match order.first balancerTags with
      | some tag => .ok (.balancer tag)
      | none => do
          let first ← expect proxies.head?
            "index out of bounds: the len is 0 but the index is 0"
          let tag ← expect (first.getString "tag") "proxy tag inserted"
          .ok (.outbound tag)

def profilePlan (order : HashOrder) (server : VlessServer) :
    Except Fault (Option OutboundPlan) :=
  match server.rawProfile with
  | none => .ok none
  | some profile => do
      let proxies ← providerProxyOutbounds profile
      if !isComposite profile proxies then .ok none
      else do
        let balancers := profileBalancers profile
        lifted (checkBalancers (tagsOf proxies) (balancerItems balancers))
        let target ← profileTarget order (profileRules server) proxies
          (tagsOf (balancerItems balancers))
        .ok (some {
          proxies
          target
          balancers
          observatory := profile.get "observatory"
          burstObservatory := profile.get "burstObservatory"
          providerRules := safeProviderRouteRules server proxies balancers })

def outboundPlan (parseJson : JsonParser) (order : HashOrder) (server : VlessServer) :
    Except Fault OutboundPlan := do
  match ← profilePlan order server with
  | some plan => .ok plan
  | none => do
      let proxy ← buildProxyOutbound parseJson server
      .ok {
        proxies := [proxy]
        target := .outbound "proxy"
        balancers := none
        observatory := none
        burstObservatory := none
        providerRules := safeProviderRouteRules server [proxy] none }

def validateServer (parseJson : JsonParser) (order : HashOrder) (server : VlessServer) :
    Except Fault Unit :=
  if server.rawProfile.isSome then do
    let _ ← outboundPlan parseJson order server
    .ok ()
  else Core.validateServer parseJson order server

theorem profileTarget_eq (order : HashOrder) (rules : List Value) {proxies : List Value}
    (balancerTags : List String) (nonempty : proxies ≠ [])
    (tagged : ∀ proxy ∈ proxies, (proxy.getString "tag").isSome = true) :
    profileTarget order rules proxies balancerTags =
      Core.profileTarget order rules (tagsOf proxies) balancerTags := by
  rw [profileTarget, Core.profileTarget.eq_def]
  cases rules.reverse.findSome? (namedTarget (tagsOf proxies) balancerTags) with
  | some target => rfl
  | none =>
      cases order.first balancerTags with
      | some tag => rfl
      | none =>
          cases proxies with
          | nil => exact absurd rfl nonempty
          | cons first rest =>
              rcases Option.isSome_iff_exists.1 (tagged first (.head _)) with ⟨tag, named⟩
              have tags : tagsOf (first :: rest) = tag :: tagsOf rest := by
                simp [tagsOf, named]
              rw [tags]
              dsimp only [List.head?_cons]
              rw [expect, ok_bind, named, expect, ok_bind]

theorem profilePlan_eq (order : HashOrder) (server : VlessServer) :
    profilePlan order server = Core.profilePlan order server := by
  rw [profilePlan, Core.profilePlan]
  cases server.rawProfile with
  | none => rfl
  | some profile =>
      dsimp only
      rw [providerProxyOutbounds_eq]
      cases collected : Core.providerProxyOutbounds profile with
      | error message => rfl
      | ok proxies =>
          rw [lifted, ok_bind]
          dsimp only
          split
          next => rfl
          next =>
            cases checkBalancers (tagsOf proxies)
              (balancerItems (profileBalancers profile)) with
            | error message => rfl
            | ok checked =>
                have known := providerProxyOutbounds_planned collected
                rw [lifted, ok_bind, profileTarget_eq order _ _ known.2.2
                  fun proxy member => (known.1 proxy member).tagged]
                dsimp only
                cases Core.profileTarget order (profileRules server) (tagsOf proxies)
                  (tagsOf (balancerItems (profileBalancers profile))) with
                | error fault => rfl
                | ok target => rfl

theorem outboundPlan_eq (parseJson : JsonParser) (order : HashOrder) (server : VlessServer) :
    outboundPlan parseJson order server = Core.outboundPlan parseJson order server := by
  rw [outboundPlan, Core.outboundPlan, profilePlan_eq]
  cases Core.profilePlan order server with
  | error fault => rfl
  | ok found =>
      cases found with
      | some plan => rfl
      | none =>
          rw [ok_bind, buildProxyOutbound_eq]
          dsimp only
          cases Core.buildProxyOutbound parseJson server with
          | error fault => rfl
          | ok proxy => rfl

theorem validateServer_eq (parseJson : JsonParser) (order : HashOrder)
    (server : VlessServer) :
    validateServer parseJson order server = Core.validateServer parseJson order server := by
  rw [validateServer]
  split
  next profiled =>
    rw [Core.validateServer, if_pos profiled, outboundPlan_eq]
    cases Core.outboundPlan parseJson order server with
    | error fault => rfl
    | ok plan => rfl
  next => rfl

/-! ## Rules -/

/-- Make a rule send its traffic to the target. -/
def apply (target : ProxyTarget) (rule : Value) : Except Fault Value := do
  let object ← expect rule.asObject "routing rule object"
  match target with
  | .outbound tag => .ok (.object (object.insert "outboundTag" (.string tag)))
  | .balancer tag => .ok (.object (object.insert "balancerTag" (.string tag)))

/-- Send a rule's traffic to the proxy or past it. -/
def sendTo (useProxy : Bool) (target : ProxyTarget) (rule : Value) : Except Fault Value :=
  if useProxy then apply target rule else assign rule "outboundTag" (.string "direct")

def appRules (split : SplitInput) (tun : TunMode) (target : ProxyTarget) :
    Except Fault (List Value) :=
  match tun with
  | .tun2socks => .ok []
  | .xrayNative =>
      split.enabledApps.mapM fun app =>
        sendTo split.appsSelective target (fieldRule "process" (.strings [app]))

def siteRules (split : SplitInput) (target : ProxyTarget) : Except Fault (List Value) :=
  match siteSelectors split with
  | [] => .ok []
  | selectors => do
      let rule ← sendTo split.sitesSelective target
        (fieldRule "domain" (.strings selectors))
      .ok [rule]

def buildRouteRules (split : SplitInput) (allowLan : Bool) (inboundTag : String)
    (tun : TunMode) (target : ProxyTarget) (upstreamIps : List String)
    (providerRules : List Value) : Except Fault (List Value) := do
  let apps ← appRules split tun target
  let sites ← siteRules split target
  let pin ← apply target (fieldRule "ip" (.strings upstreamIps))
  let default ← sendTo (defaultUsesProxy split tun) target
    (fieldRule "network" (.string "tcp,udp"))
  .ok ([dnsRule inboundTag] ++ (if allowLan then [lanRule] else []) ++ apps ++ sites ++
    providerRules ++ [pin, default])

theorem apply_eq (target : ProxyTarget) {rule : Value} (isObject : rule.isObject = true) :
    apply target rule = .ok (target.apply rule) := by
  cases rule with
  | object fields => cases target <;> rfl
  | _ => cases isObject

theorem sendTo_eq (useProxy : Bool) (target : ProxyTarget) {rule : Value}
    (isObject : rule.isObject = true) :
    sendTo useProxy target rule = .ok (Core.sendTo useProxy target rule) := by
  cases useProxy with
  | true => exact apply_eq target isObject
  | false => exact assign_eq isObject "outboundTag" (.string "direct")

/-- A loop without faults is a map. -/
theorem mapM_ok {α β : Type} {step : α → Except Fault β} {total : α → β}
    (same : ∀ item, step item = .ok (total item)) (items : List α) :
    items.mapM step = .ok (items.map total) := by
  induction items with
  | nil => rfl
  | cons item rest ih =>
      rw [List.mapM_cons, same, ok_bind, ih, ok_bind]
      rfl

theorem isObject_fieldRule (key : String) (selector : Value) :
    (fieldRule key selector).isObject = true := rfl

theorem appRules_eq (split : SplitInput) (tun : TunMode) (target : ProxyTarget) :
    appRules split tun target = .ok (Core.appRules split tun target) := by
  cases tun with
  | tun2socks => rfl
  | xrayNative =>
      exact mapM_ok (fun app => sendTo_eq split.appsSelective target
        (isObject_fieldRule "process" (.strings [app]))) split.enabledApps

theorem siteRules_eq (split : SplitInput) (target : ProxyTarget) :
    siteRules split target = .ok (Core.siteRules split target) := by
  rw [siteRules, Core.siteRules]
  cases siteSelectors split with
  | nil => rfl
  | cons first rest =>
      dsimp only
      rw [sendTo_eq split.sitesSelective target (isObject_fieldRule _ _), ok_bind]

theorem buildRouteRules_eq (split : SplitInput) (allowLan : Bool) (inboundTag : String)
    (tun : TunMode) (target : ProxyTarget) (upstreamIps : List String)
    (providerRules : List Value) :
    buildRouteRules split allowLan inboundTag tun target upstreamIps providerRules =
      .ok (Core.buildRouteRules split allowLan inboundTag tun target upstreamIps
        providerRules) := by
  rw [buildRouteRules, appRules_eq, ok_bind, siteRules_eq, ok_bind,
    apply_eq target (isObject_fieldRule _ _), ok_bind,
    sendTo_eq _ target (isObject_fieldRule _ _), ok_bind]
  rfl

/-! ## DNS -/

/-- The default servers' addresses, under the host names in their URLs. -/
def addDefaultHosts (urls : UrlParser) (hosts : Object) : Except Fault Object :=
  defaultDohServers.foldlM (fun hosts (url, ips) => do
    let parsed ← expect (urls.parse url) "constant DoH URL"
    let hostname ← expect parsed.host "constant DoH hostname"
    .ok (hosts.orInsert hostname (.strings ips))) hosts

def buildDnsPlan (urls : UrlParser) (server : VlessServer) : Except Fault DnsPlan := do
  let kept := safeProviderDnsServers urls server
  let usingDefaults := kept.isEmpty
  let servers := if usingDefaults then defaultDnsServers else kept
  let queryStrategy :=
    (((server.profileSection "dns").bind (·.getString "queryStrategy")).filter
      (queryStrategies.contains ·)).getD "UseIPv4"
  let config := ((server.profileSection "dns").bind Value.asObject).getD []
  let config := config.remove "clientIp"
  let config := config.insert "servers" (.array (servers.map DnsServer.entry))
  let config := config.insert "queryStrategy" (.string queryStrategy)
  let hosts ← entryObject config "hosts" "DNS hosts object inserted"
  let hosts ← if usingDefaults then addDefaultHosts urls hosts else .ok hosts
  let hosts := hosts.orInsert "domain:googleapis.cn" (.string "googleapis.com")
  let config := config.insert "hosts" (.object hosts)
  let config := config.orInsert "enableParallelQuery" (.bool true)
  .ok {
    config
    upstreamIps := sortDedup (servers.flatMap DnsServer.ips)
    probeUrls := servers.filterMap DnsServer.probeUrl }

theorem constantUrl (urls : UrlParser) (url hostname : String)
    (constant : (url, hostname) ∈ constantUrls) :
    ∃ parsed, urls.parse url = some parsed ∧ parsed.host = some hostname := by
  have found := urls.constantHost (url, hostname) constant
  cases parsed : urls.parse url with
  | none =>
      rw [parsed] at found
      cases found
  | some result =>
      rw [parsed] at found
      exact ⟨result, rfl, found⟩

theorem addDefaultHosts_eq (urls : UrlParser) (hosts : Object) :
    addDefaultHosts urls hosts =
      .ok (defaultDohHosts.foldl (fun hosts (hostname, ips) =>
        hosts.orInsert hostname (.strings ips)) hosts) := by
  rcases constantUrl urls "https://cloudflare-dns.com/dns-query" "cloudflare-dns.com"
    (by simp [constantUrls]) with ⟨first, parsed, host⟩
  rcases constantUrl urls "https://dns.google/dns-query" "dns.google"
    (by simp [constantUrls]) with ⟨second, parsed', host'⟩
  simp only [addDefaultHosts, defaultDohServers, List.foldlM_cons, List.foldlM_nil, parsed,
    parsed', expect, ok_bind, host, host']
  rfl

theorem buildDnsPlan_eq (urls : UrlParser) (server : VlessServer) :
    buildDnsPlan urls server = .ok (Core.buildDnsPlan urls server) := by
  rw [buildDnsPlan, Core.buildDnsPlan]
  dsimp only
  rw [entryObject_eq, ok_bind, addDefaultHosts_eq]
  cases (safeProviderDnsServers urls server).isEmpty with
  | true => rfl
  | false => rfl

/-! ## Configs -/

def applyProviderRoutingOptions (server : VlessServer) (routing : Value) :
    Except Fault Value :=
  match server.profileSection "routing" with
  | none => .ok routing
  | some provider => do
      let known (key : String) (values : List String) : Option Value :=
        ((provider.getString key).filter (values.contains ·)).map .string
      let routing ← assignSome routing "domainStrategy"
        (known "domainStrategy" ["AsIs", "IPIfNonMatch", "IPOnDemand"])
      assignSome routing "domainMatcher" (known "domainMatcher" ["linear", "hybrid"])

/-- Add the observatories of a plan to a config. -/
def withObservatories (plan : OutboundPlan) (config : Value) : Except Fault Value := do
  let config ← assignSome config "observatory" plan.observatory
  assignSome config "burstObservatory" plan.burstObservatory

def tunnelConfig (server : VlessServer) (options : TunnelOptions) (plan : OutboundPlan)
    (dns : DnsPlan) : Except Fault Value := do
  let tun := effectiveTun options.mode options.tun
  let rules ← buildRouteRules options.split options.allowLan tun.inboundTag tun plan.target
    dns.upstreamIps plan.providerRules
  let routing ← applyProviderRoutingOptions server (.ofFields [("rules", .array rules)])
  let routing ← assignSome routing "balancers" plan.balancers
  withObservatories plan (.ofFields
    [("log", .ofFields [("loglevel", .string (xrayLoglevel options.logLevel))]),
      ("dns", .object dns.config),
      ("inbounds", buildInbounds tun options.effectiveMtu),
      ("outbounds", .array (tunnelOutbounds plan.proxies)),
      ("routing", routing)])

def buildXrayConfig (urls : UrlParser) (parseJson : JsonParser) (order : HashOrder)
    (server : VlessServer) (options : TunnelOptions) : Except Fault Value := do
  let plan ← expectOk (outboundPlan parseJson order server)
    "server was validated before config generation"
  let dns ← buildDnsPlan urls server
  tunnelConfig server options plan dns

def generateXrayConfig (urls : UrlParser) (parseJson : JsonParser)
    (checkOrder order : HashOrder) (server : VlessServer) (split : SplitInput)
    (mode : String) (allowLan : Bool) (mtu : Nat) : Except Fault String := do
  validateServer parseJson checkOrder server
  let config ← buildXrayConfig urls parseJson order server
    (.requested split mode allowLan mtu)
  .ok config.toPrettyText

def probeConfig (plan : OutboundPlan) : Except Fault Value := do
  let route ← apply plan.target (.ofFields
    [("type", .string "field"), ("inboundTag", .strings ["socks-in-0"]),
      ("network", .string "tcp,udp")])
  let routing ← assignSome (.ofFields [("rules", .array [route])]) "balancers" plan.balancers
  withObservatories plan (.ofFields
    [("log", .ofFields [("loglevel", .string "warning")]),
      ("inbounds", .array [.ofFields
        [("tag", .string "socks-in-0"), ("listen", .string "127.0.0.1"),
          ("port", .nat connectionProbePortBase), ("protocol", .string "socks"),
          ("settings", .ofFields
            [("udp", .bool false), ("auth", .string "noauth")])]]),
      ("outbounds", .array (probeOutbounds plan.proxies)),
      ("routing", routing)])

def buildConnectionProbeConfig (parseJson : JsonParser) (order : HashOrder)
    (server : VlessServer) : Except Fault Value := do
  let plan ← outboundPlan parseJson order server
  probeConfig plan

def buildPingConfig (parseJson : JsonParser) (order : HashOrder) (server : VlessServer)
    (socksPorts : List Nat) : Except Fault Value := do
  let plan ← outboundPlan parseJson order server
  pingConfig plan socksPorts

theorem applyProviderRoutingOptions_eq (server : VlessServer) {routing : Value}
    (isObject : routing.isObject = true) :
    applyProviderRoutingOptions server routing =
      .ok (Core.applyProviderRoutingOptions server routing) := by
  rw [applyProviderRoutingOptions, Core.applyProviderRoutingOptions]
  cases server.profileSection "routing" with
  | none => rfl
  | some provider =>
      dsimp only
      rw [assignSome_eq isObject, ok_bind, assignSome_eq]
      rw [Value.isObject_setSome]
      exact isObject

theorem withObservatories_eq (plan : OutboundPlan) {config : Value}
    (isObject : config.isObject = true) :
    withObservatories plan config =
      .ok ((config.setSome "observatory" plan.observatory).setSome "burstObservatory"
        plan.burstObservatory) := by
  rw [withObservatories, assignSome_eq isObject, ok_bind, assignSome_eq]
  rw [Value.isObject_setSome]
  exact isObject

theorem tunnelConfig_eq (server : VlessServer) (options : TunnelOptions)
    (plan : OutboundPlan) (dns : DnsPlan) :
    tunnelConfig server options plan dns =
      .ok (Core.tunnelConfig server options plan dns) := by
  rw [tunnelConfig, buildRouteRules_eq, ok_bind, applyProviderRoutingOptions_eq server rfl,
    ok_bind, assignSome_eq, ok_bind, withObservatories_eq plan rfl]
  · rfl
  · rw [isObject_applyProviderRoutingOptions]
    rfl

theorem probeConfig_eq (plan : OutboundPlan) :
    probeConfig plan = .ok (Core.probeConfig plan) := by
  rw [probeConfig, apply_eq plan.target rfl, ok_bind, assignSome_eq rfl, ok_bind,
    withObservatories_eq plan rfl]
  rfl

/-! ## Panics -/

/-- The computation ends in a failed assertion. -/
def Panics {α : Type} (result : Except Fault α) : Prop :=
  ∃ message, result = .error (.panic message)

theorem panics_error {α : Type} {fault : Fault} :
    Panics (.error fault : Except Fault α) ↔ ∃ message, fault = .panic message := by
  simp [Panics]

theorem not_panics_ok {α : Type} (value : α) : ¬Panics (.ok value) := by
  rintro ⟨message, failed⟩
  cases failed

/-- Xray's JSON of a single location names no local file. -/
def NamesNoFile (server : VlessServer) : Prop :=
  ∀ outbound, server.rawOutbound = some outbound →
    containsForbiddenProviderFileReference outbound = false

section Validated

variable {urls : UrlParser} {parseJson : JsonParser} {order : HashOrder}
  {server : VlessServer}

/-- Without a profile the plan is the one outbound. -/
theorem outboundPlan_of_noProfile (unprofiled : server.rawProfile = none) :
    Core.outboundPlan parseJson order server =
      (Core.buildProxyOutbound parseJson server).map fun proxy =>
        { proxies := [proxy]
          target := .outbound "proxy"
          balancers := none
          observatory := none
          burstObservatory := none
          providerRules := safeProviderRouteRules server [proxy] none } := by
  rw [Core.outboundPlan, Core.profilePlan, unprofiled]
  dsimp only
  cases Core.buildProxyOutbound parseJson server with
  | error fault => rfl
  | ok proxy => rfl

/-- An outbound that passes the check of its protocol is sanitized unless it names a
file. -/
theorem sanitizes_of_validated {outbound : Value}
    (validated : Core.validateServer parseJson order server = .ok ())
    (unprofiled : server.rawProfile = none) (given : server.rawOutbound = some outbound)
    (clean : containsForbiddenProviderFileReference outbound = false) :
    ∃ object, Core.sanitizeRawOutbound outbound false = .ok object := by
  rw [Core.validateServer, unprofiled, given] at validated
  dsimp only [Option.isSome_none] at validated
  rw [if_neg (by decide)] at validated
  split at validated
  next => cases validated
  next protocol named =>
    by_cases known : isProxyProtocol (toAsciiLowercase protocol) = true
    · cases outbound with
      | object fields =>
          have found : (Object.get fields "protocol").bind Value.asString = some protocol :=
            named
          rw [Core.sanitizeRawOutbound, clean, if_neg (by decide)]
          dsimp only [Value.asObject]
          rw [found]
          dsimp only
          rw [if_neg (by simp [known])]
          split
          next => exact ⟨_, rfl⟩
          next => exact ⟨_, rfl⟩
      | _ => cases named
    · rw [if_neg known] at validated
      cases validated

theorem plan_of_validated (validated : Core.validateServer parseJson order server = .ok ())
    (clean : server.rawProfile.isSome = true ∨ NamesNoFile server) :
    ∃ plan, Core.outboundPlan parseJson order server = .ok plan := by
  cases profiled : server.rawProfile with
  | some profile =>
      rw [Core.validateServer, profiled, if_pos (Option.isSome_some)] at validated
      split at validated
      next => cases validated
      next plan planned => exact ⟨plan, planned⟩
  | none =>
      rw [profiled] at clean
      have namesNoFile := clean.resolve_left (by simp)
      rw [outboundPlan_of_noProfile profiled, Core.buildProxyOutbound]
      cases given : server.rawOutbound with
      | some outbound =>
          rcases sanitizes_of_validated validated profiled given (namesNoFile outbound given)
            with ⟨object, sanitized⟩
          dsimp only
          rw [sanitized]
          exact ⟨_, rfl⟩
      | none =>
          dsimp only
          split
          next => exact ⟨_, rfl⟩
          next => split <;> exact ⟨_, rfl⟩

/-- With a plan every assertion holds. -/
theorem generateXrayConfig_eq {checkOrder : HashOrder} {plan : OutboundPlan}
    (planned : Core.outboundPlan parseJson order server = .ok plan) (split : SplitInput)
    (mode : String) (allowLan : Bool) (mtu : Nat) :
    generateXrayConfig urls parseJson checkOrder order server split mode allowLan mtu =
      Core.generateXrayConfig urls parseJson checkOrder order server split mode allowLan
        mtu := by
  rw [generateXrayConfig, Core.generateXrayConfig, validateServer_eq]
  cases Core.validateServer parseJson checkOrder server with
  | error fault => rfl
  | ok checked =>
      rw [ok_bind, buildXrayConfig, outboundPlan_eq, planned, expectOk_ok, ok_bind,
        buildDnsPlan_eq, ok_bind, tunnelConfig_eq, ok_bind, Core.buildXrayConfig, planned]

/-- The check does not depend on the hash order. -/
theorem validateServer_order {plan : OutboundPlan}
    (validated : Core.validateServer parseJson order server = .ok ())
    (planned : Core.outboundPlan parseJson order server = .ok plan) (other : HashOrder) :
    Core.validateServer parseJson other server = .ok () := by
  rcases outboundPlan_order planned other with ⟨target, planned'⟩
  rw [Core.validateServer] at validated ⊢
  split
  next => rw [planned']
  next unprofiled =>
    rw [if_neg unprofiled] at validated
    exact validated

theorem not_panics_mapM {α β : Type} {step : α → Except Fault β}
    (each : ∀ item, ¬Panics (step item)) (items : List α) : ¬Panics (items.mapM step) := by
  induction items with
  | nil => exact not_panics_ok []
  | cons item rest ih =>
      rw [List.mapM_cons]
      have ofItem := each item
      cases first : step item with
      | error fault =>
          rw [first, panics_error] at ofItem
          rwa [error_bind, panics_error]
      | ok value =>
          rw [ok_bind]
          cases others : rest.mapM step with
          | error fault =>
              rw [others, panics_error] at ih
              rwa [error_bind, panics_error]
          | ok values => exact not_panics_ok _

theorem not_panics_pingConfig (plan : OutboundPlan) (socksPorts : List Nat) :
    ¬Panics (pingConfig plan socksPorts) := by
  have parts : ∀ item : (Value × Nat) × Nat,
      ¬Panics (pingParts item.2 item.1.1 item.1.2) := by
    intro item
    rw [pingParts]
    split
    next => simp [panics_error]
    next => exact not_panics_ok _
  rw [pingConfig]
  split
  next => simp [panics_error]
  next =>
    have measured := not_panics_mapM parts (plan.proxies.zip socksPorts).zipIdx
    cases done : (plan.proxies.zip socksPorts).zipIdx.mapM fun item =>
        pingParts item.2 item.1.1 item.1.2 with
    | error fault =>
        rw [done, panics_error] at measured
        rwa [panics_error]
    | ok values => exact not_panics_ok _

/-- A single outbound that names a file ends the generation. -/
theorem outboundPlan_panics {outbound : Value} (unprofiled : server.rawProfile = none)
    (given : server.rawOutbound = some outbound)
    (namesFile : containsForbiddenProviderFileReference outbound = true) :
    Core.outboundPlan parseJson order server =
      .error (.panic "raw outbound was validated before config generation") := by
  rw [outboundPlan_of_noProfile unprofiled, Core.buildProxyOutbound, given]
  dsimp only
  rw [Core.sanitizeRawOutbound, if_pos namesFile]
  rfl

/-- No assertion of the generators fails for a validated location, with any split, mode,
device size, ports and hash orders, exactly when it has a profile or its JSON outbound,
if it has one, names no local file. -/
theorem generation_never_panics_iff
    (validated : validateServer parseJson order server = .ok ()) :
    (∀ checkOrder order split mode allowLan mtu socksPorts,
      ¬Panics (generateXrayConfig urls parseJson checkOrder order server split mode
        allowLan mtu) ∧
      ¬Panics (buildConnectionProbeConfig parseJson order server) ∧
      ¬Panics (buildPingConfig parseJson order server socksPorts)) ↔
    server.rawProfile.isSome = true ∨ NamesNoFile server := by
  rw [validateServer_eq] at validated
  constructor
  · intro neverPanics
    cases profiled : server.rawProfile with
    | some profile => exact .inl rfl
    | none =>
        right
        intro outbound given
        by_contra namesFile
        rw [Bool.not_eq_false] at namesFile
        apply (neverPanics order order ⟨"", "", [], []⟩ "" false 0 []).2.1
        refine ⟨"raw outbound was validated before config generation", ?_⟩
        rw [buildConnectionProbeConfig, outboundPlan_eq,
          outboundPlan_panics profiled given namesFile]
        rfl
  · intro clean checkOrder other split mode allowLan mtu socksPorts
    rcases plan_of_validated validated clean with ⟨plan, planned⟩
    rcases outboundPlan_order planned other with ⟨target, planned'⟩
    refine ⟨?_, ?_, ?_⟩
    · rw [generateXrayConfig_eq planned', Core.generateXrayConfig,
        validateServer_order validated planned checkOrder, Core.buildXrayConfig, planned']
      exact not_panics_ok _
    · rw [buildConnectionProbeConfig, outboundPlan_eq, planned', ok_bind, probeConfig_eq]
      exact not_panics_ok _
    · rw [buildPingConfig, outboundPlan_eq, planned', ok_bind]
      exact not_panics_pingConfig _ socksPorts

end Validated

/-- A JSON outbound with the given field in its TLS settings. -/
def tlsOutbound (key value : String) : Value :=
  .ofFields
    [("protocol", .string "trojan"),
      ("settings", .ofFields
        [("address", .string "1.2.3.4"), ("port", .nat 443), ("password", .string "p")]),
      ("streamSettings", .ofFields
        [("security", .string "tls"),
          ("tlsSettings", .ofFields [(key, .string value)])])]

/-- A location given by one JSON outbound. -/
def ofOutbound (outbound : Value) : VlessServer :=
  { VlessServer.base "trojan" "1.2.3.4" 443 "1.2.3.4:443" with rawOutbound := some outbound }

/-- A location whose outbound names no file is generated in each of the three ways. -/
theorem generation_of_plain_outbound :
    let server := ofOutbound (tlsOutbound "serverName" "a.example")
    let split : SplitInput := ⟨"general", "general", [], []⟩
    ¬Panics (generateXrayConfig (.ofPlain []) (fun _ => none) .inserted .inserted server
        split "tun" false 1500) ∧
      ¬Panics (buildConnectionProbeConfig (fun _ => none) .inserted server) ∧
      ¬Panics (buildPingConfig (fun _ => none) .inserted server [20810]) := by
  intro server split
  have validated : validateServer (fun _ => none) .inserted server = .ok () := rfl
  apply (generation_never_panics_iff validated).2
  right
  rintro outbound ⟨⟩
  decide

/-- A location whose outbound reads a certificate file passes its check and ends every
generation. -/
theorem generation_panics_on_file :
    let server := ofOutbound (tlsOutbound "certificateFile" "/etc/a.pem")
    let split : SplitInput := ⟨"general", "general", [], []⟩
    validateServer (fun _ => none) .inserted server = .ok () ∧
      Panics (generateXrayConfig (.ofPlain []) (fun _ => none) .inserted .inserted server
        split "tun" false 1500) ∧
      Panics (buildConnectionProbeConfig (fun _ => none) .inserted server) ∧
      Panics (buildPingConfig (fun _ => none) .inserted server [20810]) := by
  intro server split
  exact ⟨rfl, ⟨_, rfl⟩, ⟨_, rfl⟩, ⟨_, rfl⟩⟩

end Varmlen.Core.Checked
