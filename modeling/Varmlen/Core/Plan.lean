import Varmlen.Core.Outbound

/-!
# Outbound plans

Which proxies a location has, where its traffic goes by default, and what of a
provider's routing is kept (`core/src/xray.rs`).
-/

namespace Varmlen.Core

open Foundation.Ip Foundation.Json Foundation.Text

/-- Where traffic for the proxy goes: one outbound, or a balancer over several. -/
inductive ProxyTarget where
  | outbound (tag : String)
  | balancer (tag : String)
  deriving DecidableEq, Repr

namespace ProxyTarget

/-- Make a rule send its traffic to the target. -/
def apply (target : ProxyTarget) (rule : Value) : Value :=
  match target with
  | .outbound tag => rule.set "outboundTag" (.string tag)
  | .balancer tag => rule.set "balancerTag" (.string tag)

end ProxyTarget

structure OutboundPlan where
  proxies : List Value
  target : ProxyTarget
  balancers : Option Value
  observatory : Option Value
  burstObservatory : Option Value
  providerRules : List Value

/-- The tags of a list of outbounds or balancers. -/
def tagsOf (values : List Value) : List String :=
  values.filterMap (·.getString "tag")

/-- The items of a profile's balancers. -/
def balancerItems (balancers : Option Value) : List Value :=
  (balancers.bind Value.asArray).getD []

/-! ## The provider's rules -/

/-- An address that DNS may be sent to through a proxy: no local, private or
special address. -/
def isSafeRemoteDnsIp : IpAddr → Bool
  | .v4 address =>
      !address.isPrivate && !address.isLoopback && !address.isLinkLocal &&
        !address.isMulticast && !address.isUnspecified && !address.isBroadcast &&
        !(address.a == 100 && (64 ≤ address.b.val && address.b.val ≤ 127))
  | .v6 address =>
      !address.isLoopback && !address.isUnspecified && !address.isMulticast &&
        !address.isUniqueLocal && !address.isUnicastLinkLocal

/-- A selector that needs a data file Varmlen does not ship. -/
def isExternalRouteSelector (value : Value) : Bool :=
  match value.asString with
  | none => false
  | some raw =>
      let raw := toAsciiLowercase raw
      startsWith raw "geoip:" || startsWith raw "ext:" || startsWith raw "ext-ip:"

/-- A selector whose address, taken without its prefix length, is local. -/
def isLocalRouteSelector (value : Value) : Bool :=
  match value.asString with
  | none => true
  | some raw =>
      if eqIgnoreAsciiCase raw "geoip:private" then true
      else
        match parseChars (raw.toList.takeWhile (· != '/')) with
        | some address => !isSafeRemoteDnsIp address
        | none => false

/-- Some item of an array field satisfies the predicate. -/
def anyItem (object : Object) (key : String) (predicate : Value → Bool) : Bool :=
  match (object.get key).bind Value.asArray with
  | some items => items.any predicate
  | none => false

/-- A rule has only selectors that a provider's rule may keep, and at least one. -/
def hasKeptSelectors (object : Object) : Bool :=
  !(["domain", "process", "inboundTag"].any object.containsKey) &&
    ["protocol", "ip", "port", "source", "sourcePort", "user", "attrs"].any
      object.containsKey

/-- A rule names an outbound or a balancer that will exist. -/
def hasKnownTarget (proxyTags balancerTags : List String) (object : Object) : Bool :=
  let outboundOk :=
    match (object.get "outboundTag").bind Value.asString with
    | some tag => tag == "direct" || tag == "block" || proxyTags.contains tag
    | none => false
  let balancerOk :=
    match (object.get "balancerTag").bind Value.asString with
    | some tag => balancerTags.contains tag
    | none => false
  outboundOk || balancerOk

/-- A rule sends something local to `direct`, as far as its `ip` list shows. -/
def overridesAllowLan (object : Object) : Bool :=
  decide ((object.get "outboundTag").bind Value.asString = some "direct") &&
    anyItem object "ip" isLocalRouteSelector

/-- The rules of a profile that are kept. -/
def keepsRule (proxyTags balancerTags : List String) (rule : Value) : Bool :=
  match rule.asObject with
  | none => false
  | some object =>
      hasKeptSelectors object && !anyItem object "ip" isExternalRouteSelector &&
        hasKnownTarget proxyTags balancerTags object && !overridesAllowLan object

/-- All rules of the provider's profile. -/
def profileRules (server : VlessServer) : List Value :=
  ((server.profileSection "routing").map (·.getItems "rules")).getD []

def safeProviderRouteRules (server : VlessServer) (proxies : List Value)
    (balancers : Option Value) : List Value :=
  (profileRules server).filter
    (keepsRule (tagsOf proxies) (tagsOf (balancerItems balancers)))

/-! ## Plans -/

/-- One of a balancer's selectors is a prefix of a proxy's tag. -/
def selectsProxy (proxyTags : List String) (selectors : List Value) : Bool :=
  (selectors.filterMap Value.asString).any fun selector =>
    proxyTags.any fun tag => startsWith tag selector

/-- Every balancer has a tag and selects a proxy. -/
def checkBalancers (proxyTags : List String) : List Value → Except String Unit
  | [] => .ok ()
  | balancer :: rest =>
      match balancer.getString "tag" with
      | none => .error "profile balancer has no tag"
      | some tag =>
          match (balancer.get "selector").bind Value.asArray with
          | none => .error ("profile balancer " ++ tag ++ " has no selectors")
          | some selectors =>
              if selectsProxy proxyTags selectors then checkBalancers proxyTags rest
              else
                .error ("profile balancer " ++ tag ++ " does not select a proxy outbound")

/-- The proxy target a rule of the profile names, if it names one. -/
def namedTarget (proxyTags balancerTags : List String) (rule : Value) :
    Option ProxyTarget :=
  match (rule.getString "balancerTag").filter (balancerTags.contains ·) with
  | some tag => some (.balancer tag)
  | none =>
      ((rule.getString "outboundTag").filter (proxyTags.contains ·)).map .outbound

/-- The profile's balancers, if it has any. -/
def profileBalancers (profile : Value) : Option Value :=
  ((profile.get "routing").bind (·.get "balancers")).filter fun balancers =>
    match balancers.asArray with
    | some items => !items.isEmpty
    | none => false

/-- A profile that is more than a single outbound. -/
def isComposite (profile : Value) (proxies : List Value) : Bool :=
  decide (1 < proxies.length) || (profileBalancers profile).isSome ||
    (profile.get "observatory").isSome || (profile.get "burstObservatory").isSome

/-- Where a composite profile sends traffic by default: to what its last rule that
names a proxy or a balancer names, else to some balancer, else to its first
proxy. -/
def profileTarget (order : HashOrder) (rules : List Value)
    (proxyTags balancerTags : List String) : Except Fault ProxyTarget :=
  match rules.reverse.findSome? (namedTarget proxyTags balancerTags) with
  | some target => .ok target
  | none =>
      match order.first balancerTags with
      | some tag => .ok (.balancer tag)
      | none =>
          match proxyTags with
          | tag :: _ => .ok (.outbound tag)
          | [] => .error (.panic "proxy tag inserted")

def profilePlan (order : HashOrder) (server : VlessServer) :
    Except Fault (Option OutboundPlan) :=
  match server.rawProfile with
  | none => .ok none
  | some profile =>
      match providerProxyOutbounds profile with
      | .error message => .error (.error message)
      | .ok proxies =>
          if !isComposite profile proxies then .ok none
          else
            let balancers := profileBalancers profile
            let proxyTags := tagsOf proxies
            let balancerTags := tagsOf (balancerItems balancers)
            match checkBalancers proxyTags (balancerItems balancers) with
            | .error message => .error (.error message)
            | .ok () =>
                match profileTarget order (profileRules server) proxyTags balancerTags with
                | .error fault => .error fault
                | .ok target =>
                    .ok (some {
                      proxies
                      target
                      balancers
                      observatory := profile.get "observatory"
                      burstObservatory := profile.get "burstObservatory"
                      providerRules := safeProviderRouteRules server proxies balancers })

def outboundPlan (parseJson : JsonParser) (order : HashOrder) (server : VlessServer) :
    Except Fault OutboundPlan :=
  match profilePlan order server with
  | .error fault => .error fault
  | .ok (some plan) => .ok plan
  | .ok none =>
      match buildProxyOutbound parseJson server with
      | .error fault => .error fault
      | .ok proxy =>
          .ok {
            proxies := [proxy]
            target := .outbound "proxy"
            balancers := none
            observatory := none
            burstObservatory := none
            providerRules := safeProviderRouteRules server [proxy] none }

/-- The transports of a share link that a config can be generated for. -/
def supportedTransports : List String :=
  ["", "raw", "tcp", "xhttp", "splithttp", "ws", "websocket", "grpc", "gun",
    "httpupgrade", "http", "h2", "h3", "kcp", "mkcp", "hysteria"]

/-- Reject locations that a config would silently reinterpret. -/
def validateServer (parseJson : JsonParser) (order : HashOrder) (server : VlessServer) :
    Except Fault Unit :=
  if server.rawProfile.isSome then
    match outboundPlan parseJson order server with
    | .error fault => .error fault
    | .ok _ => .ok ()
  else
    match server.rawOutbound with
    | some outbound =>
        match outbound.getString "protocol" with
        | none => .error (.error "JSON location has no outbound protocol")
        | some protocol =>
            let protocol := toAsciiLowercase protocol
            if isProxyProtocol protocol then .ok ()
            else .error (.error ("unsupported proxy protocol in JSON: " ++ protocol))
    | none =>
        let protocol := toAsciiLowercase server.protocol
        if !isProxyProtocol protocol then
          .error (.error ("unsupported protocol: " ++ server.protocol))
        else if protocol = "wireguard" then
          if trim server.uuid = "" then
            .error (.error "WireGuard private key is required")
          else if trim (server.publicKey.getD "") = "" then
            .error (.error "WireGuard peer public key is required")
          else .ok ()
        else
          let transport := toAsciiLowercase server.transport
          if !supportedTransports.contains transport then
            .error (.error ("unsupported transport: " ++ server.transport))
          else if protocol = "hysteria" ∧
              (transport ≠ "hysteria" ∨ !eqIgnoreAsciiCase server.security "tls") then
            .error (.error "Hysteria2 requires the Hysteria transport with TLS")
          else .ok ()

end Varmlen.Core
