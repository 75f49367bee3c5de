import Varmlen.Core.Dns
import Varmlen.Foundation.JsonText

/-!
# Generated configs

The routing rules of a tunnel, the tunnel config itself and the config of the
probe that is run before a tunnel is brought up (`core/src/xray.rs`).
-/

namespace Varmlen.Core

open Foundation.Json Foundation.Text

def xraySocksPort : Nat := 2081

def tunName : String := "varmlen0"

def tunMtu : Nat := 1500

def connectionProbePortBase : Nat := 20810

/-- The ranges kept direct when the LAN is allowed. -/
def privateCidrs : List String :=
  ["10.0.0.0/8", "172.16.0.0/12", "192.168.0.0/16", "127.0.0.0/8", "169.254.0.0/16",
    "100.64.0.0/10", "::1/128", "fc00::/7", "fe80::/10"]

/-- How system traffic reaches Xray. -/
inductive TunMode where
  | xrayNative
  | tun2socks
  deriving DecidableEq, Repr

/-- The tag of the inbound that carries system traffic. -/
def TunMode.inboundTag : TunMode → String
  | .xrayNative => "tun-in"
  | .tun2socks => "socks-in"

/-- Direct egress, resolving through Xray's own DNS. -/
def directOutbound : Value :=
  .ofFields
    [("tag", .string "direct"), ("protocol", .string "freedom"),
      ("settings", .ofFields [("domainStrategy", .string "UseIP")]),
      ("streamSettings", .ofFields
        [("sockopt", .ofFields [("mark", .nat xrayDialMark)])])]

def buildInbounds (tun : TunMode) (mtu : Nat) : Value :=
  let sniffing : Value := .ofFields
    [("enabled", .bool true), ("destOverride", .strings ["http", "tls", "quic"]),
      ("routeOnly", .bool true)]
  match tun with
  | .xrayNative =>
      .array [.ofFields
        [("tag", .string "tun-in"), ("protocol", .string "tun"),
          ("settings", .ofFields [("name", .string tunName), ("mtu", .nat mtu)]),
          ("sniffing", sniffing)]]
  | .tun2socks =>
      .array [.ofFields
        [("tag", .string "socks-in"), ("listen", .string "127.0.0.1"),
          ("port", .nat xraySocksPort), ("protocol", .string "socks"),
          ("settings", .ofFields [("udp", .bool true), ("auth", .string "noauth")]),
          ("sniffing", sniffing)]]

/-! ## Routing rules -/

/-- A rule with the given selector. -/
def fieldRule (key : String) (selector : Value) : Value :=
  .ofFields [("type", .string "field"), (key, selector)]

/-- Send a rule's traffic to the proxy or past it. -/
def sendTo (useProxy : Bool) (target : ProxyTarget) (rule : Value) : Value :=
  if useProxy then target.apply rule else rule.set "outboundTag" (.string "direct")

/-- The domain selector of a site: `*.` asks for every subdomain. -/
def siteSelector (site : String) : String :=
  match afterPrefix site "*." with
  | some suffix => "domain:" ++ suffix
  | none => "full:" ++ site

def siteSelectors (split : SplitInput) : List String :=
  ((split.sites.map trim).filter fun site => site != "").map siteSelector

/-- Whether what no rule names goes through the proxy. -/
def defaultUsesProxy (split : SplitInput) (tun : TunMode) : Bool :=
  match tun with
  | .tun2socks => !split.sitesSelective
  | .xrayNative => !(split.appsSelective || split.sitesSelective)

/-- DNS of applications goes to Xray's own resolver. -/
def dnsRule (inboundTag : String) : Value :=
  .ofFields
    [("type", .string "field"), ("inboundTag", .strings [inboundTag]), ("port", .nat 53),
      ("outboundTag", .string "dns-out")]

def lanRule : Value :=
  (fieldRule "ip" (.strings privateCidrs)).set "outboundTag" (.string "direct")

/-- The rules of the split's applications. -/
def appRules (split : SplitInput) (tun : TunMode) (target : ProxyTarget) : List Value :=
  match tun with
  | .tun2socks => []
  | .xrayNative =>
      split.enabledApps.map fun app =>
        sendTo split.appsSelective target (fieldRule "process" (.strings [app]))

/-- The rule of the split's sites. -/
def siteRules (split : SplitInput) (target : ProxyTarget) : List Value :=
  match siteSelectors split with
  | [] => []
  | selectors =>
      [sendTo split.sitesSelective target (fieldRule "domain" (.strings selectors))]

/-- The rules before the provider's. -/
def leadingRules (split : SplitInput) (allowLan : Bool) (inboundTag : String)
    (tun : TunMode) (target : ProxyTarget) : List Value :=
  [dnsRule inboundTag] ++ (if allowLan then [lanRule] else []) ++
    appRules split tun target ++ siteRules split target

/-- DNS upstreams go through the tunnel. -/
def pinRule (target : ProxyTarget) (upstreamIps : List String) : Value :=
  target.apply (fieldRule "ip" (.strings upstreamIps))

/-- Everything else. -/
def defaultRule (split : SplitInput) (tun : TunMode) (target : ProxyTarget) : Value :=
  sendTo (defaultUsesProxy split tun) target
    (fieldRule "network" (.string "tcp,udp"))

def buildRouteRules (split : SplitInput) (allowLan : Bool) (inboundTag : String)
    (tun : TunMode) (target : ProxyTarget) (upstreamIps : List String)
    (providerRules : List Value) : List Value :=
  leadingRules split allowLan inboundTag tun target ++ providerRules ++
    [pinRule target upstreamIps, defaultRule split tun target]

/-! ## Configs -/

/-- Take over the provider's matching strategies that Xray knows. -/
def applyProviderRoutingOptions (server : VlessServer) (routing : Value) : Value :=
  match server.profileSection "routing" with
  | none => routing
  | some provider =>
      let known (key : String) (values : List String) : Option Value :=
        ((provider.getString key).filter (values.contains ·)).map .string
      (routing.setSome "domainStrategy"
        (known "domainStrategy" ["AsIs", "IPIfNonMatch", "IPOnDemand"])).setSome
        "domainMatcher" (known "domainMatcher" ["linear", "hybrid"])

def xrayLoglevel (level : String) : String :=
  if ["debug", "info", "error", "none"].contains level then level else "warning"

/-- The outbounds of a tunnel config: the proxies and the three fixed ones. -/
def tunnelOutbounds (proxies : List Value) : List Value :=
  proxies ++
    [directOutbound,
      .ofFields [("tag", .string "dns-out"), ("protocol", .string "dns")],
      .ofFields [("tag", .string "block"), ("protocol", .string "blackhole")]]

/-- How system traffic reaches Xray in a connection mode. -/
def effectiveTun (mode : String) (tun : TunMode) : TunMode :=
  if mode = "proxy" then .tun2socks else tun

/-- Everything a tunnel config is generated for besides the location. -/
structure TunnelOptions where
  split : SplitInput
  mode : String
  tun : TunMode
  allowLan : Bool
  logLevel : String
  mtu : Nat

/-- The device size used: the fixed one in proxy mode. -/
def TunnelOptions.effectiveMtu (options : TunnelOptions) : Nat :=
  if options.mode = "proxy" then tunMtu else options.mtu

/-- The routing rules of a tunnel config. -/
def tunnelRules (options : TunnelOptions) (plan : OutboundPlan) (dns : DnsPlan) :
    List Value :=
  let tun := effectiveTun options.mode options.tun
  buildRouteRules options.split options.allowLan tun.inboundTag tun plan.target
    dns.upstreamIps plan.providerRules

/-- The tunnel config of a plan. -/
def tunnelConfig (server : VlessServer) (options : TunnelOptions) (plan : OutboundPlan)
    (dns : DnsPlan) : Value :=
  let routing := applyProviderRoutingOptions server
    (.ofFields [("rules", .array (tunnelRules options plan dns))])
  let routing := routing.setSome "balancers" plan.balancers
  let config : Value := .ofFields
    [("log", .ofFields [("loglevel", .string (xrayLoglevel options.logLevel))]),
      ("dns", .object dns.config),
      ("inbounds", buildInbounds (effectiveTun options.mode options.tun)
        options.effectiveMtu),
      ("outbounds", .array (tunnelOutbounds plan.proxies)),
      ("routing", routing)]
  (config.setSome "observatory" plan.observatory).setSome "burstObservatory"
    plan.burstObservatory

def buildXrayConfig (urls : UrlParser) (parseJson : JsonParser) (order : HashOrder)
    (server : VlessServer) (options : TunnelOptions) : Except Fault Value :=
  match outboundPlan parseJson order server with
  | .error _ => .error (.panic "server was validated before config generation")
  | .ok plan => .ok (tunnelConfig server options plan (buildDnsPlan urls server))

/-- The route of the probe's inbound. -/
def probeRule (target : ProxyTarget) : Value :=
  target.apply (.ofFields
    [("type", .string "field"), ("inboundTag", .strings ["socks-in-0"]),
      ("network", .string "tcp,udp")])

/-- The outbounds of a probe config: the proxies and direct egress. -/
def probeOutbounds (proxies : List Value) : List Value :=
  proxies ++ [.ofFields [("tag", .string "direct"), ("protocol", .string "freedom")]]

/-- The probe config of a plan. -/
def probeConfig (plan : OutboundPlan) : Value :=
  let routing := (Value.ofFields [("rules", .array [probeRule plan.target])]).setSome
    "balancers" plan.balancers
  let config : Value := .ofFields
    [("log", .ofFields [("loglevel", .string "warning")]),
      ("inbounds", .array [.ofFields
        [("tag", .string "socks-in-0"), ("listen", .string "127.0.0.1"),
          ("port", .nat connectionProbePortBase), ("protocol", .string "socks"),
          ("settings", .ofFields
            [("udp", .bool false), ("auth", .string "noauth")])]]),
      ("outbounds", .array (probeOutbounds plan.proxies)),
      ("routing", routing)]
  (config.setSome "observatory" plan.observatory).setSome "burstObservatory"
    plan.burstObservatory

def buildConnectionProbeConfig (parseJson : JsonParser) (order : HashOrder)
    (server : VlessServer) : Except Fault Value :=
  match outboundPlan parseJson order server with
  | .error fault => .error fault
  | .ok plan => .ok (probeConfig plan)

/-- The inbound and the rule that measure one proxy, by its place. -/
def pingParts (index : Nat) (proxy : Value) (port : Nat) : Except Fault (Value × Value) :=
  match proxy.getString "tag" with
  | none => .error (.error ("ping proxy " ++ toString index ++ " has no tag"))
  | some proxyTag =>
      let inboundTag := "socks-in-" ++ toString index
      .ok
        (.ofFields
          [("tag", .string inboundTag), ("listen", .string "127.0.0.1"),
            ("port", .nat port), ("protocol", .string "socks"),
            ("settings", .ofFields [("udp", .bool false), ("auth", .string "noauth")])],
          .ofFields
            [("type", .string "field"), ("inboundTag", .strings [inboundTag]),
              ("network", .string "tcp,udp"), ("outboundTag", .string proxyTag)])

/-- The config that measures every proxy of a location through an inbound of its
own. -/
def pingConfig (plan : OutboundPlan) (socksPorts : List Nat) : Except Fault Value :=
  if socksPorts.length ≠ plan.proxies.length then
    .error (.error ("ping config needs " ++ toString plan.proxies.length ++
      " SOCKS ports, got " ++ toString socksPorts.length))
  else
    match (plan.proxies.zip socksPorts).zipIdx.mapM fun ((proxy, port), index) =>
        pingParts index proxy port with
    | .error fault => .error fault
    | .ok parts =>
        .ok (.ofFields
          [("log", .ofFields [("loglevel", .string "warning")]),
            ("inbounds", .array (parts.map Prod.fst)),
            ("outbounds", .array (probeOutbounds plan.proxies)),
            ("routing", .ofFields [("rules", .array (parts.map Prod.snd))])])

def buildPingConfig (parseJson : JsonParser) (order : HashOrder) (server : VlessServer)
    (socksPorts : List Nat) : Except Fault Value :=
  match outboundPlan parseJson order server with
  | .error fault => .error fault
  | .ok plan => pingConfig plan socksPorts

/-- What the client asks a tunnel for. -/
def TunnelOptions.requested (split : SplitInput) (mode : String) (allowLan : Bool)
    (mtu : Nat) : TunnelOptions where
  split
  mode
  tun := .xrayNative
  allowLan
  logLevel := "warning"
  mtu

/-- The text of the tunnel config of a location that passes its check.  The check and
the generation each ask for a first element of a `HashSet`. -/
def generateXrayConfig (urls : UrlParser) (parseJson : JsonParser)
    (checkOrder order : HashOrder) (server : VlessServer) (split : SplitInput)
    (mode : String) (allowLan : Bool) (mtu : Nat) : Except Fault String :=
  match validateServer parseJson checkOrder server with
  | .error fault => .error fault
  | .ok () =>
      match buildXrayConfig urls parseJson order server
          (.requested split mode allowLan mtu) with
      | .error fault => .error fault
      | .ok config => .ok config.toPrettyText

end Varmlen.Core
