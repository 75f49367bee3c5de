import Varmlen.Daemon.Protocol
import Varmlen.Foundation.JsonText
import Varmlen.Foundation.Text

/-!
# Checks of Xray documents

What the privileged daemon checks of the documents a client sends before it runs
Xray with them (`daemon/src/system.rs`).
-/

namespace Varmlen.Daemon

open Foundation.Json Foundation.Text

def maxServerIps : Nat := 64

def tunInterface : String := "varmlen0"

def proxyPort : Nat := 2081

def xrayDialMark : Nat := 0x2024

def invalidRequest (message : String) : DaemonError := ⟨.invalidRequest, message⟩

/-! ## Single checks -/

section Checks

variable {α : Type}

/-- Fail with the message unless the condition holds. -/
def require (condition : Bool) (message : String) : Except DaemonError Unit :=
  if condition then .ok () else .error (invalidRequest message)

/-- Fail with the message unless there is a value. -/
def expected (value : Option α) (message : String) : Except DaemonError α :=
  match value with
  | some value => .ok value
  | none => .error (invalidRequest message)

end Checks

/-- The document in a text; `what` starts the message when there is none. -/
def parseDocument (read : JsonReader) (what raw : String) : Except DaemonError Value :=
  match read raw with
  | .ok document => .ok document
  | .error error => .error (invalidRequest (what ++ error))

mutual

def containsForbiddenFileKey : Value → Bool
  | .object fields => fieldsContainForbiddenFileKey fields
  | .array items => itemsContainForbiddenFileKey items
  | _ => false

def fieldsContainForbiddenFileKey : List (String × Value) → Bool
  | [] => false
  | (key, value) :: rest =>
      ["certificateFile", "keyFile", "certificatePath", "keyPath"].contains key ||
        containsForbiddenFileKey value || fieldsContainForbiddenFileKey rest

def itemsContainForbiddenFileKey : List Value → Bool
  | [] => false
  | value :: rest => containsForbiddenFileKey value || itemsContainForbiddenFileKey rest

end

/-- The protocols of proxy outbounds, as they are written. -/
def isProxyProtocol (protocol : String) : Bool :=
  ["http", "socks", "shadowsocks", "vmess", "vless", "trojan", "hysteria",
    "wireguard"].contains protocol

/-- An outbound with a proxy protocol. -/
def isProxy (outbound : Value) : Bool :=
  (outbound.getString "protocol").any isProxyProtocol

/-! ## The tunnel document -/

def tunnelSections : List String :=
  ["log", "dns", "inbounds", "outbounds", "routing", "observatory", "burstObservatory"]

def inboundByTag (inbounds : List Value) (tag protocol : String) :
    Except DaemonError Value :=
  expected
    (inbounds.find? fun inbound =>
      inbound.getString "tag" == some tag && inbound.getString "protocol" == some protocol)
    ("required Xray inbound " ++ tag ++ " is missing")

/-- The data inbound is the tunnel device, or listens on the loopback only. -/
def checkDataInbound (expectsTun : Bool) (data : Value) : Except DaemonError Unit :=
  if expectsTun then
    require ((data.pointer ["settings", "name"]).bind Value.asString == some tunInterface)
      "Xray TUN interface name is not permitted"
  else
    require
      (data.getString "listen" == some "127.0.0.1" &&
        (data.get "port").bind Value.asU64 == some proxyPort)
      "Xray SOCKS inbound must remain loopback-only"

/-- Every outbound has a tag of its own, different from the ones seen. -/
def validTags : (seen : List String) → List Value → Bool
  | _, [] => true
  | seen, outbound :: rest =>
      match outbound.getString "tag" with
      | some tag => tag != "" && !seen.contains tag && validTags (tag :: seen) rest
      | none => false

def requiredSystemOutbounds : List (String × String) :=
  [("direct", "freedom"), ("dns-out", "dns"), ("block", "blackhole")]

/-- Proxies and the three system outbounds, each of these once. -/
def outboundSetPermitted (outbounds : List Value) : Bool :=
  let proxyCount := outbounds.countP isProxy
  let systemOutboundsAreExact := requiredSystemOutbounds.all fun (tag, protocol) =>
    outbounds.countP (fun outbound =>
      outbound.getString "tag" == some tag &&
        outbound.getString "protocol" == some protocol) == 1
  validTags [] outbounds && (1 ≤ proxyCount && proxyCount ≤ maxServerIps) &&
    outbounds.length == proxyCount + requiredSystemOutbounds.length &&
    systemOutboundsAreExact

def validateXrayDocument (read : JsonReader) (raw : String) (expectsTun : Bool) :
    Except DaemonError Unit := do
  let document ← parseDocument read "invalid generated Xray JSON: " raw
  let object ← expected document.asObject "Xray configuration must be an object"
  require (object.all fun field => tunnelSections.contains field.1)
    "Xray configuration contains an unsupported privileged section"
  let log ← expected ((object.get "log").bind Value.asObject) "Xray log section is missing"
  require (log.all fun field => field.1 == "loglevel") "Xray file logging is not permitted"
  let inbounds ← expected ((object.get "inbounds").bind Value.asArray)
    "Xray inbounds are missing"
  require (inbounds.length == 1) "Xray must contain exactly one data inbound"
  let data ← inboundByTag inbounds (if expectsTun then "tun-in" else "socks-in")
    (if expectsTun then "tun" else "socks")
  checkDataInbound expectsTun data
  let outbounds ← expected ((object.get "outbounds").bind Value.asArray)
    "Xray outbounds are missing"
  require (outboundSetPermitted outbounds) "Xray outbound set is not permitted"
  require
    (((object.get "dns").bind Value.asObject).isSome &&
      ((object.get "routing").bind Value.asObject).isSome)
    "Xray DNS or routing section is missing"
  require (!containsForbiddenFileKey document)
    "Xray configuration may not reference privileged files"

/-! ## The probe document -/

def pingSections : List String :=
  ["log", "inbounds", "outbounds", "routing", "observatory", "burstObservatory"]

def validationConfigPorts (read : JsonReader) (raw : String) :
    Except DaemonError (List Nat) := do
  let document ← parseDocument read "invalid validation Xray JSON: " raw
  let inbounds ← expected
    (((document.get "inbounds").bind Value.asArray).filter fun inbounds =>
      1 ≤ inbounds.length && inbounds.length ≤ maxServerIps)
    "validation config must contain between one and 64 loopback inbounds"
  inbounds.mapM fun inbound =>
    expected
      (((inbound.get "port").bind Value.asU64).filter fun port =>
        port < 2 ^ 16 && 1024 ≤ port)
      "validation config contains an invalid port"

/-- The tag of a probe's inbound at its place, once everything about it is checked. -/
def pingInboundTag (portCount index : Nat) (inbound : Value) (port : Nat) :
    Except DaemonError String :=
  let permitted (tag : String) : Bool :=
    (portCount == 1 && tag == "socks-in" || tag == "socks-in-" ++ toString index) &&
      inbound.getString "protocol" == some "socks" &&
      inbound.getString "listen" == some "127.0.0.1" &&
      (inbound.get "port").bind Value.asU64 == some port &&
      (inbound.pointer ["settings", "auth"]).bind Value.asString == some "noauth" &&
      (inbound.pointer ["settings", "udp"]).bind Value.asBool == some false
  expected ((inbound.getString "tag").filter permitted)
    "ping Xray SOCKS inbound must be loopback-only on the requested port"

/-- The tags of a probe's inbounds, from `index` on. -/
def pingInboundTags (portCount : Nat) : (index : Nat) → List (Value × Nat) →
    Except DaemonError (List String)
  | _, [] => .ok []
  | index, (inbound, port) :: rest => do
      let tag ← pingInboundTag portCount index inbound port
      let tags ← pingInboundTags portCount (index + 1) rest
      .ok (tag :: tags)

/-- Direct egress stands last, after one to 64 others. -/
def pingOutboundsPermitted (outbounds : List Value) : Bool :=
  (2 ≤ outbounds.length && outbounds.length ≤ maxServerIps + 1) &&
    (outbounds.getLast?.bind (·.getString "tag")) == some "direct" &&
    (outbounds.getLast?.bind (·.getString "protocol")) == some "freedom"

/-- The outbound dials past the tunnel; WireGuard does so by itself. -/
def isMarked (outbound : Value) : Bool :=
  outbound.getString "protocol" == some "wireguard" ||
    (outbound.pointer ["streamSettings", "sockopt", "mark"]).bind Value.asU64 ==
      some xrayDialMark

/-- The tags of a probe's proxies, added to the ones seen. -/
def pingProxyTags : (seen : List String) → List Value → Except DaemonError (List String)
  | seen, [] => .ok seen
  | seen, outbound :: rest => do
      let tag ← expected
        ((outbound.getString "tag").filter fun tag =>
          isProxy outbound && tag != "" && !seen.contains tag && isMarked outbound)
        "ping Xray proxy outbound or bypass mark is not permitted"
      pingProxyTags (tag :: seen) rest

/-- Some selector is the start of a proxy's tag. -/
def selectsProxy (proxyTags : List String) (selectors : List Value) : Bool :=
  (selectors.filterMap Value.asString).any fun selector =>
    proxyTags.any fun tag => startsWith tag selector

/-- The tags of a probe's balancers, added to the ones seen. -/
def pingBalancerTags (proxyTags : List String) : (seen : List String) → List Value →
    Except DaemonError (List String)
  | seen, [] => .ok seen
  | seen, balancer :: rest => do
      let tag ← expected ((balancer.getString "tag").filter fun tag => tag != "")
        "ping Xray balancer tag is missing"
      let selectors ← expected ((balancer.get "selector").bind Value.asArray)
        "ping Xray balancer selector is missing"
      require (!seen.contains tag && !selectors.isEmpty && selectsProxy proxyTags selectors)
        "ping Xray balancer does not select a proxy"
      pingBalancerTags proxyTags (tag :: seen) rest

/-- The tags of the balancers in a probe's routing; none when there is no section. -/
def pingBalancers (proxyTags : List String) (balancers : Option Value) :
    Except DaemonError (List String) :=
  match balancers with
  | none => .ok []
  | some balancers => do
      let items ← expected balancers.asArray "ping Xray balancers must be an array"
      require (items.length ≤ maxServerIps) "ping Xray has too many balancers"
      pingBalancerTags proxyTags [] items

/-- The rule sends everything of its inbound to a proxy or to a balancer. -/
def ruleMeasures (portCount : Nat) (inboundTag : String)
    (proxyTags balancerTags : List String) (rule : Value) : Bool :=
  let targetIsProxy := (rule.getString "outboundTag").any proxyTags.contains
  let targetIsBalancer := (rule.getString "balancerTag").any balancerTags.contains
  let inboundMatches :=
    match rule.get "inboundTag" with
    | some (.array [tag]) => tag.asString == some inboundTag
    | some _ => false
    | none => portCount == 1
  rule.getString "type" == some "field" && rule.getString "network" == some "tcp,udp" &&
    inboundMatches && targetIsProxy != targetIsBalancer

def validatePingXrayDocument (read : JsonReader) (raw : String) (socksPorts : List Nat) :
    Except DaemonError Unit := do
  let document ← parseDocument read "invalid ping Xray JSON: " raw
  let object ← expected document.asObject "ping Xray configuration must be an object"
  require (object.all fun field => pingSections.contains field.1)
    "ping Xray configuration contains an unsupported privileged section"
  let log ← expected ((object.get "log").bind Value.asObject) "ping Xray log is missing"
  require (log.all fun field => field.1 == "loglevel")
    "ping Xray file logging is not permitted"
  let inbounds ← expected ((object.get "inbounds").bind Value.asArray)
    "ping Xray inbound is missing"
  require (inbounds.length == socksPorts.length)
    "ping Xray must contain one inbound per requested port"
  let inboundTags ← pingInboundTags socksPorts.length 0 (inbounds.zip socksPorts)
  let outbounds ← expected ((object.get "outbounds").bind Value.asArray)
    "ping Xray outbounds are missing"
  require (pingOutboundsPermitted outbounds)
    "ping Xray outbound set or bypass mark is not permitted"
  let proxyTags ← pingProxyTags [] outbounds.dropLast
  let routing ← expected ((document.get "routing").bind Value.asObject)
    "ping Xray routing section is missing"
  require (routing.all fun field => ["rules", "balancers"].contains field.1)
    "ping Xray routing contains unsupported policy"
  let balancerTags ← pingBalancers proxyTags (routing.get "balancers")
  let rules ← expected ((routing.get "rules").bind Value.asArray)
    "ping Xray routing rule is missing"
  require (rules.length == socksPorts.length)
    "ping Xray must contain one routing rule per requested port"
  require
    ((rules.zip inboundTags).all fun (rule, inboundTag) =>
      ruleMeasures socksPorts.length inboundTag proxyTags balancerTags rule)
    "ping Xray must route every request through its measured server"
  require (!containsForbiddenFileKey document)
    "ping Xray configuration may not reference privileged files"

end Varmlen.Daemon
