import Varmlen.Core.Config

/-!
# How Xray reads a config

The meaning of a generated config as far as routing goes: which rule decides about
a connection, where that rule sends it, and which outbounds a target may end at.
A selector that Xray could not read matches nothing here; Xray refuses such a
config altogether.
-/

namespace Varmlen.Core

open Foundation.Ip Foundation.Json Foundation.Text

inductive Network where
  | tcp
  | udp
  deriving DecidableEq, Repr

def Network.name : Network → String
  | .tcp => "tcp"
  | .udp => "udp"

/-- A connection to an address, with everything that rules may ask about it. -/
structure Connection where
  inboundTag : Option String
  process : Option String
  /-- The domain that was sniffed. -/
  domain : Option String
  network : Network
  ip : IpAddr
  port : Nat
  source : Option IpAddr
  sourcePort : Option Nat
  user : Option String
  /-- The application protocol that was sniffed. -/
  protocol : Option String
  /-- Whether the connection has the attributes that an `attrs` selector asks for. -/
  attrs : Value → Bool

/-! ## Selectors -/

/-- A list of texts: an array, or one text with commas. -/
def stringList : Value → Option (List String)
  | .string text => some (split ',' text)
  | .array items => items.mapM Value.asString
  | _ => none

/-- Some text of a list satisfies the test.  An empty list asks for nothing. -/
def listSelects (test : String → Bool) (selector : Value) : Bool :=
  match stringList selector with
  | none => false
  | some [] => true
  | some texts => texts.any test

/-- A block given as a text covers the address. -/
def blockCovers (address : IpAddr) (text : String) : Bool :=
  (Cidr.parse text).any (·.contains address)

/-- A port or a range of ports. -/
def portRangeCovers (port : Nat) (text : String) : Bool :=
  match (split '-' text).map fun bound => parseUnsigned 65536 (trim bound) with
  | [some single] => port == single
  | [some first, some last] => decide (first ≤ port) && decide (port ≤ last)
  | _ => false

/-- A port number, or a text with ports and ranges. -/
def portSelects (port : Nat) : Value → Bool
  | .number (.int single) => decide (single = port)
  | .string ranges => (split ',' ranges).any (portRangeCovers port)
  | _ => false

/-- The domain selectors of generated rules: one host, or a domain with everything
below it. -/
def domainSelects (domain : String) (selector : String) : Bool :=
  match afterPrefix selector "full:", afterPrefix selector "domain:" with
  | some host, _ => domain == host
  | none, some suffix => domain == suffix || endsWith domain ("." ++ suffix)
  | none, none => false

/-- A test of something a connection may lack. -/
def onSome {α : Type} (value : Option α) (test : α → Value → Bool) (selector : Value) :
    Bool :=
  match value with
  | some value => test value selector
  | none => false

namespace Connection

/-- The selectors of a rule, each with its test of the connection. -/
def tests (connection : Connection) : List (String × (Value → Bool)) :=
  [("inboundTag", onSome connection.inboundTag fun tag => listSelects (tag == ·)),
    ("process", onSome connection.process fun name => listSelects (name == ·)),
    ("domain", onSome connection.domain fun domain => listSelects (domainSelects domain)),
    ("network",
      listSelects fun name => toAsciiLowercase name == connection.network.name),
    ("ip", listSelects (blockCovers connection.ip)),
    ("port", portSelects connection.port),
    ("source", onSome connection.source fun source => listSelects (blockCovers source)),
    ("sourcePort", onSome connection.sourcePort portSelects),
    ("user", onSome connection.user fun user => listSelects (user == ·)),
    ("protocol", onSome connection.protocol fun protocol =>
      listSelects (startsWith protocol)),
    ("attrs", connection.attrs)]

/-- The test of a selector; a selector that is missing holds of everything. -/
def selectorHolds (rule : Object) (key : String) (test : Value → Bool) : Bool :=
  match rule.get key with
  | none => true
  | some .null => true
  | some selector => test selector

/-- A rule matches a connection that all its selectors hold of. -/
def matchedBy (connection : Connection) (rule : Value) : Bool :=
  match rule.asObject with
  | none => false
  | some object =>
      connection.tests.all fun (key, test) => selectorHolds object key test

end Connection

/-! ## Targets -/

/-- Where a rule sends its connections.  An outbound goes before a balancer. -/
def ruleTarget (rule : Value) : Option ProxyTarget :=
  match (rule.getString "outboundTag").filter (· != "") with
  | some tag => some (.outbound tag)
  | none => (rule.getString "balancerTag").map .balancer

/-- The position of the rule that decides about a connection, which is the first
that matches it. -/
def decidingIndex (rules : List Value) (connection : Connection) : Option Nat :=
  rules.findIdx? connection.matchedBy

/-- Where the rules send a connection. -/
def route (rules : List Value) (connection : Connection) : Option ProxyTarget :=
  (rules.find? connection.matchedBy).bind ruleTarget

/-- The outbounds of a config. -/
def configOutbounds (config : Value) : List Value := config.getItems "outbounds"

/-- The balancers of a config. -/
def configBalancers (config : Value) : List Value :=
  ((config.get "routing").map (·.getItems "balancers")).getD []

/-- An outbound that speaks a proxy protocol. -/
def isProxyOutbound (outbound : Value) : Bool :=
  isProxyProtocol (toAsciiLowercase ((outbound.getString "protocol").getD ""))

def hasTag (tag : String) (value : Value) : Bool := value.getString "tag" == some tag

/-- Every outbound with the tag is a proxy, and there is one. -/
def namesProxy (outbounds : List Value) (tag : String) : Bool :=
  outbounds.any (hasTag tag) &&
    outbounds.all fun outbound => !hasTag tag outbound || isProxyOutbound outbound

/-- The selectors of a balancer: prefixes of outbound tags. -/
def balancerSelectors (balancer : Value) : List String :=
  (balancer.getItems "selector").filterMap Value.asString

/-- A balancer may pick the outbound. -/
def picks (balancer outbound : Value) : Bool :=
  (outbound.getString "tag").any fun tag =>
    (balancerSelectors balancer).any (startsWith tag)

/-- All that a balancer may pick is a proxy, and so is what it falls back to. -/
def picksOnlyProxies (outbounds : List Value) (balancer : Value) : Bool :=
  (outbounds.all fun outbound => !picks balancer outbound || isProxyOutbound outbound) &&
    (balancer.getString "fallbackTag").all (namesProxy outbounds)

/-- What is sent to the target of a config leaves through a proxy. -/
def staysOnProxies (config : Value) : ProxyTarget → Bool
  | .outbound tag => namesProxy (configOutbounds config) tag
  | .balancer tag =>
      (configBalancers config).any (hasTag tag) &&
        (configBalancers config).all fun balancer =>
          !hasTag tag balancer || picksOnlyProxies (configOutbounds config) balancer

end Varmlen.Core
