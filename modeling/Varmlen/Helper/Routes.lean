import Varmlen.Foundation.Ip
import Varmlen.Foundation.Routing
import Varmlen.Foundation.Script
import Varmlen.Foundation.Text

/-!
# Routing of the tunnel

What `helper/src/main.rs` lays for the tunnel and how it takes it back: `route_up` with its
rollback, and `route_down`.  The machine is its rules, its routes and the files that the
helper reads and writes.
-/

namespace Varmlen.Helper

open Foundation Foundation.Effect Foundation.Ip Foundation.Routing Foundation.Text

def tunIface : String := "varmlen0"

def tunAddr : String := "172.19.0.1/30"

/-- The marks, as `{mark:#x}` prints them. -/
def xrayDialMark : String := "0x2024"

def bypassMark : String := "0x2025"

def dnsMark : String := "0x2023"

def dnsTable : String := "101"

def physTable : String := "100"

def rpState : String := "/run/varmlen/rp_filter_all.orig"

def serversState : String := "/run/varmlen/servers"

def servers6State : String := "/run/varmlen/servers6"

def bypassPinsState : String := "/run/varmlen/bypass_pins"

def rpAll : String := "/proc/sys/net/ipv4/conf/all/rp_filter"

/-! ## The machine -/

structure Machine where
  network : Network
  files : String → Option String
  /-- The table of the per-app bypass is there. -/
  bypass : Bool
  /-- The steps that may fail and do not; the one after them fails. -/
  remaining : Nat

/-- What the helper finds. -/
structure Surroundings where
  /-- What `ip -4 route show default` prints, and `ip -6 route show default`. -/
  defaults : String
  defaults6 : Option String
  tunExists : Bool
  /-- What a step that fails complains about. -/
  complaint : String

namespace Machine

def write (path text : String) (machine : Machine) : Machine :=
  { machine with
    files := fun other => if other = path then some text else machine.files other }

def remove (path : String) (machine : Machine) : Machine :=
  { machine with files := fun other => if other = path then none else machine.files other }

def quietly (commands : List (List String)) (machine : Machine) : Machine :=
  { machine with network := commands.foldl runQuiet machine.network }

end Machine

/-! ## The physical default route -/

/-- The word after the first occurrence of a word. -/
def after (word : String) (words : List String) : Option String :=
  words[words.idxOf word + 1]?

/-- The lines that are not about the tunnel, as their words. -/
def physicalLines (output : String) : List (List String) :=
  ((lines output).filter fun line => !contains line ("dev " ++ tunIface)).map splitWhitespace

/-- The gateway, which some links do not have, and the interface. -/
def detectDefaultRoute (output : String) : Except String (Option String × String) :=
  match (physicalLines output).findSome? fun words =>
      (after "dev" words).map fun iface => (after "via" words, iface) with
  | some found => .ok found
  | none => .error "no physical default route found"

def detectDefaultRoute6 (output : Option String) : Option (String × String) := do
  (physicalLines (← output)).findSome? fun words => do
    return (← after "via" words, ← after "dev" words)

/-! ## Steps -/

inductive Action where
  /-- `ip_req`. -/
  | required (arguments : List String)
  /-- `ip_quiet`. -/
  | quiet (arguments : List String)
  | writeState (path text : String)
  | saveRpFilter
  | writeFile (path text : String)
  /-- `bypass_up` and what follows it. -/
  | armBypass
  deriving DecidableEq

def perform (complaint : String) : Action → Machine → Except String Unit × Machine
  | .required arguments, machine =>
      match machine.remaining, run arguments machine.network with
      | remaining + 1, some network => (.ok (), { machine with network, remaining })
      | _, _ =>
          (.error ("ip " ++ " ".intercalate arguments ++ ": " ++ trim complaint), machine)
  | .quiet arguments, machine => (.ok (), machine.quietly [arguments])
  | .writeState path text, machine => (.ok (), machine.write path text)
  | .saveRpFilter, machine =>
      (.ok (), machine.write rpState (trim ((machine.files rpAll).getD "")))
  | .writeFile path text, machine =>
      match machine.remaining with
      | remaining + 1 => (.ok (), { machine.write path text with remaining })
      | 0 => (.error ("write " ++ path ++ ": " ++ complaint), machine)
  | .armBypass, machine =>
      match machine.remaining with
      | remaining + 1 => (.ok (), { machine with bypass := true, remaining })
      | 0 =>
          (.error ("per-app bypass setup failed (" ++ complaint ++
            "); turn off app exclusions to connect without it"), machine)

def ensureTun (tunExists : Bool) : List Action :=
  (if tunExists then [] else [.quiet ["tuntap", "add", "dev", tunIface, "mode", "tun"]]) ++
    [.quiet ["addr", "replace", tunAddr, "dev", tunIface],
      .required ["link", "set", tunIface, "up"]]

def setRpFilterLoose : List Action := [.saveRpFilter, .writeFile rpAll "2"]

def addRuleFwmark (family mark table : String) : List Action :=
  [.quiet [family, "rule", "del", "fwmark", mark, "lookup", table],
    .required [family, "rule", "add", "fwmark", mark, "lookup", table]]

def dnsPolicyRoute : List String :=
  ["route", "replace", "default", "dev", tunIface, "table", dnsTable]

def dnsPolicyRule (verb : String) : List String :=
  ["rule", verb, "priority", "90", "fwmark", dnsMark, "lookup", dnsTable]

def installDnsPolicyRoute : List Action :=
  [.required dnsPolicyRoute, .quiet (dnsPolicyRule "del"), .required (dnsPolicyRule "add")]

def dnsPolicyTeardownCommands : List (List String) :=
  [dnsPolicyRule "del", ["route", "flush", "table", dnsTable]]

/-! ## `route_up` -/

def viaWords : Option String → List String
  | some gateway => ["via", gateway]
  | none => []

def localNetworks : List String :=
  ["10.0.0.0/8", "172.16.0.0/12", "192.168.0.0/16", "169.254.0.0/16", "100.64.0.0/10",
    "224.0.0.0/4", "255.255.255.255/32"]

def localNetworks6 : List String := ["fe80::/10", "fc00::/7", "ff00::/8"]

/-- Steps 1 to 3: the device, and the table that leads around it. -/
def physicalPath (around : Surroundings) (gateway : Option String) (iface : String) :
    List Action :=
  ensureTun around.tunExists ++ installDnsPolicyRoute ++ setRpFilterLoose ++
    [.required (["route", "replace", "default"] ++ viaWords gateway ++
      ["dev", iface, "table", physTable])] ++
    (localNetworks.map fun net =>
      .required ["route", "replace", "throw", net, "table", physTable]) ++
    addRuleFwmark "-4" xrayDialMark physTable ++ addRuleFwmark "-4" bypassMark physTable ++
    match detectDefaultRoute6 around.defaults6 with
    | none => []
    | some (gateway6, iface6) =>
        [.required ["-6", "route", "replace", "default", "via", gateway6, "dev", iface6,
          "table", physTable]] ++
        (localNetworks6.map fun net =>
          .required ["-6", "route", "replace", "throw", net, "table", physTable]) ++
        addRuleFwmark "-6" xrayDialMark physTable ++ addRuleFwmark "-6" bypassMark physTable

def ipv4Servers : List IpAddr → List Ipv4Addr :=
  List.filterMap fun
    | .v4 address => some address
    | .v6 _ => none

def ipv6Servers : List IpAddr → List Ipv6Addr :=
  List.filterMap fun
    | .v4 _ => none
    | .v6 address => some address

def serverRoute (gateway : Option String) (iface : String) (address : Ipv4Addr) :
    List String :=
  ["route", "replace", toText (.v4 address) ++ "/32"] ++ viaWords gateway ++ ["dev", iface]

def serverRoute6 (gateway6 iface6 : String) (address : Ipv6Addr) : List String :=
  ["-6", "route", "replace", toText (.v6 address) ++ "/128", "via", gateway6, "dev", iface6]

/-- A state file holds the addresses, each on a line of its own. -/
def serverLines (addresses : List IpAddr) : String :=
  String.join (addresses.map fun address => toText address ++ "\n")

/-- The IPv6 servers that get a route, which takes a default route to follow. -/
def routedServers6 (around : Surroundings) (servers : List IpAddr) :
    List (Ipv6Addr × List String) :=
  match detectDefaultRoute6 around.defaults6 with
  | none => []
  | some (gateway6, iface6) =>
      (ipv6Servers servers).map fun address => (address, serverRoute6 gateway6 iface6 address)

/-- Steps 4b and 5: the applications that bypass the tunnel, then everything into it. -/
def intoTunnel (bypassCgroup : Option String) : List Action :=
  (if bypassCgroup.isSome then [.armBypass] else []) ++
    [.required ["route", "replace", "0.0.0.0/1", "dev", tunIface],
      .required ["route", "replace", "128.0.0.0/1", "dev", tunIface]]

def routeUpActions (around : Surroundings) (gateway : Option String) (iface : String)
    (servers : List IpAddr) (bypassCgroup : Option String) : List Action :=
  -- A loop's lines reach the state file after its last route.
  physicalPath around gateway iface ++
    ((ipv4Servers servers).map fun address => .required (serverRoute gateway iface address)) ++
    .writeState serversState (serverLines ((ipv4Servers servers).map .v4)) ::
      (intoTunnel bypassCgroup ++
        ((routedServers6 around servers).map fun server => .required server.2) ++
        .writeState servers6State
            (serverLines ((routedServers6 around servers).map fun server => .v6 server.1)) ::
          [.required ["-6", "route", "replace", "blackhole", "::/1"],
            .required ["-6", "route", "replace", "blackhole", "8000::/1"]])

/-! ## `route_down` -/

/-- The addresses in a state file; none if it is not there. -/
def recorded (files : String → Option String) (path : String) : List String :=
  ((lines ((files path).getD "")).filter fun line => trim line != "").map trim

/-- Take back what the lines of a state file tell and remove the file. -/
def undoState (path : String) (undo : String → List String) (machine : Machine) : Machine :=
  (machine.quietly ((recorded machine.files path).map undo)).remove path

/-- Delete rules with a mark, at most so many, up to the first failure. -/
def deleteRules (family mark : String) : Nat → Network → Network
  | 0, network => network
  | attempts + 1, network =>
      match run [family, "rule", "del", "fwmark", mark] network with
      | some network => deleteRules family mark attempts network
      | none => network

def deleteMarkRules (network : Network) : Network :=
  [xrayDialMark, bypassMark].foldl (fun network mark =>
    ["-4", "-6"].foldl (fun network family => deleteRules family mark 4 network) network)
    network

def deletePin (ip : String) : List String :=
  if contains ip ":" then ["-6", "route", "del", ip ++ "/128"]
  else ["route", "del", ip ++ "/32"]

def restoreRpFilter (machine : Machine) : Machine :=
  match machine.files rpState with
  | none => machine
  | some orig =>
      (if trim orig != "" then machine.write rpAll (trim orig) else machine).remove rpState

def routeDown (keepBypass : Bool) (machine : Machine) : Machine :=
  let machine := machine.quietly ([
    ["route", "del", "0.0.0.0/1", "dev", tunIface],
    ["route", "del", "128.0.0.0/1", "dev", tunIface]] ++
    dnsPolicyTeardownCommands ++
    [["-6", "route", "del", "::/1"], ["-6", "route", "del", "8000::/1"]])
  let machine := undoState servers6State
    (fun ip => ["-6", "route", "del", ip ++ "/128"]) machine
  let machine := { machine with network := deleteMarkRules machine.network }
  let machine :=
    if keepBypass then machine
    else undoState bypassPinsState deletePin { machine with bypass := false }
  let machine := machine.quietly [["route", "flush", "table", physTable],
    ["-6", "route", "flush", "table", physTable]]
  let machine := undoState serversState (fun ip => ["route", "del", ip ++ "/32"]) machine
  restoreRpFilter machine

/-- Lay the routing of the tunnel, and take everything back when that fails. -/
def routeUp (around : Surroundings) (servers : List IpAddr) (bypassCgroup : Option String)
    (machine : Machine) : Except String Unit × Machine :=
  match detectDefaultRoute around.defaults with
  | .error error => (.error error, machine)
  | .ok (gateway, iface) =>
      match Script.run (perform around.complaint)
          (routeUpActions around gateway iface servers bypassCgroup) machine with
      | (.error error, machine) => (.error error, routeDown false machine)
      | done => done

end Varmlen.Helper
