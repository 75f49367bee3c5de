import Varmlen.Foundation.Hex
import Varmlen.Foundation.TextParts
import Varmlen.Foundation.Utf8Lossy
import Varmlen.Daemon.AppSelector
import Varmlen.Helper.KillSwitch

/-!
# Flows that are there already

When the tunnel comes up, the sockets that an excluded application already has are found in
the kernel's tables, and what they send is marked by rules for their peers
(`helper/src/main.rs`).  The group tag would not reach them: a socket keeps the group it was
made in.
-/

namespace Varmlen.Helper

open Foundation.Hex Foundation.Ip Foundation.Nft Foundation.Text Foundation.Utf8
open Varmlen.Daemon (PathBuf bypassMark lastComponent)

/-! ## Excluded processes -/

/-- A process name is cut by the kernel after this many bytes. -/
def commMax : Nat := 15

def lowerByte (byte : UInt8) : UInt8 := if 65 ≤ byte ∧ byte ≤ 90 then byte + 32 else byte

def idMatches (id comm exe exeBase arg0Base : String) : Bool :=
  if id = "" then false
  else if endsWith id "/" then exe != "" && startsWith exe id
  else if eqIgnoreAsciiCase comm id || eqIgnoreAsciiCase exeBase id || exe == id ||
      (arg0Base != "" && eqIgnoreAsciiCase arg0Base id) then true
  else
    let idBytes := encode id.toList
    let commBytes := encode comm.toList
    commMax < idBytes.length && commBytes.length == commMax &&
      (idBytes.take commMax).map lowerByte == commBytes.map lowerByte

/-- The name of the program in a command line, under either kind of path. -/
def arg0Basename (cmdline : List UInt8) : String :=
  lastComponent (fromUtf8Lossy (cmdline.takeWhile (· != 0)))

/-- An entry of `/proc`, as far as it can be read. -/
structure ProcEntry where
  name : String
  comm : Option String
  exe : Option String
  cmdline : Option (List UInt8)
  /-- What its descriptors are links to. -/
  fds : List (Option String)

namespace ProcEntry

def isProcess (entry : ProcEntry) : Bool := (parseUnsigned (2 ^ 32) entry.name).isSome

def matchesExcluded (excluded : List String) (entry : ProcEntry) : Bool :=
  excluded.any fun id =>
    idMatches id (trim (entry.comm.getD "")) (entry.exe.getD "")
      ((entry.exe.bind fun exe => (PathBuf.ofText exe).fileName).getD "")
      ((entry.cmdline.map arg0Basename).getD "")

end ProcEntry

/-- The number in the link of a socket, as it is written there. -/
def socketInode (link : String) : Option String :=
  (afterPrefix link "socket:[").bind fun rest =>
    (rest.toList.dropSuffix? [']']).map String.ofList

/-- The sockets that excluded processes have open. -/
def excludedInodes (excluded : List String) (entries : List ProcEntry) : List String :=
  (entries.filter fun entry => entry.isProcess && entry.matchesExcluded excluded).flatMap
    fun entry => entry.fds.filterMap fun link => link.bind socketInode

/-! ## The tables of the kernel -/

/-- The octets of a number, the lowest first. -/
def leBytes (word : Nat) : Fin 256 × Fin 256 × Fin 256 × Fin 256 :=
  (.ofNat 256 word, .ofNat 256 (word / 256), .ofNat 256 (word / 65536),
    .ofNat 256 (word / 16777216))

def hexToIpv4 (hex : List Char) : Option Ipv4Addr :=
  if hex.length ≠ 8 then none
  else
    (fromStrRadix 16 4294967296 hex).map fun word =>
      let (a, b, c, d) := leBytes word
      ⟨a, b, c, d⟩

def segment (high low : Fin 256) : Fin 65536 := .ofNat 65536 (high.val * 256 + low.val)

/-- Two segments of an address from a word of the table. -/
def wordSegments (hex : List Char) : Option (Fin 65536 × Fin 65536) :=
  (fromStrRadix 16 4294967296 (hex.take 8)).map fun word =>
    let (a, b, c, d) := leBytes word
    (segment a b, segment c d)

def hexToIpv6 (hex : List Char) : Option Ipv6Addr :=
  if hex.length ≠ 32 then none
  else do
    let (s0, s1) ← wordSegments hex
    let (s2, s3) ← wordSegments (hex.drop 8)
    let (s4, s5) ← wordSegments (hex.drop 16)
    let (s6, s7) ← wordSegments (hex.drop 24)
    return ⟨s0, s1, s2, s3, s4, s5, s6, s7⟩

/-! ## The pins -/

section Ordered

variable {α : Type} [DecidableEq α] (key : α → Nat) (x : α)

/-- Insert into a set that is kept in order. -/
def insertOrdered : List α → List α
  | [] => [x]
  | y :: rest =>
      if key x < key y then x :: y :: rest
      else if x = y then y :: rest
      else y :: insertOrdered rest

@[simp] theorem mem_insertOrdered {set : List α} {y : α} :
    y ∈ insertOrdered key x set ↔ y = x ∨ y ∈ set := by
  induction set with
  | nil => simp [insertOrdered]
  | cons first rest ih =>
      rw [insertOrdered]
      by_cases before : key x < key first
      · rw [if_pos before, List.mem_cons]
      · rw [if_neg before]
        by_cases same : x = first
        · rw [if_pos same, same, List.mem_cons]
          simp
        · rw [if_neg same, List.mem_cons, ih, List.mem_cons]
          exact or_left_comm

end Ordered

structure Pins where
  peers4 : List Ipv4Addr
  peers6 : List Ipv6Addr
  udpSports : List Nat
  deriving DecidableEq, Repr

namespace Pins

def empty : Pins := ⟨[], [], []⟩

def addPeer4 (address : Ipv4Addr) (pins : Pins) : Pins :=
  if address.isLoopback || address.isUnspecified then pins
  else { pins with peers4 := insertOrdered Ipv4Addr.toNat address pins.peers4 }

def addPeer6 (address : Ipv6Addr) (pins : Pins) : Pins :=
  if address.isLoopback || address.isUnspecified then pins
  else { pins with peers6 := insertOrdered Ipv6Addr.toNat address pins.peers6 }

def addSport (port : Nat) (pins : Pins) : Pins :=
  if port = 0 then pins else { pins with udpSports := insertOrdered id port pins.udpSports }

end Pins

/-- A port of the table, zero when it cannot be read. -/
def hexPort (text : String) : Nat := (fromStrRadix 16 65536 text.toList).getD 0

section Rows

variable (inodes : List String) (is6 isUdp : Bool)

/-- A row of a table: its peer, or the own port of a socket without a peer. -/
def pinRow (pins : Pins) (line : String) : Pins :=
  let cols := splitWhitespace line
  match cols[9]? with
  | none => pins
  | some inode =>
      if inode ∉ inodes then pins
      else
        match splitOnce ':' (cols.getD 2 "") with
        | none => pins
        | some (ipHex, portHex) =>
            if hexPort portHex = 0 then
              if isUdp then
                match splitOnce ':' (cols.getD 1 "") with
                | none => pins
                | some (_, localPort) => pins.addSport (hexPort localPort)
              else pins
            else if is6 then
              match hexToIpv6 ipHex.toList with
              | none => pins
              | some address => pins.addPeer6 address
            else
              match hexToIpv4 ipHex.toList with
              | none => pins
              | some address => pins.addPeer4 address

/-- A table, after its header. -/
def pinTable (content : Option String) (pins : Pins) : Pins :=
  match content with
  | none => pins
  | some content => ((lines content).drop 1).foldl (pinRow inodes is6 isUdp) pins

end Rows

/-- The tables under `/proc/net` that can be read. -/
structure ProcNet where
  tcp : Option String
  udp : Option String
  tcp6 : Option String
  udp6 : Option String

def existingPins (excluded : List String) (entries : List ProcEntry) (net : ProcNet) : Pins :=
  let inodes := excludedInodes excluded entries
  if inodes = [] then .empty
  else
    pinTable inodes true true net.udp6 (pinTable inodes true false net.tcp6
      (pinTable inodes false true net.udp (pinTable inodes false false net.tcp .empty)))

/-- A rule of the chain that marks. -/
def pinRule (condition : String) : String :=
  "add rule inet varmlen_bypass mangle " ++ condition ++ " meta mark set 0x2025\n"

def pinRulesBatch (pins : Pins) : String :=
  String.join (pins.peers4.map fun address => pinRule ("ip daddr " ++ toText (.v4 address))) ++
  String.join (pins.peers6.map fun address => pinRule ("ip6 daddr " ++ toText (.v6 address))) ++
  String.join (pins.udpSports.map fun port => pinRule ("udp sport " ++ toString port))

/-- The batch that is given to nft, if any. -/
def pinExistingExcludedFlows (excluded : List String) (entries : List ProcEntry)
    (net : ProcNet) : Option String :=
  let batch := pinRulesBatch (existingPins excluded entries net)
  if batch = "" then none else some batch

end Varmlen.Helper
