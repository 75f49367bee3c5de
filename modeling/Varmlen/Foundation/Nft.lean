import Mathlib.Data.List.Basic
import Varmlen.Foundation.Ip

/-!
# Packet filter chains

The part of the nftables language that output filters need: conditions on a packet,
rules with an action, and chains that are run rule by rule.  A rule acts when all its
conditions hold.  A verdict ends the chain, `return` leaves the decision to the policy
of a base chain, and setting a mark or logging goes on with the next rule.
-/

namespace Foundation.Nft

open Foundation.Ip

inductive CtState where
  | new
  | established
  | related
  | invalid
  deriving DecidableEq, Repr

inductive CtDirection where
  | original
  | reply
  deriving DecidableEq, Repr

/-- The transport of a packet, with its destination port. -/
inductive Transport where
  | udp (dport : Nat)
  | tcp (dport : Nat)
  | other
  deriving DecidableEq, Repr

abbrev Mark := BitVec 32

/-- A packet on its way out. -/
structure Packet where
  oifname : String
  daddr : IpAddr
  /-- Whether the destination is an address of the machine itself. -/
  toLocal : Bool
  transport : Transport
  mark : Mark
  ctMark : Mark
  ctState : CtState
  ctDirection : CtDirection
  deriving DecidableEq, Repr

/-- The lower half of a mark. -/
def lowBits (mark : Mark) : Mark := mark &&& 0x0000ffff

/-- Blocks of addresses.  A block covers addresses of its own family. -/
abbrev Ipv4Block := Ipv4Addr × Nat

abbrev Ipv6Block := Ipv6Addr × Nat

def coversV4 (block : Ipv4Block) (address : Ipv4Addr) : Bool :=
  block.1.toNat / 2 ^ (32 - block.2) == address.toNat / 2 ^ (32 - block.2)

def coversV6 (block : Ipv6Block) (address : Ipv6Addr) : Bool :=
  block.1.toNat / 2 ^ (128 - block.2) == address.toNat / 2 ^ (128 - block.2)

/-- A block as long as an address covers that address alone. -/
theorem coversV4_single (base address : Ipv4Addr) :
    coversV4 (base, 32) address = true ↔ address = base := by
  rw [coversV4, Nat.sub_self, Nat.pow_zero, Nat.div_one, Nat.div_one, beq_iff_eq,
    Ipv4Addr.toNat_injective.eq_iff, eq_comm]

theorem coversV6_single (base address : Ipv6Addr) :
    coversV6 (base, 128) address = true ↔ address = base := by
  rw [coversV6, Nat.sub_self, Nat.pow_zero, Nat.div_one, Nat.div_one, beq_iff_eq,
    Ipv6Addr.toNat_injective.eq_iff, eq_comm]

/-- What a rule asks of a packet. -/
inductive Condition where
  | oifname (name : String)
  | ctState (states : List CtState)
  | ctDirection (direction : CtDirection)
  | fibDaddrLocal
  /-- The lower half of the packet's mark is the value, or is not. -/
  | metaMark (equal : Bool) (value : Mark)
  | ctMark (value : Mark)
  | ipDaddr (blocks : List Ipv4Block)
  | ip6Daddr (blocks : List Ipv6Block)
  | udpDport (port : Nat)
  | tcpDport (port : Nat)
  deriving DecidableEq, Repr

def Condition.holds (packet : Packet) : Condition → Bool
  | .oifname name => packet.oifname == name
  | .ctState states => states.contains packet.ctState
  | .ctDirection direction => packet.ctDirection == direction
  | .fibDaddrLocal => packet.toLocal
  | .metaMark equal value => (lowBits packet.mark == value) == equal
  | .ctMark value => lowBits packet.ctMark == value
  | .ipDaddr blocks =>
      match packet.daddr with
      | .v4 address => blocks.any (coversV4 · address)
      | .v6 _ => false
  | .ip6Daddr blocks =>
      match packet.daddr with
      | .v4 _ => false
      | .v6 address => blocks.any (coversV6 · address)
  | .udpDport port => packet.transport == .udp port
  | .tcpDport port => packet.transport == .tcp port

inductive Verdict where
  | accept
  | drop
  | reject
  deriving DecidableEq, Repr

inductive Action where
  | verdict (decision : Verdict)
  | return
  /-- Set the packet's mark and save it with the connection. -/
  | setMark (value : Mark)
  | log (statement : String)
  deriving DecidableEq, Repr

structure Rule where
  conditions : List Condition
  action : Action
  deriving DecidableEq, Repr

def Rule.matchedBy (rule : Rule) (packet : Packet) : Bool :=
  rule.conditions.all (·.holds packet)

/-- A base chain. -/
structure Chain where
  policy : Verdict
  rules : List Rule
  deriving DecidableEq, Repr

/-- Run the rules over a packet: the verdict and the packet that is left. -/
def runRules (policy : Verdict) : List Rule → Packet → Verdict × Packet
  | [], packet => (policy, packet)
  | rule :: rest, packet =>
      if rule.matchedBy packet then
        match rule.action with
        | .verdict decision => (decision, packet)
        | .return => (policy, packet)
        | .setMark value => runRules policy rest { packet with mark := value, ctMark := value }
        | .log _ => runRules policy rest packet
      else runRules policy rest packet

def Chain.run (chain : Chain) (packet : Packet) : Verdict × Packet :=
  runRules chain.policy chain.rules packet

/-- A packet goes on to the next chain of a hook only when it is accepted. -/
def Chain.pass (chain : Chain) (packet : Packet) (next : Packet → Verdict) : Verdict :=
  match chain.run packet with
  | (.accept, left) => next left
  | (.drop, _) => .drop
  | (.reject, _) => .reject

/-- A packet that a chain does not accept is lost. -/
theorem Chain.pass_refused {chain : Chain} {packet : Packet} (next : Packet → Verdict)
    (refused : (chain.run packet).1 ≠ .accept) : chain.pass packet next ≠ .accept := by
  rw [Chain.pass]
  cases ran : chain.run packet with
  | mk verdict left =>
      rw [ran] at refused
      cases verdict with
      | accept => exact absurd rfl refused
      | drop => exact Verdict.noConfusion
      | reject => exact Verdict.noConfusion

/-! ## Groups of rules -/

section Groups

variable {policy verdict : Verdict} {rest : List Rule} {packet : Packet}

/-- A group of rules with one verdict decides about what any of them matches. -/
theorem runRules_group {group : List Rule}
    (same : ∀ rule ∈ group, rule.action = .verdict verdict) :
    runRules policy (group ++ rest) packet =
      if group.any (·.matchedBy packet) = true then (verdict, packet)
      else runRules policy rest packet := by
  induction group with
  | nil => rfl
  | cons rule group ih =>
      rw [List.forall_mem_cons] at same
      rw [List.cons_append, runRules, List.any_cons, ih same.2]
      cases rule.matchedBy packet with
      | true => rw [if_pos rfl, same.1, Bool.true_or, if_pos rfl]
      | false => rw [if_neg Bool.false_ne_true, Bool.false_or]

/-- Rules that do not match are passed over. -/
theorem runRules_unmatched {group : List Rule}
    (unmatched : ∀ rule ∈ group, rule.matchedBy packet = false) :
    runRules policy (group ++ rest) packet = runRules policy rest packet := by
  induction group with
  | nil => rfl
  | cons rule group ih =>
      rw [List.forall_mem_cons] at unmatched
      rw [List.cons_append, runRules, unmatched.1, if_neg Bool.false_ne_true, ih unmatched.2]

/-- Logging changes nothing. -/
theorem runRules_log {conditions : List Condition} {statement : String} :
    runRules policy (⟨conditions, .log statement⟩ :: rest) packet =
      runRules policy rest packet := by
  rw [runRules]
  split
  next => rfl
  next => rfl

end Groups

/-! ## Syntax -/

def hexMark (value : Mark) : String := "0x" ++ String.ofList (Nat.toDigits 16 value.toNat)

def CtState.text : CtState → String
  | .new => "new"
  | .established => "established"
  | .related => "related"
  | .invalid => "invalid"

def CtDirection.text : CtDirection → String
  | .original => "original"
  | .reply => "reply"

/-- A single address without a length, or with one. -/
def blockText (address : IpAddr) (prefixLen width : Nat) : String :=
  if prefixLen = width then toText address
  else toText address ++ "/" ++ toString prefixLen

/-- One block, or a set of them. -/
def blocksText : List String → String
  | [block] => block
  | blocks => "\x7b " ++ String.intercalate ", " blocks ++ " \x7d"

def Condition.text : Condition → String
  | .oifname name => "oifname \"" ++ name ++ "\""
  | .ctState states => "ct state " ++ String.intercalate "," (states.map CtState.text)
  | .ctDirection direction => "ct direction " ++ direction.text
  | .fibDaddrLocal => "fib daddr type local"
  | .metaMark equal value =>
      "meta mark & 0x0000ffff " ++ (if equal then "==" else "!=") ++ " " ++ hexMark value
  | .ctMark value => "ct mark & 0x0000ffff == " ++ hexMark value
  | .ipDaddr blocks =>
      "ip daddr " ++ blocksText (blocks.map fun (address, length) =>
        blockText (.v4 address) length 32)
  | .ip6Daddr blocks =>
      "ip6 daddr " ++ blocksText (blocks.map fun (address, length) =>
        blockText (.v6 address) length 128)
  | .udpDport port => "udp dport " ++ toString port
  | .tcpDport port => "tcp dport " ++ toString port

def Verdict.text : Verdict → String
  | .accept => "accept"
  | .drop => "drop"
  | .reject => "reject"

/-- An action, with a counter in front of a verdict where packets are counted. -/
def Action.text (counted : Bool) : Action → String
  | .verdict decision => (if counted then "counter " else "") ++ decision.text
  | .return => "return"
  | .setMark value => "meta mark set " ++ hexMark value ++ " ct mark set meta mark"
  | .log statement => statement

/-- A rule on a line of its own. -/
def Rule.line (counted : Bool) (rule : Rule) : String :=
  "    " ++ String.intercalate " "
    (rule.conditions.map Condition.text ++ [rule.action.text counted]) ++ "\n"

theorem blockText_whole (address : IpAddr) (width : Nat) :
    blockText address width width = toText address := by
  rw [blockText, if_pos rfl]

theorem ipDaddr_text (address : Ipv4Addr) :
    Condition.text (.ipDaddr [(address, 32)]) = "ip daddr " ++ toText (.v4 address) := by
  rw [← blockText_whole (.v4 address) 32]
  rfl

theorem ip6Daddr_text (address : Ipv6Addr) :
    Condition.text (.ip6Daddr [(address, 128)]) = "ip6 daddr " ++ toText (.v6 address) := by
  rw [← blockText_whole (.v6 address) 128]
  rfl

/-- A rule with one condition. -/
theorem Rule.line_single (counted : Bool) (condition : Condition) (action : Action) :
    Rule.line counted ⟨[condition], action⟩ =
      "    " ++ (condition.text ++ (" " ++ (action.text counted ++ "\n"))) := by
  rw [Rule.line, List.map_cons, List.map_nil, List.cons_append, List.nil_append,
    String.intercalate_cons_cons, String.intercalate_singleton]
  simp only [String.append_assoc]

/-- A base chain with its head. -/
def Chain.text (name head : String) (counted : Bool) (chain : Chain) : String :=
  "  chain " ++ name ++ " \x7b\n    " ++ head ++ " policy " ++ chain.policy.text ++ ";\n" ++
    String.join (chain.rules.map (Rule.line counted)) ++ "  \x7d\n"

/-- A table of chains that are texts already. -/
def tableText (name : String) (chains : List String) : String :=
  "table inet " ++ name ++ " \x7b\n" ++ String.join chains ++ "\x7d\n"

end Foundation.Nft
