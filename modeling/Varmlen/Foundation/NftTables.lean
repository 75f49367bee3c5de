import Varmlen.Foundation.Nft

/-!
# Tables of packet filter chains

What `nft -f` does with a table block: tables and chains that are missing are created,
and rules are added at the end of the chains they are written in.  Rules are texts here.
-/

namespace Foundation.Nft

structure ChainBlock where
  name : String
  /-- What the chain is hooked to, without its policy. -/
  head : String
  rules : List String
  deriving DecidableEq, Repr

structure TableBlock where
  name : String
  chains : List ChainBlock
  deriving DecidableEq, Repr

def ChainBlock.text (chain : ChainBlock) : String :=
  "  chain " ++ chain.name ++ " \x7b\n    " ++ chain.head ++ " policy accept;\n" ++
    String.join (chain.rules.map fun rule => "    " ++ rule ++ "\n") ++ "  \x7d\n"

def TableBlock.text (block : TableBlock) : String :=
  tableText block.name (block.chains.map ChainBlock.text)

/-- A chain in place. -/
structure Installed where
  head : String
  rules : List String
  deriving DecidableEq, Repr

/-- The chains of a table, by name. -/
abbrev Table := String → Option Installed

/-- The tables in place, by name. -/
abbrev Tables := String → Option Table

def Table.addChain (table : Table) (chain : ChainBlock) : Table := fun name =>
  if name = chain.name then
    match table name with
    | some installed => some { installed with rules := installed.rules ++ chain.rules }
    | none => some ⟨chain.head, chain.rules⟩
  else table name

def Tables.addBlock (tables : Tables) (block : TableBlock) : Tables := fun name =>
  if name = block.name then
    some (block.chains.foldl Table.addChain ((tables name).getD fun _ => none))
  else tables name

/-! ## Rules in place -/

/-- The rules of a chain, none when it is missing. -/
def Table.rules (table : Table) (chain : String) : List String :=
  ((table chain).map Installed.rules).getD []

def Tables.rules (tables : Tables) (table chain : String) : List String :=
  ((tables table).map fun found => found.rules chain).getD []

/-- The rules that a block has for a chain. -/
def rulesFor (chains : List ChainBlock) (chain : String) : List String :=
  (chains.filter fun block => block.name == chain).flatMap ChainBlock.rules

theorem Table.rules_addChain (table : Table) (block : ChainBlock) (chain : String) :
    (table.addChain block).rules chain = table.rules chain ++ rulesFor [block] chain := by
  rw [Table.rules, Table.addChain]
  by_cases same : chain = block.name
  · subst same
    cases found : table block.name with
    | some installed => simp [Table.rules, found, rulesFor]
    | none => simp [Table.rules, found, rulesFor]
  · simp [Table.rules, rulesFor, same, Ne.symm same]

theorem Table.rules_addChains (table : Table) (blocks : List ChainBlock) (chain : String) :
    (blocks.foldl Table.addChain table).rules chain =
      table.rules chain ++ rulesFor blocks chain := by
  induction blocks generalizing table with
  | nil => simp [rulesFor]
  | cons block rest ih =>
      rw [List.foldl_cons, ih, rules_addChain, List.append_assoc, rulesFor, rulesFor, rulesFor,
        ← List.flatMap_append, ← List.filter_append, List.singleton_append]

/-- Applying a block adds its rules to the ones in place, whatever these are. -/
theorem Tables.rules_addBlock (tables : Tables) (block : TableBlock) (chain : String) :
    (tables.addBlock block).rules block.name chain =
      tables.rules block.name chain ++ rulesFor block.chains chain := by
  rw [Tables.rules, Tables.addBlock, if_pos rfl, Option.map_some, Option.getD_some,
    Table.rules_addChains, Tables.rules]
  cases tables block.name with
  | some table => rfl
  | none => rfl

end Foundation.Nft
