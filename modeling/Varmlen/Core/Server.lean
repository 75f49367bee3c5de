import Varmlen.Foundation.Ip
import Varmlen.Foundation.Json
import Varmlen.Foundation.Text

/-!
# Locations and split selections

The location a config is generated for (`core/src/subscription.rs`) and the
user's split selection (`core/src/split.rs`), with what the generators need from
outside the program.
-/

namespace Varmlen.Core

open Foundation.Json

/-- A location as the importers leave it. -/
structure VlessServer where
  id : String
  protocol : String
  uuid : String
  password : Option String
  method : Option String
  host : String
  port : Nat
  label : String
  transport : String
  security : String
  sni : Option String
  fingerprint : Option String
  publicKey : Option String
  shortId : Option String
  flow : Option String
  path : Option String
  mode : Option String
  packetEncoding : Option String
  rawParams : List (String × String)
  sourceJson : Option String
  rawOutbound : Option Value
  rawProfile : Option Value

namespace VlessServer

/-- A parameter of the share link. -/
def param (server : VlessServer) (key : String) : Option String :=
  server.rawParams.lookup key

/-- A section of the provider's profile. -/
def profileSection (server : VlessServer) (key : String) : Option Value :=
  server.rawProfile.bind (·.get key)

/-- A location with nothing but its endpoint and label. -/
def base (protocol host : String) (port : Nat) (label : String) : VlessServer where
  id := host ++ "_" ++ toString port
  protocol
  uuid := ""
  password := none
  method := none
  host
  port
  label
  transport := "tcp"
  security := "none"
  sni := none
  fingerprint := none
  publicKey := none
  shortId := none
  flow := none
  path := none
  mode := none
  packetEncoding := none
  rawParams := []
  sourceJson := none
  rawOutbound := none
  rawProfile := none

/-- A location that is given by a full profile; only the profile matters to a
generation. -/
def ofProfile (profile : Value) : VlessServer :=
  { base "vless" "" 443 "" with rawProfile := some profile }

end VlessServer

structure SplitInput where
  appsMode : String
  sitesMode : String
  apps : List String
  sites : List String
  deriving DecidableEq, Repr

namespace SplitInput

def appsSelective (split : SplitInput) : Bool := split.appsMode == "selective"

def sitesSelective (split : SplitInput) : Bool := split.sitesMode == "selective"

def enabledApps (split : SplitInput) : List String :=
  split.apps.filter fun app => app != ""

end SplitInput

/-- Why a generation ends without a config. -/
inductive Fault where
  | error (message : String)
  /-- An `expect` that does not hold. -/
  | panic (message : String)
  deriving DecidableEq, Repr

/-- A URL as the `url` crate reports it. -/
structure Url where
  scheme : String
  username : String
  password : Option String
  fragment : Option String
  host : Option String
  /-- The port, when it is not the scheme's own. -/
  port : Option Nat
  /-- The decoded pairs of the query, in order. -/
  queryPairs : List (String × String)
  /-- The URL written out again. -/
  text : String
  deriving DecidableEq, Repr

/-- The URLs of the default DNS servers, with their host names. -/
def constantUrls : List (String × String) :=
  [("https://cloudflare-dns.com/dns-query", "cloudflare-dns.com"),
    ("https://dns.google/dns-query", "dns.google")]

/-- The `url` crate's parser.  Writing a parsed URL out and parsing it again gives
the same URL, the text of a URL starts with its scheme, and the host names of the
constant URLs are found. -/
structure UrlParser where
  parse : String → Option Url
  reparse : ∀ {raw : String} {url : Url}, parse raw = some url → parse url.text = some url
  startsWithScheme : ∀ {raw : String} {url : Url}, parse raw = some url →
    ∃ rest, url.text.toList = url.scheme.toList ++ ':' :: rest
  constantHost : ∀ constant ∈ constantUrls,
    (parse constant.1).bind Url.host = some constant.2

/-- A URL without credentials and fragment, as it is written out. -/
def Url.plain (scheme host path : String) : Url where
  scheme
  username := ""
  password := none
  fragment := none
  host := some host
  port := none
  queryPairs := []
  text := scheme ++ "://" ++ host ++ path

theorem Url.plain_text (scheme host path : String) :
    (Url.plain scheme host path).text.toList =
      scheme.toList ++ ':' :: ("//".toList ++ host.toList ++ path.toList) := by
  simp [Url.plain]

/-- A parser for the constant URLs and some further plain ones, given by scheme,
host and path. -/
def UrlParser.ofPlain (others : List (String × String × String)) : UrlParser :=
  let table := (("https", "cloudflare-dns.com", "/dns-query") ::
    ("https", "dns.google", "/dns-query") :: others).map fun (scheme, host, path) =>
      Url.plain scheme host path
  { parse := fun raw => table.find? fun url => url.text == raw
    reparse := by
      intro raw url found
      have same := List.find?_some found
      rwa [eq_of_beq same]
    startsWithScheme := by
      intro raw url found
      obtain ⟨parts, _, rfl⟩ := List.mem_map.1 (List.mem_of_find?_eq_some found)
      exact ⟨_, Url.plain_text parts.1 parts.2.1 parts.2.2⟩
    constantHost := by
      simp [constantUrls, table, Url.plain] }

/-- The constant URLs as they are read. -/
def constantEntries : List (String × Url) :=
  [("https://cloudflare-dns.com/dns-query",
      Url.plain "https" "cloudflare-dns.com" "/dns-query"),
    ("https://dns.google/dns-query", Url.plain "https" "dns.google" "/dns-query")]

/-- The table has the URL as it is written out, and that starts with its scheme. -/
def Url.IsRewritten (table : List (String × Url)) (url : Url) : Prop :=
  table.lookup url.text = some url ∧
    Foundation.Text.startsWith url.text (url.scheme ++ ":") = true

instance (table : List (String × Url)) (url : Url) : Decidable (url.IsRewritten table) :=
  instDecidableAnd

theorem mem_of_lookup {α : Type} {entries : List (String × α)} {key : String} {value : α}
    (found : entries.lookup key = some value) : (key, value) ∈ entries := by
  rcases List.lookup_eq_some_iff.1 found with ⟨before, after, table, _⟩
  rw [table]
  simp

/-- A parser for the constant URLs and some further texts. -/
def UrlParser.ofTable (entries : List (String × Url))
    (rewritten : ∀ entry ∈ constantEntries ++ entries,
      entry.2.IsRewritten (constantEntries ++ entries)) : UrlParser :=
  have read {raw : String} {url : Url}
      (found : (constantEntries ++ entries).lookup raw = some url) :
      url.IsRewritten (constantEntries ++ entries) :=
    rewritten (raw, url) (mem_of_lookup found)
  { parse := fun raw => (constantEntries ++ entries).lookup raw
    reparse := fun found => (read found).1
    startsWithScheme := by
      intro raw url found
      rcases List.isPrefixOf_iff_prefix.1 (read found).2 with ⟨rest, text⟩
      exact ⟨rest, by rw [← text]; simp⟩
    constantHost := by
      intro constant member
      rcases List.mem_pair.1 member with rfl | rfl
      · rfl
      · rfl }

/-- The order in which a `HashSet` yields its elements is not fixed; a generation
only ever asks for the first one. -/
structure HashOrder where
  first : List String → Option String
  first_mem : ∀ {elements : List String} {element : String},
    first elements = some element → element ∈ elements
  first_isSome : ∀ {elements : List String}, elements ≠ [] → (first elements).isSome = true

/-- The order of insertion. -/
def HashOrder.inserted : HashOrder where
  first := List.head?
  first_mem := List.mem_of_mem_head?
  first_isSome := by simp

/-- Parse a JSON text. -/
abbrev JsonParser := String → Option Value

end Varmlen.Core
