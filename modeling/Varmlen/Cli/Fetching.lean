import Varmlen.Core.Fetch
import Varmlen.Core.Import
import Varmlen.Core.Shadowsocks
import Varmlen.Cli.Command

/-!
# Fetching a subscription

What becomes of the text that a subscription is added with (`core/src/fetch.rs`): JSON and
share links hold their locations themselves, and any other text is an address to fetch them
from.
-/

namespace Varmlen.Cli

open Foundation Foundation.Text Foundation.Checks Varmlen.Core

/-! ## Web addresses -/

/-- What a download meets outside: the machine, the chosen client, the network, and what is
made of the body that a server sends. -/
structure Download where
  targetPlatform : String
  targetArch : String
  choice : Option String
  network : Surroundings
  /-- A status as it is written out. -/
  statusText : Nat → String
  readBody : Response → Except String ImportResult

/-- The names under which a subscription is fetched. -/
def brands : List (String × String) :=
  [("varmlen", "Varmlen"), ("happ", "Happ"), ("incy", "INCY")]

/-- The client and the system that a request is sent with. -/
def subscriptionHeaders (download : Download) : Except String (String × String) :=
  match brands.lookup (download.choice.getD "varmlen") with
  | none => .error "unsupported subscription User-Agent"
  | some brand =>
      .ok (brand ++ "/" ++ download.targetPlatform ++ "/" ++ download.targetArch,
        toAsciiLowercase download.targetPlatform)

/-- Fetch the locations of a web address. -/
def fetchParsed (download : Download) (url : Url) : Except String ImportResult := do
  let (userAgent, deviceOs) ← subscriptionHeaders download
  let response ← (fetchSubscriptionResponse download.network userAgent deviceOs url).2
  refuseIf (response.status < 200 || 300 ≤ response.status)
    ("HTTP " ++ download.statusText response.status)
  download.readBody response

/-! ## Any text -/

/-- What a provider's headers say when there is no provider. -/
def noMeta : SubscriptionMeta := (Subscription.bare "").info

/-- Locations that came without a provider. -/
def importedOf (servers : List VlessServer) (whenEmpty : String) : Except String ImportResult :=
  if servers.isEmpty then .error whenEmpty
  else .ok { info := noMeta, servers, description := none }

/-- More than one line of the text is a link. -/
def severalLinks (text : String) : Bool :=
  1 < ((lines text).filter fun line => isSupportedUri (trim line)).length

def fetchSubscription (lib : Libraries) (download : Download) (url : String) :
    Except String ImportResult :=
  let trimmed := trim url
  if trimmed = "" then .error "empty URL"
  else if opensJson trimmed then
    importedOf (parseJsonSubscription lib trimmed).2 "no servers found in the JSON"
  else if isSupportedUri trimmed then
    if severalLinks trimmed then importedOf (parseSubscription lib trimmed) "no servers found"
    else
      match parseProxyUri lib trimmed with
      | .error error => .error error.message
      | .ok server => .ok { info := noMeta, servers := [server], description := none }
  else
    match lib.urls.parse trimmed with
    | none => .error ("bad URL: " ++ lib.urlError trimmed)
    | some parsed => fetchParsed download parsed

/-- A subscription can be added with the text, which is not a list of links. -/
structure Accepted (lib : Libraries) (download : Download) (url : String) : Prop where
  fetched : ∃ result, fetchSubscription lib download url = .ok result ∧ result.servers ≠ []
  single : isSupportedUri (trim url) = true → severalLinks (trim url) = false

section Accepted

variable {lib : Libraries} {download : Download} {url : String}

/-- An accepted link is read as a location. -/
theorem Accepted.parsed (accepted : Accepted lib download url)
    (isLink : isSupportedUri (trim url) = true) :
    ∃ server, parseProxyUri lib (trim url) = .ok server := by
  have opened : trim url ≠ "" ∧ opensJson (trim url) = false := by
    rw [isSupportedUri, trim_trim, List.any_eq_true] at isLink
    rcases isLink with ⟨scheme, listed, starts⟩
    rcases List.isPrefixOf_iff_prefix.1 starts with ⟨rest, parts⟩
    have schemes : ∀ scheme ∈ supportedSchemes, ∃ first others, scheme.toList = first :: others ∧
        first ≠ '\x7b' ∧ first ≠ '[' := by
      simp [supportedSchemes]
    rcases schemes scheme listed with ⟨first, others, named, noObject, noArray⟩
    rw [named, List.cons_append] at parts
    refine ⟨?_, ?_⟩
    · intro empty
      rw [empty] at parts
      cases parts
    · rw [opensJson, startsWith, startsWith, ← parts]
      simp [List.isPrefixOf, noObject.symm, noArray.symm]
  rcases accepted.fetched with ⟨result, fetched, _⟩
  rw [fetchSubscription] at fetched
  rw [if_neg opened.1, if_neg (by simp [opened.2]), if_pos isLink,
    if_neg (by simp [accepted.single isLink])] at fetched
  split at fetched
  next => cases fetched
  next server parsed => exact ⟨server, parsed⟩

end Accepted

/-- The subscriptions after one is added are those before it and one that could be fetched. -/
theorem subAdd_subscriptions {unicode : Unicode} {config : Config} {url : String}
    {environment : Environment} {subscription : Subscription}
    (listed : subscription ∈ (config.subAdd unicode url environment).1.subscriptions) :
    subscription ∈ config.subscriptions ∨
      subscription.url = url ∧
        ∃ result, environment.fetch url = .ok result ∧ result.servers ≠ [] := by
  rw [Config.subAdd] at listed
  split at listed
  next => exact .inl listed
  next =>
    split at listed
    next => exact .inl listed
    next result fetched =>
      split at listed
      next => exact .inl listed
      next nonempty =>
        rw [Config.replaceSubscriptionLocations_subscriptions, List.mem_append] at listed
        rcases listed with old | new
        · exact .inl old
        · rw [List.mem_singleton.1 new]
          exact .inr ⟨rfl, result, fetched, by simpa using nonempty⟩

end Varmlen.Cli
