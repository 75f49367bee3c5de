import Varmlen.Cli.Store

/-!
# Selecting by number or name

How a selector that the user types is resolved to a location or a subscription
(`cli/src/config.rs`).  A number always works; a name works while it is
unambiguous.
-/

namespace Varmlen.Cli

open Varmlen.Core Foundation.Text Foundation.Rows

/-- What `remove` takes away. -/
inductive Removal where
  /-- A location added by hand. -/
  | location (index : Nat)
  /-- A subscription with all its locations. -/
  | subscription (index : Nat)
  deriving DecidableEq, Repr

/-- What to call a subscription in listings: its title or the host of its URL. -/
def Subscription.displayName (urls : UrlParser) (subscription : Subscription) : String :=
  match (subscription.info.title.map trim).filter fun title => title != "" with
  | some title => title
  | none => ((urls.parse subscription.url).bind Url.host).getD "subscription"

/-- The position that a number in a listing stands for. -/
def listedPosition (number length : Nat) : Option Nat :=
  match number with
  | 0 => none
  | index + 1 => if index < length then some index else none

/-- What is removed exists, and a location was added by hand. -/
def Removal.Names (config : Config) : Removal → Prop
  | .location index =>
      ∃ location, config.locations[index]? = some location ∧ location.source = none
  | .subscription index => index < config.subscriptions.length

namespace Config

section Unicode

variable (unicode : Unicode)

/-- The locations in scope whose label matches, by the most specific way of matching
that finds any: the exact label, a prefix past the flag, then a part of it. -/
def matching (config : Config) (needle : String) (scope : Location → Bool) : List Nat :=
  let exact := positions
    (fun location => scope location && location.server.label == needle) config.locations
  if !exact.isEmpty then exact
  else
    let lowered := unicode.toLowercase needle
    let prefixed := positions
      (fun location => scope location &&
        startsWith (searchable unicode location.server.label) lowered) config.locations
    if !prefixed.isEmpty then prefixed
    else
      positions (fun location => scope location &&
        contains (unicode.toLowercase location.server.label) lowered) config.locations

/-- A location as an ambiguous selector reports it. -/
def choiceText (config : Config) (index : Nat) : String :=
  match config.locations[index]? with
  | some location =>
      toString (index + 1) ++ " (" ++ location.server.host ++ ":" ++
        toString location.server.port ++ ")"
  | none => ""

def single (config : Config) (found : List Nat) (needle : String) : Except String Nat :=
  match found with
  | [index] => .ok index
  | many =>
      .error (unicode.debug needle ++ " matches " ++ toString many.length ++
        " locations — select by number: " ++ ", ".intercalate (many.map config.choiceText))

/-- Resolve a selector to a position among the locations. -/
def find (config : Config) (needle : String) : Except String Nat :=
  match parseUnsigned (2 ^ 64) needle with
  | some number =>
      match listedPosition number config.locations.length with
      | some index => .ok index
      | none =>
          .error ("no location " ++ toString number ++ "; there are " ++
            toString config.locations.length)
  | none =>
      match config.matching unicode needle fun _ => true with
      | [] => .error ("no location matches " ++ unicode.debug needle)
      | found => config.single unicode found needle

variable (urls : UrlParser)

def subscriptionMatches (config : Config) (needle : String) : List Nat :=
  positions (fun subscription =>
    contains (unicode.toLowercase (subscription.displayName urls))
      (unicode.toLowercase needle) || subscription.url == needle) config.subscriptions

/-- Resolve a selector to a position among the subscriptions. -/
def findSubscription (config : Config) (needle : String) : Except String Nat :=
  match parseUnsigned (2 ^ 64) needle with
  | some number =>
      match listedPosition number config.subscriptions.length with
      | some index => .ok index
      | none =>
          .error ("no subscription " ++ toString number ++ "; there are " ++
            toString config.subscriptions.length)
  | none =>
      match config.subscriptionMatches unicode urls needle with
      | [index] => .ok index
      | [] => .error ("no subscription matches " ++ unicode.debug needle)
      | many =>
          .error (unicode.debug needle ++ " matches " ++ toString many.length ++
            " subscriptions — select by number")

/-- A location that may be removed: one added by hand. -/
def manualOnly (config : Config) (index : Nat) : Except String Nat :=
  match config.locations[index]? with
  | none => .error ""
  | some location =>
      match location.source with
      | none => .ok index
      | some url =>
          let label := unicode.debug location.server.label
          match config.subscriptions.zipIdx.find? fun row => row.1.url == url with
          | some (subscription, index) =>
              .error (label ++ " comes from the subscription " ++
                subscription.displayName urls ++
                ", and its next update would bring it back; remove the whole " ++
                "subscription with `remove sub " ++ toString (index + 1) ++ "`")
          | none =>
              .error (label ++
                " comes from a subscription and cannot be removed on its own")

/-- What `remove` takes away: a location added by hand or a whole subscription, never
one location out of a subscription. -/
def removal (config : Config) (target : String) : Except String Removal :=
  let target := trim target
  if target = "sub" then
    .error "name a subscription: `remove sub <number|name>`, or see `sub list`"
  else
    match afterPrefix target "sub " with
    | some rest => (config.findSubscription unicode urls (trim rest)).map .subscription
    | none =>
        if (parseUnsigned (2 ^ 64) target).isSome then
          match config.find unicode target with
          | .error message => .error message
          | .ok index => (config.manualOnly unicode urls index).map .location
        else
          let manual := config.matching unicode target fun location =>
            location.source.isNone
          match manual, config.subscriptionMatches unicode urls target with
          | _ :: _, _ :: _ =>
              .error (unicode.debug target ++
                " names both a location added by hand and a subscription — " ++
                "`remove <number>` for the location (see `list`), `remove sub " ++ target ++
                "` for the subscription")
          | _ :: _, [] => (config.single unicode manual target).map .location
          | [], [index] => .ok (.subscription index)
          | [], many@(_ :: _ :: _) =>
              .error (unicode.debug target ++ " matches " ++ toString many.length ++
                " subscriptions — select by number: " ++
                "`remove sub <number>`, see `sub list`")
          | [], [] =>
              match config.matching unicode target fun location =>
                  location.source.isSome with
              | index :: _ => (config.manualOnly unicode urls index).map .location
              | [] =>
                  .error ("no location added by hand or subscription matches " ++
                    unicode.debug target)

/-! ## What a resolved selector names -/

variable {unicode urls} {config : Config} {index : Nat}

theorem mem_matching {needle : String} {scope : Location → Bool}
    (member : index ∈ config.matching unicode needle scope) :
    ∃ location, config.locations[index]? = some location ∧ scope location = true := by
  -- Whatever the way of matching, the positions are those of locations in scope.
  have inScope : ∀ {accepts : Location → Bool},
      index ∈ positions (fun location => scope location && accepts location)
        config.locations →
      ∃ location, config.locations[index]? = some location ∧ scope location = true := by
    intro accepts listed
    rcases mem_positions.1 listed with ⟨location, found, accepted⟩
    exact ⟨location, found, (Bool.and_eq_true_iff.1 accepted).1⟩
  rw [matching] at member
  split at member
  next => exact inScope member
  next =>
    dsimp only at member
    split at member
    next => exact inScope member
    next => exact inScope member

theorem single_eq_ok {found : List Nat} {needle : String}
    (resolved : config.single unicode found needle = .ok index) : found = [index] := by
  match found with
  | [only] => simpa [single] using resolved
  | [] => simp [single] at resolved
  | first :: second :: rest => simp [single] at resolved

theorem manualOnly_eq_ok {position : Nat}
    (resolved : config.manualOnly unicode urls position = .ok index) :
    ∃ location, config.locations[index]? = some location ∧ location.source = none := by
  rw [manualOnly] at resolved
  cases found : config.locations[position]? with
  | none => simp [found] at resolved
  | some location =>
      simp only [found] at resolved
      cases owner : location.source with
      | none =>
          simp only [owner, Except.ok.injEq] at resolved
          subst resolved
          exact ⟨location, found, owner⟩
      | some url =>
          simp only [owner] at resolved
          split at resolved <;> cases resolved

theorem listedPosition_lt {number length : Nat}
    (listed : listedPosition number length = some index) : index < length := by
  cases number with
  | zero => cases listed
  | succ number =>
      rw [listedPosition] at listed
      split at listed
      next inRange =>
        cases listed
        exact inRange
      next => cases listed

theorem mem_subscriptionMatches {needle : String}
    (member : index ∈ config.subscriptionMatches unicode urls needle) :
    index < config.subscriptions.length := by
  rcases mem_positions.1 member with ⟨subscription, found, -⟩
  exact (List.getElem?_eq_some_iff.1 found).1

theorem findSubscription_lt {needle : String}
    (resolved : config.findSubscription unicode urls needle = .ok index) :
    index < config.subscriptions.length := by
  rw [findSubscription] at resolved
  split at resolved
  next number _ =>
    split at resolved
    next listed =>
      cases resolved
      exact listedPosition_lt listed
    next => cases resolved
  next =>
    split at resolved
    next only =>
      cases resolved
      exact mem_subscriptionMatches (by rw [only]; exact .head _)
    next => cases resolved
    next => cases resolved

theorem map_eq_ok {α β : Type} {result : Except String α} {f : α → β} {value : β}
    (mapped : result.map f = .ok value) : ∃ inner, result = .ok inner ∧ f inner = value := by
  cases result with
  | error message => cases mapped
  | ok inner => exact ⟨inner, rfl, by cases mapped; rfl⟩

theorem removal_names {target : String} {removed : Removal}
    (resolved : config.removal unicode urls target = .ok removed) :
    removed.Names config := by
  have named : ∀ {position : Nat},
      (config.manualOnly unicode urls position).map Removal.location = .ok removed →
        removed.Names config := by
    intro position manual
    rcases map_eq_ok manual with ⟨index, only, rfl⟩
    exact manualOnly_eq_ok only
  rw [removal] at resolved
  dsimp only at resolved
  split at resolved
  next => cases resolved
  next =>
    split at resolved
    next =>
      rcases map_eq_ok resolved with ⟨index, found, rfl⟩
      exact findSubscription_lt found
    next =>
      split at resolved
      next =>
        split at resolved
        next => cases resolved
        next => exact named resolved
      next =>
        split at resolved
        next => cases resolved
        next =>
          rcases map_eq_ok resolved with ⟨index, only, rfl⟩
          have member : index ∈ config.matching unicode (trim target) fun location =>
              location.source.isNone := by
            rw [single_eq_ok only]
            exact .head _
          rcases mem_matching member with ⟨location, found, manual⟩
          exact ⟨location, found, by simpa using manual⟩
        next only =>
          cases resolved
          exact mem_subscriptionMatches (by rw [only]; exact .head _)
        next => cases resolved
        next =>
          split at resolved
          next => exact named resolved
          next => cases resolved

end Unicode

end Config

end Varmlen.Cli
