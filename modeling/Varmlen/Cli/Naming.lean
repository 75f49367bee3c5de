import Varmlen.Cli.Select

/-!
# Names never guess

A name that is not a number selects a location or a subscription only when nothing else
could have been meant.  The ways of matching a label are tiers, from the most specific to
the least; only the first tier that finds anything counts.
-/

namespace Varmlen.Cli

open Varmlen.Core Foundation.Text Foundation.Rows

/-- The ways of matching a label, the most specific first. -/
inductive Tier where
  | exact
  | prefixed
  | part
  deriving DecidableEq, Repr

/-- The tiers that are tried before. -/
def Tier.earlier : Tier → List Tier
  | .exact => []
  | .prefixed => [.exact]
  | .part => [.exact, .prefixed]

def Tier.accepts (unicode : Unicode) (needle : String) (tier : Tier) (location : Location) :
    Bool :=
  match tier with
  | .exact => location.server.label == needle
  | .prefixed =>
      startsWith (Config.searchable unicode location.server.label) (unicode.toLowercase needle)
  | .part => contains (unicode.toLowercase location.server.label) (unicode.toLowercase needle)

/-- The name may mean the subscription. -/
def Subscription.answersTo (unicode : Unicode) (urls : UrlParser) (needle : String)
    (subscription : Subscription) : Bool :=
  contains (unicode.toLowercase (subscription.displayName urls))
    (unicode.toLowercase needle) || subscription.url == needle

namespace Config

/-! ## What a unique match is -/

section Spec

variable (unicode : Unicode) (urls : UrlParser) (config : Config) (needle : String)
  (scope : Location → Bool)

/-- The location is the one in scope that the most specific tier with any match
accepts. -/
def OnlyLocation (index : Nat) : Prop :=
  ∃ tier : Tier,
    (∀ earlier ∈ tier.earlier, ∀ location ∈ config.locations, scope location = true →
      earlier.accepts unicode needle location = false) ∧
    ∀ position, (∃ location, config.locations[position]? = some location ∧
      scope location = true ∧ tier.accepts unicode needle location = true) ↔ position = index

/-- No location in scope matches in any way. -/
def NoLocation : Prop :=
  ∀ location ∈ config.locations, scope location = true →
    ∀ tier : Tier, tier.accepts unicode needle location = false

def OnlySubscription (index : Nat) : Prop :=
  ∀ position, (∃ subscription, config.subscriptions[position]? = some subscription ∧
    subscription.answersTo unicode urls needle = true) ↔ position = index

def NoSubscription : Prop :=
  ∀ subscription ∈ config.subscriptions, subscription.answersTo unicode urls needle = false

end Spec

/-! ## Resolving with indices

The code reads rows by `list[index]`, which panics out of range.  Here such a read has no
result, and neither has what needs it. -/

section Indexed

variable (unicode : Unicode) (urls : UrlParser) (config : Config)

def choiceTextIndexed (index : Nat) : Option String :=
  (config.locations[index]?).map fun location =>
    toString (index + 1) ++ " (" ++ location.server.host ++ ":" ++
      toString location.server.port ++ ")"

def singleIndexed (found : List Nat) (needle : String) : Option (Except String Nat) :=
  match found with
  | [index] => some (.ok index)
  | many =>
      (many.mapM config.choiceTextIndexed).map fun choices =>
        .error (unicode.debug needle ++ " matches " ++ toString many.length ++
          " locations — select by number: " ++ ", ".intercalate choices)

def findIndexed (needle : String) : Option (Except String Nat) :=
  match parseUnsigned (2 ^ 64) needle with
  | some number =>
      match listedPosition number config.locations.length with
      | some index => some (.ok index)
      | none =>
          some (.error ("no location " ++ toString number ++ "; there are " ++
            toString config.locations.length))
  | none =>
      match config.matching unicode needle fun _ => true with
      | [] => some (.error ("no location matches " ++ unicode.debug needle))
      | found => config.singleIndexed unicode found needle

def manualOnlyIndexed (index : Nat) : Option (Except String Nat) :=
  (config.locations[index]?).bind fun location =>
    match location.source with
    | none => some (.ok index)
    | some url =>
        let label := unicode.debug location.server.label
        match config.subscriptions.findIdx? fun subscription => subscription.url == url with
        | some index =>
            (config.subscriptions[index]?).map fun subscription =>
              .error (label ++ " comes from the subscription " ++
                subscription.displayName urls ++
                ", and its next update would bring it back; remove the whole " ++
                "subscription with `remove sub " ++ toString (index + 1) ++ "`")
        | none =>
            some (.error (label ++
              " comes from a subscription and cannot be removed on its own"))

def removalIndexed (target : String) : Option (Except String Removal) :=
  let target := trim target
  if target = "sub" then
    some (.error "name a subscription: `remove sub <number|name>`, or see `sub list`")
  else
    match afterPrefix target "sub " with
    | some rest => some ((config.findSubscription unicode urls (trim rest)).map .subscription)
    | none =>
        if (parseUnsigned (2 ^ 64) target).isSome then
          (config.findIndexed unicode target).bind fun
            | .error message => some (.error message)
            | .ok index => (config.manualOnlyIndexed unicode urls index).map (·.map .location)
        else
          let manual := config.matching unicode target fun location =>
            location.source.isNone
          match manual, config.subscriptionMatches unicode urls target with
          | _ :: _, _ :: _ =>
              some (.error (unicode.debug target ++
                " names both a location added by hand and a subscription — " ++
                "`remove <number>` for the location (see `list`), `remove sub " ++ target ++
                "` for the subscription"))
          | _ :: _, [] => (config.singleIndexed unicode manual target).map (·.map .location)
          | [], [index] => some (.ok (.subscription index))
          | [], many@(_ :: _ :: _) =>
              some (.error (unicode.debug target ++ " matches " ++ toString many.length ++
                " subscriptions — select by number: " ++
                "`remove sub <number>`, see `sub list`"))
          | [], [] =>
              match config.matching unicode target fun location =>
                  location.source.isSome with
              | index :: _ =>
                  (config.manualOnlyIndexed unicode urls index).map (·.map .location)
              | [] =>
                  some (.error ("no location added by hand or subscription matches " ++
                    unicode.debug target))

end Indexed

/-! ## Unique matches -/

section Matches

variable {unicode : Unicode} {urls : UrlParser} {config : Config} {needle : String}
  {scope : Location → Bool} {index : Nat}

theorem onlyLocation_of_positions {tier : Tier}
    (before : ∀ earlier ∈ tier.earlier, positions (fun location =>
      scope location && earlier.accepts unicode needle location) config.locations = [])
    (only : positions (fun location =>
      scope location && tier.accepts unicode needle location) config.locations = [index]) :
    config.OnlyLocation unicode needle scope index := by
  refine ⟨tier, ?_, ?_⟩
  · intro earlier isEarlier location member inScope
    have rejected := positions_eq_nil.1 (before earlier isEarlier) location member
    simpa [inScope] using rejected
  · intro position
    rw [← List.mem_singleton, ← only, mem_positions]
    simp only [Bool.and_eq_true]

theorem onlyLocation_of_matching
    (only : config.matching unicode needle scope = [index]) :
    config.OnlyLocation unicode needle scope index := by
  rw [matching] at only
  split at only
  next =>
    refine @onlyLocation_of_positions unicode config needle scope index .exact ?_ only
    simp [Tier.earlier]
  next noExact =>
    dsimp only at only
    split at only
    next =>
      refine @onlyLocation_of_positions unicode config needle scope index .prefixed ?_ only
      simpa [Tier.earlier, Tier.accepts] using noExact
    next noPrefix =>
      refine @onlyLocation_of_positions unicode config needle scope index .part ?_ only
      simp only [Bool.not_eq_true', Bool.not_eq_false, List.isEmpty_iff] at noExact noPrefix
      simp [Tier.earlier, Tier.accepts, noExact, noPrefix]

theorem noLocation_of_matching (none : config.matching unicode needle scope = []) :
    config.NoLocation unicode needle scope := by
  rw [matching] at none
  split at none
  next found => simp [none] at found
  next noExact =>
    dsimp only at none
    split at none
    next found => simp [none] at found
    next noPrefix =>
      simp only [Bool.not_eq_true', Bool.not_eq_false, List.isEmpty_iff] at noExact noPrefix
      intro location member inScope tier
      have rejected (tier : Tier) : positions (fun location =>
          scope location && tier.accepts unicode needle location) config.locations = [] := by
        cases tier with
        | exact => exact noExact
        | prefixed => exact noPrefix
        | part => exact none
      simpa [inScope] using positions_eq_nil.1 (rejected tier) location member

theorem onlySubscription_of_matches
    (only : config.subscriptionMatches unicode urls needle = [index]) :
    config.OnlySubscription unicode urls needle index := by
  intro position
  rw [← List.mem_singleton, ← only, subscriptionMatches, mem_positions]
  rfl

theorem noSubscription_of_matches
    (none : config.subscriptionMatches unicode urls needle = []) :
    config.NoSubscription unicode urls needle :=
  positions_eq_nil.1 none

end Matches

/-! ## No index is out of range -/

section InRange

variable {unicode : Unicode} {urls : UrlParser} {config : Config}

theorem mapM_eq_some_map {α β : Type} {f : α → Option β} {g : α → β} {items : List α}
    (same : ∀ item ∈ items, f item = some (g item)) : items.mapM f = some (items.map g) := by
  induction items with
  | nil => rfl
  | cons item rest ih =>
      rw [List.forall_mem_cons] at same
      rw [List.mapM_cons, same.1, ih same.2]
      rfl

theorem choiceTextIndexed_eq {index : Nat} (inRange : index < config.locations.length) :
    config.choiceTextIndexed index = some (config.choiceText index) := by
  rw [choiceTextIndexed, choiceText, List.getElem?_eq_getElem inRange]
  rfl

theorem singleIndexed_eq {found : List Nat} (needle : String)
    (inRange : ∀ index ∈ found, index < config.locations.length) :
    config.singleIndexed unicode found needle = some (config.single unicode found needle) := by
  have choices : found.mapM config.choiceTextIndexed = some (found.map config.choiceText) :=
    mapM_eq_some_map fun index member => choiceTextIndexed_eq (inRange index member)
  match found with
  | [index] => rfl
  | [] => rfl
  | first :: second :: rest =>
      simp only [singleIndexed, single]
      rw [choices, Option.map_some]

theorem matching_inRange {needle : String} {scope : Location → Bool} :
    ∀ index ∈ config.matching unicode needle scope, index < config.locations.length := by
  intro index member
  rcases mem_matching member with ⟨location, found, -⟩
  exact (List.getElem?_eq_some_iff.1 found).1

theorem findIndexed_eq (needle : String) :
    config.findIndexed unicode needle = some (config.find unicode needle) := by
  rw [findIndexed, find]
  cases parseUnsigned (2 ^ 64) needle with
  | some number =>
      dsimp only
      cases listedPosition number config.locations.length with
      | some index => rfl
      | none => rfl
  | none =>
      have inRange := @matching_inRange unicode config needle fun _ => true
      dsimp only
      generalize config.matching unicode needle (fun _ => true) = found at inRange
      cases found with
      | nil => rfl
      | cons first rest => exact singleIndexed_eq needle inRange

theorem find_inRange {needle : String} {index : Nat}
    (resolved : config.find unicode needle = .ok index) : index < config.locations.length := by
  rw [find] at resolved
  split at resolved
  next =>
    split at resolved
    next listed =>
      cases resolved
      exact listedPosition_lt listed
    next => cases resolved
  next =>
    split at resolved
    next => cases resolved
    next =>
      have only := single_eq_ok resolved
      exact matching_inRange index (by rw [only]; exact .head _)

theorem manualOnlyIndexed_eq {index : Nat} (inRange : index < config.locations.length) :
    config.manualOnlyIndexed unicode urls index =
      some (config.manualOnly unicode urls index) := by
  rw [manualOnlyIndexed, manualOnly, List.getElem?_eq_getElem inRange, Option.bind_some]
  dsimp only
  cases config.locations[index].source with
  | none => rfl
  | some url =>
      dsimp only
      rw [List.findIdx?_eq_fst_find?_zipIdx]
      cases found : config.subscriptions.zipIdx.find? fun row => row.1.url == url with
      | none => rfl
      | some row =>
          have located := List.mk_mem_zipIdx_iff_getElem?.1 (List.mem_of_find?_eq_some found)
          dsimp only [Option.map_some]
          rw [located, Option.map_some]

/-- A bare name, once the matches are known. -/
theorem removalIndexed_name {target : String}
    (bare : afterPrefix (trim target) "sub " = none)
    (name : parseUnsigned (2 ^ 64) (trim target) = none) (notSub : trim target ≠ "sub") :
    config.removalIndexed unicode urls target = some (config.removal unicode urls target) := by
  have manualRange := @matching_inRange unicode config (trim target)
    fun location => location.source.isNone
  have ownedRange := @matching_inRange unicode config (trim target)
    fun location => location.source.isSome
  rw [removalIndexed, removal]
  dsimp only
  rw [if_neg notSub, if_neg notSub, bare, name]
  dsimp only [Option.isSome_none]
  rw [if_neg Bool.false_ne_true, if_neg Bool.false_ne_true]
  generalize config.matching unicode (trim target) (fun location => location.source.isNone) =
    manual at manualRange
  generalize config.matching unicode (trim target) (fun location => location.source.isSome) =
    owned at ownedRange
  generalize config.subscriptionMatches unicode urls (trim target) = subscriptions
  cases manual with
  | cons first rest =>
      cases subscriptions with
      | cons subscription others => rfl
      | nil =>
          dsimp only
          rw [singleIndexed_eq _ manualRange, Option.map_some]
  | nil =>
      cases subscriptions with
      | cons first others =>
          cases others with
          | nil => rfl
          | cons second others => rfl
      | nil =>
          cases owned with
          | nil => rfl
          | cons index rest =>
              dsimp only
              rw [manualOnlyIndexed_eq (ownedRange index (.head _)), Option.map_some]

theorem removalIndexed_eq (target : String) :
    config.removalIndexed unicode urls target = some (config.removal unicode urls target) := by
  by_cases isSub : trim target = "sub"
  · rw [removalIndexed, removal]
    dsimp only
    rw [if_pos isSub, if_pos isSub]
  · cases bare : afterPrefix (trim target) "sub " with
    | some rest =>
        rw [removalIndexed, removal]
        dsimp only
        rw [if_neg isSub, if_neg isSub, bare]
    | none =>
        cases name : parseUnsigned (2 ^ 64) (trim target) with
        | none => exact removalIndexed_name bare name isSub
        | some number =>
            rw [removalIndexed, removal]
            dsimp only
            rw [if_neg isSub, if_neg isSub, bare, name]
            dsimp only [Option.isSome_some]
            rw [if_pos rfl, if_pos rfl, findIndexed_eq, Option.bind_some]
            cases resolved : config.find unicode (trim target) with
            | error message => rfl
            | ok index =>
                dsimp only
                rw [manualOnlyIndexed_eq (find_inRange resolved), Option.map_some]

end InRange

/-! ## The resolvers -/

section Resolvers

variable {unicode : Unicode} {urls : UrlParser} {config : Config} {index : Nat}

theorem find_onlyLocation {needle : String} (name : parseUnsigned (2 ^ 64) needle = none)
    (resolved : config.find unicode needle = .ok index) :
    config.OnlyLocation unicode needle (fun _ => true) index := by
  rw [find, name] at resolved
  dsimp only at resolved
  split at resolved
  next => cases resolved
  next => exact onlyLocation_of_matching (single_eq_ok resolved)

theorem findSubscription_only {needle : String} (name : parseUnsigned (2 ^ 64) needle = none)
    (resolved : config.findSubscription unicode urls needle = .ok index) :
    config.OnlySubscription unicode urls needle index := by
  rw [findSubscription, name] at resolved
  dsimp only at resolved
  split at resolved
  next only =>
    cases resolved
    exact onlySubscription_of_matches only
  next => cases resolved
  next => cases resolved

/-- A location out of a subscription is never removed on its own. -/
theorem manualOnly_error {location : Location} (found : config.locations[index]? = some location)
    (owned : location.source.isSome = true) {position : Nat} :
    config.manualOnly unicode urls index ≠ .ok position := by
  rw [manualOnly, found]
  dsimp only
  cases source : location.source with
  | none => simp [source] at owned
  | some url =>
      dsimp only
      split
      next =>
        intro same
        cases same
      next =>
        intro same
        cases same

/-- A selector that starts with `sub` takes away no lone location. -/
theorem bare_of_location {target : String}
    (resolved : config.removal unicode urls target = .ok (.location index)) :
    afterPrefix (trim target) "sub " = none := by
  rw [removal] at resolved
  dsimp only at resolved
  split at resolved
  next => cases resolved
  next =>
    split at resolved
    next =>
      rcases map_eq_ok resolved with ⟨_, _, isSubscription⟩
      cases isSubscription
    next bare => exact bare

/-- A number takes away no subscription. -/
theorem name_of_subscription {target : String}
    (bare : afterPrefix (trim target) "sub " = none)
    (resolved : config.removal unicode urls target = .ok (.subscription index)) :
    parseUnsigned (2 ^ 64) (trim target) = none := by
  rw [removal] at resolved
  dsimp only at resolved
  split at resolved
  next => cases resolved
  next =>
    rw [bare] at resolved
    dsimp only at resolved
    split at resolved
    next =>
      split at resolved
      next => cases resolved
      next =>
        rcases map_eq_ok resolved with ⟨_, _, isLocation⟩
        cases isLocation
    next notNumber => simpa using notNumber

/-- What a bare name takes away. -/
theorem removal_name {target : String} {removed : Removal}
    (bare : afterPrefix (trim target) "sub " = none)
    (name : parseUnsigned (2 ^ 64) (trim target) = none)
    (resolved : config.removal unicode urls target = .ok removed) :
    match removed with
    | .location index =>
        config.NoSubscription unicode urls (trim target) ∧
          config.OnlyLocation unicode (trim target) (·.source.isNone) index
    | .subscription index =>
        config.OnlySubscription unicode urls (trim target) index ∧
          config.NoLocation unicode (trim target) (·.source.isNone) := by
  rw [removal] at resolved
  dsimp only at resolved
  split at resolved
  next => cases resolved
  next =>
    rw [bare, name] at resolved
    dsimp only [Option.isSome_none] at resolved
    rw [if_neg Bool.false_ne_true] at resolved
    split at resolved
    next => cases resolved
    next noSubscription =>
      rcases map_eq_ok resolved with ⟨index, only, rfl⟩
      exact ⟨noSubscription_of_matches noSubscription,
        onlyLocation_of_matching (single_eq_ok only)⟩
    next noLocation only =>
      cases resolved
      exact ⟨onlySubscription_of_matches only, noLocation_of_matching noLocation⟩
    next => cases resolved
    next =>
      split at resolved
      next index _ found =>
        rcases map_eq_ok resolved with ⟨position, only, _⟩
        rcases mem_matching (by rw [found]; exact .head _) with ⟨location, there, owned⟩
        exact absurd only (manualOnly_error there owned)
      next => cases resolved

end Resolvers

/-- A name selects only what it alone can mean, and resolving reads no row out of range. -/
theorem names_never_guess (unicode : Unicode) (urls : UrlParser) (config : Config)
    (needle : String) :
    (∀ index, parseUnsigned (2 ^ 64) needle = none →
      config.find unicode needle = .ok index →
      config.OnlyLocation unicode needle (fun _ => true) index) ∧
    (∀ index, parseUnsigned (2 ^ 64) needle = none →
      config.findSubscription unicode urls needle = .ok index →
      config.OnlySubscription unicode urls needle index) ∧
    (∀ index, config.removal unicode urls needle = .ok (.location index) →
      (∃ location, config.locations[index]? = some location ∧ location.source = none) ∧
      (parseUnsigned (2 ^ 64) (trim needle) = none →
        config.NoSubscription unicode urls (trim needle) ∧
        config.OnlyLocation unicode (trim needle) (·.source.isNone) index)) ∧
    (∀ index, afterPrefix (trim needle) "sub " = none →
      config.removal unicode urls needle = .ok (.subscription index) →
      config.OnlySubscription unicode urls (trim needle) index ∧
      config.NoLocation unicode (trim needle) (·.source.isNone)) ∧
    config.findIndexed unicode needle = some (config.find unicode needle) ∧
    config.removalIndexed unicode urls needle = some (config.removal unicode urls needle) := by
  refine ⟨fun _ => find_onlyLocation, fun _ => findSubscription_only, ?_, ?_,
    findIndexed_eq needle, removalIndexed_eq needle⟩
  · intro index resolved
    exact ⟨removal_names resolved, fun name =>
      removal_name (bare_of_location resolved) name resolved⟩
  · intro index bare resolved
    exact removal_name bare (name_of_subscription bare resolved) resolved

/-- A store with a location added by hand and one out of a subscription. -/
def namedStore : Config :=
  { default with
    locations := [⟨VlessServer.base "vless" "nl.a" 443 "Netherlands", none⟩,
      ⟨VlessServer.base "vless" "nl.b" 443 "Netherlands 2", some "https://b.example/s"⟩]
    subscriptions := [Subscription.bare "https://b.example/s"] }

theorem netherlands_removed :
    namedStore.removal .ascii (.ofPlain []) "nether" = .ok (.location 0) ∧
    namedStore.OnlyLocation .ascii "nether" (·.source.isNone) 0 := by
  have resolved : namedStore.removal .ascii (.ofPlain []) "nether" = .ok (.location 0) := by
    decide
  exact ⟨resolved, (((names_never_guess .ascii (.ofPlain []) namedStore "nether").2.2.1 0
    resolved).2 (by decide)).2⟩

end Config

end Varmlen.Cli
