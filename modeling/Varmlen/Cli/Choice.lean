import Varmlen.Cli.Edit

/-!
# The chosen location

The choice is stored as a key and a source, and resolved again each time it is used.
Where it resolves, what loading does to it, and what edits of the store can move it
to.
-/

namespace Varmlen.Cli

open Varmlen.Core Foundation.Text Foundation.Rows Foundation.Run

/-- The location has the key and sits where the choice was made. -/
def Location.isChoice (key : LocationKey) (source : Option String)
    (location : Location) : Bool :=
  location.hasKey key && location.source == source

namespace Config

variable {unicode : Unicode} {config : Config} {key : LocationKey}

/-! ## Where the choice resolves -/

/-- A location in the recorded source is always eligible. -/
theorem isEligible_of_source {location : Location}
    (sameSource : location.source = config.activeSource) :
    config.isEligible location = true := by
  rw [isEligible, activeHome]
  cases recorded : config.activeSource with
  | none => rfl
  | some url =>
      cases listed : config.lists url with
      | false => simp [Option.filter, listed]
      | true => simp [Option.filter, listed, sameSource, recorded]

/-- The rows that a search prefers: those with the key in the recorded source. -/
theorem preferred_eq_isChoice :
    (fun location : Location =>
      (location.hasKey key && config.isEligible location) &&
        location.source == config.activeSource) =
      Location.isChoice key config.activeSource := by
  funext location
  cases sameSource : location.source == config.activeSource with
  | false => simp [Location.isChoice, sameSource]
  | true => simp [Location.isChoice, sameSource, isEligible_of_source (eq_of_beq sameSource)]

theorem activePosition_key (chosen : config.active = some (.key key)) :
    config.activePosition =
      (config.locations.findIdx? (Location.isChoice key config.activeSource)).or
        (config.locations.findIdx? fun location =>
          location.hasKey key && config.isEligible location) := by
  rw [activePosition, chosen]
  dsimp only
  rw [find?_positions, head?_positions, preferred_eq_isChoice]

theorem activeLocation_key (chosen : config.active = some (.key key)) :
    config.activeLocation =
      (config.locations.find? (Location.isChoice key config.activeSource)).or
        (config.locations.find? fun location =>
          location.hasKey key && config.isEligible location) := by
  rw [activeLocation, activePosition_key chosen, List.find?_eq_bind_findIdx?_getElem?,
    List.find?_eq_bind_findIdx?_getElem?]
  cases found : config.locations.findIdx? (Location.isChoice key config.activeSource) with
  | none => rfl
  | some index =>
      have inRange := (List.findIdx?_eq_some_iff_getElem.1 found).1
      simp [List.getElem?_eq_getElem inRange]

/-- A location with the key in the recorded source is what the choice resolves to. -/
theorem activeLocation_of_find {location : Location}
    (chosen : config.active = some (.key key))
    (found : config.locations.find? (Location.isChoice key config.activeSource) =
      some location) :
    config.activeLocation = some location := by
  rw [activeLocation_key chosen, found, Option.some_or]

/-- A choice that resolves in its recorded source resolves to the first location there
with the key. -/
theorem find_of_activeLocation {location : Location}
    (chosen : config.active = some (.key key))
    (resolved : config.activeLocation = some location)
    (sameSource : location.source = config.activeSource) :
    config.locations.find? (Location.isChoice key config.activeSource) = some location := by
  rw [activeLocation_key chosen] at resolved
  cases found : config.locations.find? (Location.isChoice key config.activeSource) with
  | some first => rwa [found, Option.some_or] at resolved
  | none =>
      rw [found, Option.none_or] at resolved
      have member := List.mem_of_find?_eq_some resolved
      have accepted := List.find?_some resolved
      have keyed := (Bool.and_eq_true_iff.1 accepted).1
      have notChoice := List.find?_eq_none.1 found location member
      simp [Location.isChoice, keyed, sameSource] at notChoice

/-- A choice that resolves is a key. -/
theorem exists_key_of_activePosition {index : Nat}
    (resolved : config.activePosition = some index) :
    ∃ key, config.active = some (.key key) := by
  rw [activePosition] at resolved
  split at resolved
  next key chosen => exact ⟨key, chosen⟩
  next => cases resolved

/-! ## Reconciling -/

theorem reconciled_of_find {location : Location} {previous : Option VlessServer}
    (found : config.locations.find? (Location.isChoice key config.activeSource) =
      some location) :
    config.reconciled unicode key previous = some location := by
  have preferred : (config.pool.filter (Location.hasKey key)).find?
      (fun location => location.source == config.activeSource) = some location := by
    rw [pool, List.filter_filter, List.find?_filter]
    simp only [Bool.decide_and, Bool.decide_eq_true]
    rw [preferred_eq_isChoice, found]
  rw [reconciled, preferred, Option.some_or, Option.some_or]

theorem setActive_eq_self {location : Location}
    (chosen : config.active = some (.key key))
    (isChoice : location.isChoice key config.activeSource = true) :
    config.setActive location = config := by
  rcases Bool.and_eq_true_iff.1 isChoice with ⟨keyed, sameSource⟩
  have sameKey : locationKey location.server = key := eq_of_beq keyed
  rw [setActive, sameKey, eq_of_beq sameSource, ← chosen]

/-- Where the location with the key is still in the recorded source, nothing is
reconciled. -/
theorem reconcileActive_of_find {location : Location} {previous : Option VlessServer}
    (chosen : config.active = some (.key key))
    (found : config.locations.find? (Location.isChoice key config.activeSource) =
      some location) :
    config.reconcileActive unicode previous = config := by
  rw [reconcileActive, chosen]
  dsimp only
  rw [reconciled_of_find found]
  exact setActive_eq_self chosen (List.find?_some found)

/-! ## Updates of other subscriptions -/

theorem isFrom_of_isChoice {location : Location} {url : String} {source : Option String}
    (elsewhere : source ≠ some url) (isChoice : location.isChoice key source = true) :
    location.isFrom url = false := by
  have sameSource : location.source = source :=
    eq_of_beq (Bool.and_eq_true_iff.1 isChoice).2
  simpa [Location.isFrom, sameSource] using elsewhere

/-- A search among the locations of others finds the same row after an update. -/
theorem find?_replaceBlock_isFrom {url : String} {fresh : List VlessServer}
    {locations : List Location} {predicate : Location → Bool}
    (disjoint : ∀ location, predicate location = true → location.isFrom url = false) :
    (replaceBlock (Location.isFrom url) (locationsOf url fresh) locations).find? predicate =
      locations.find? predicate := by
  rw [← List.head?_filter, ← List.head?_filter,
    filter_replaceBlock_of_disjoint isFrom_of_mem_locationsOf disjoint]

/-- Updating one subscription never disturbs a choice made elsewhere. -/
theorem update_keeps_choice_elsewhere {config : Config} {index : Nat} {location : Location}
    {url : String} (fresh : List VlessServer)
    (resolved : config.activePosition = some index)
    (found : config.locations[index]? = some location)
    (sameSource : config.activeSource = location.source)
    (elsewhere : location.source ≠ some url) :
    (config.replaceSubscriptionLocations unicode url fresh).1.activeLocation =
        some location ∧
      (config.replaceSubscriptionLocations unicode url fresh).1.locations.filter
          (fun location => !location.isFrom url) =
        config.locations.filter fun location => !location.isFrom url := by
  rcases exists_key_of_activePosition resolved with ⟨key, chosen⟩
  have before : config.activeLocation = some location := by
    rw [activeLocation, resolved, Option.bind_some, found]
  have first := find_of_activeLocation chosen before sameSource.symm
  have disjoint : ∀ other : Location, other.isChoice key config.activeSource = true →
      other.isFrom url = false :=
    fun other isChoice => isFrom_of_isChoice (sameSource ▸ elsewhere) isChoice
  -- The row is still the first one with the key in its source, so nothing is reconciled.
  let replaced := { config with
    locations := replaceBlock (Location.isFrom url) (locationsOf url fresh) config.locations }
  have still : replaced.locations.find? (Location.isChoice key replaced.activeSource) =
      some location := by
    rw [find?_replaceBlock_isFrom disjoint, first]
  have unchanged : (config.replaceSubscriptionLocations unicode url fresh).1 = replaced :=
    reconcileActive_of_find chosen still
  constructor
  · rw [unchanged]
    exact activeLocation_of_find chosen still
  · rw [replaceSubscriptionLocations_locations]
    exact filter_replaceBlock_of_disjoint isFrom_of_mem_locationsOf fun _ => by simp

/-- Another provider sends the chosen location under the same key. -/
theorem update_keeps_choice_with_same_key :
    let chosen := VlessServer.base "vless" "fi.a" 443 "Finland"
    let config : Config := { Config.default with
      subscriptions := [.bare "https://a.example/s", .bare "https://b.example/s"]
      locations := [⟨VlessServer.base "vless" "de.b" 443 "Germany", some "https://b.example/s"⟩,
        ⟨chosen, some "https://a.example/s"⟩]
      active := some (.key (locationKey chosen))
      activeSource := some "https://a.example/s" }
    (config.replaceSubscriptionLocations .ascii "https://b.example/s"
      [chosen, chosen]).1.activeLocation = some ⟨chosen, some "https://a.example/s"⟩ := by
  intro chosen config
  have elsewhere : some "https://a.example/s" ≠ some "https://b.example/s" := by decide
  have resolved : config.activePosition = some 1 := rfl
  exact (update_keeps_choice_elsewhere [chosen, chosen] resolved rfl rfl elsewhere).1

/-! ## Loading -/

/-- Every location was added by hand or belongs to a configured subscription. -/
def Filed (config : Config) : Prop :=
  ∀ location ∈ config.locations, ∀ url, location.source = some url → config.lists url = true

theorem migratedLocations_of_filed (modern : config.servers = []) (filed : config.Filed) :
    config.migratedLocations = config.locations := by
  have adopted : ∀ location ∈ config.locations,
      config.adoptOrphan location = id location := by
    intro location member
    rw [adoptOrphan]
    split
    next => rfl
    next url owner =>
      rw [if_pos (filed location member url owner)]
      rfl
  rw [migratedLocations, modern, List.foldl_nil, List.map_congr_left adopted, List.map_id]

theorem migratedActive_of_structured
    (structured : ∀ label, config.active ≠ some (.legacy label)) :
    config.migratedActive = config.active := by
  rw [migratedActive]
  split
  next label legacy => exact absurd legacy (structured label)
  next => rfl

/-- A store without old state changes at most in the recorded source. -/
theorem migrate_eq (modern : config.servers = []) (filed : config.Filed)
    (structured : ∀ label, config.active ≠ some (.legacy label)) :
    config.migrate = { config with activeSource := config.migratedSource } := by
  rw [migrate, migratedLocations_of_filed modern filed,
    migratedActive_of_structured structured, ← modern]

/-- The source that a load records for a choice without one. -/
theorem migratedSource_key (modern : config.servers = []) (filed : config.Filed)
    (chosen : config.active = some (.key key)) (unrecorded : config.activeSource = none) :
    config.migratedSource =
      (config.locations.find? (Location.hasKey key)).bind Location.source := by
  have active : config.migratedActive = some (.key key) := by
    rw [migratedActive, chosen]
  rw [migratedSource, unrecorded, active, migratedLocations_of_filed modern filed]

/-- Without a recorded source a location added by hand comes first. -/
theorem activePosition_unrecorded (chosen : config.active = some (.key key))
    (unrecorded : config.activeSource = none) :
    config.activePosition =
      (config.locations.findIdx? (Location.isChoice key none)).or
        (config.locations.findIdx? (Location.hasKey key)) := by
  have anywhere : (fun location : Location =>
      location.hasKey key && config.isEligible location) = Location.hasKey key := by
    funext location
    simp [isEligible, activeHome, unrecorded]
  rw [activePosition_key chosen, unrecorded, anywhere]

/-- A choice without a recorded source that a load takes for another location: one
added by hand has the key, but the first location with the key belongs to a
subscription. -/
def Misread (config : Config) : Prop :=
  ∃ key first url, config.active = some (.key key) ∧ config.activeSource = none ∧
    config.locations.find? (Location.hasKey key) = some first ∧ first.source = some url ∧
    ∃ manual ∈ config.locations, manual.isChoice key none = true

/-- Loading moves a choice without a recorded source exactly when it is misread. -/
theorem activePosition_load_iff {first : Location} {url : String}
    (chosen : config.active = some (.key key)) (unrecorded : config.activeSource = none)
    (found : config.locations.find? (Location.hasKey key) = some first)
    (owner : first.source = some url) :
    ({ config with activeSource := some url } : Config).activePosition =
        config.activePosition ↔
      ∀ manual ∈ config.locations, manual.isChoice key none = false := by
  have narrow : ∀ (source : Option String) (location : Location),
      location.isChoice key source = true → location.hasKey key = true :=
    fun _ _ isChoice => (Bool.and_eq_true_iff.1 isChoice).1
  have keyed := List.find?_some found
  have accepted : first.isChoice key (some url) = true := by
    simp [Location.isChoice, keyed, owner]
  have loaded : ({ config with activeSource := some url } : Config).activePosition =
      config.locations.findIdx? (Location.hasKey key) := by
    have stillChosen : ({ config with activeSource := some url } : Config).active =
        some (.key key) := chosen
    rw [activePosition_key stillChosen, findIdx?_of_first (narrow _) found accepted]
    cases position : config.locations.findIdx? (Location.hasKey key) with
    | some index => rfl
    | none =>
        have absent := List.findIdx?_eq_none_iff.1 position first
          (List.mem_of_find?_eq_some found)
        rw [keyed] at absent
        cases absent
  rw [loaded, activePosition_unrecorded chosen unrecorded]
  constructor
  · intro same
    cases manual : config.locations.findIdx? (Location.isChoice key none) with
    | none => simpa using List.findIdx?_eq_none_iff.1 manual
    | some index =>
        -- The first location with the key would be one added by hand.
        rw [manual, Option.some_or] at same
        rw [List.find?_eq_bind_findIdx?_getElem?, same, Option.bind_some] at found
        rcases List.findIdx?_eq_some_iff_getElem.1 manual with ⟨inRange, isChoice, _⟩
        rw [List.getElem?_eq_getElem inRange, Option.some.injEq] at found
        rw [found] at isChoice
        simp [Location.isChoice, owner] at isChoice
  · intro none
    rw [List.findIdx?_eq_none_iff.2 none, Option.none_or]

/-- Saving and loading keeps the locations, and keeps where the choice resolves unless
it is misread. -/
theorem load_keeps_choice_iff (modern : config.servers = []) (filed : config.Filed)
    (structured : ∀ label, config.active ≠ some (.legacy label)) :
    (config.migrate.locations = config.locations ∧
        config.migrate.activePosition = config.activePosition) ↔ ¬config.Misread := by
  have unmoved : config.migratedSource = config.activeSource →
      config.migrate.activePosition = config.activePosition := by
    intro same
    rw [migrate_eq modern filed structured, same]
  have kept : config.migrate.locations = config.locations :=
    migratedLocations_of_filed modern filed
  rw [and_iff_right kept]
  cases choice : config.active with
  | none =>
      have resolvesNowhere : config.migrate.activePosition = config.activePosition := by
        rw [migrate_eq modern filed structured, activePosition, activePosition]
        simp only [choice]
      simp [Misread, choice, resolvesNowhere]
  | some reference =>
      cases reference with
      | legacy label => exact absurd choice (structured label)
      | key key =>
          cases recorded : config.activeSource with
          | some url =>
              have same : config.migratedSource = config.activeSource := by
                rw [migratedSource, recorded]
              simp [Misread, recorded, unmoved same]
          | none =>
              have source := migratedSource_key modern filed choice recorded
              cases found : config.locations.find? (Location.hasKey key) with
              | none =>
                  rw [found, Option.bind_none, ← recorded] at source
                  simp [Misread, choice, found, unmoved source]
              | some first =>
                  rw [found, Option.bind_some] at source
                  cases owner : first.source with
                  | none =>
                      rw [owner, ← recorded] at source
                      simp [Misread, choice, found, owner, unmoved source]
                  | some url =>
                      rw [migrate_eq modern filed structured, source, owner,
                        activePosition_load_iff choice recorded found owner]
                      simp [Misread, choice, recorded, found, owner]

/-- A location added by hand stays chosen where it stands before the same one in a
subscription. -/
theorem load_keeps_manual_first :
    let chosen := VlessServer.base "vless" "fi.a" 443 "Finland"
    let config : Config := { Config.default with
      subscriptions := [.bare "https://a.example/s"]
      locations := [⟨chosen, none⟩, ⟨chosen, some "https://a.example/s"⟩]
      active := some (.key (locationKey chosen)) }
    config.migrate.locations = config.locations ∧
      config.migrate.activePosition = config.activePosition := by
  intro chosen config
  have filed : config.Filed := by
    intro location member url owner
    rcases List.mem_cons.1 member with rfl | member
    · cases owner
    · rcases List.mem_singleton.1 member with rfl
      cases owner
      rfl
  have structured : ∀ label, config.active ≠ some (.legacy label) := by
    intro label legacy
    cases legacy
  apply (load_keeps_choice_iff rfl filed structured).2
  rintro ⟨key, first, url, active, _, found, owner, _⟩
  cases active
  have isFirst : config.locations.find? (Location.hasKey (locationKey chosen)) =
      some ⟨chosen, none⟩ := rfl
  rw [isFirst, Option.some.injEq] at found
  rw [← found] at owner
  cases owner

/-- A location added by hand is chosen, and loading moves the choice to the
subscription that has the same one. -/
theorem load_moves_manual_choice :
    let chosen := VlessServer.base "vless" "fi.a" 443 "Finland"
    let config : Config := { Config.default with
      subscriptions := [.bare "https://a.example/s"]
      locations := [⟨chosen, some "https://a.example/s"⟩, ⟨chosen, none⟩]
      active := some (.key (locationKey chosen)) }
    config.servers = [] ∧ config.Filed ∧ config.activePosition = some 1 ∧
      config.migrate.activePosition = some 0 := by
  intro chosen config
  refine ⟨rfl, ?_, rfl, rfl⟩
  intro location member url owner
  rcases List.mem_cons.1 member with rfl | member
  · cases owner
    rfl
  · rcases List.mem_singleton.1 member with rfl
    cases owner

end Config

end Varmlen.Cli
