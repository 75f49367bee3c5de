import Varmlen.Cli.Listing

/-!
# Migrating an old store

Loading a store folds what older versions wrote into the current shape
(`cli/src/config.rs`).  No location is lost or doubled on the way, and a store that has
been migrated stays as it is.
-/

namespace Varmlen.Cli

open Varmlen.Core

namespace Config

variable {config : Config}

/-! ## Locations of the old schema -/

/-- The list starts with the old locations, and what comes after them has keys of its
own. -/
structure Extends (before after : List Location) : Prop where
  kept : before <+: after
  fresh : ∀ {index earlier : Nat} {location other : Location}, before.length ≤ index →
    earlier < index → after[index]? = some location → after[earlier]? = some other →
    locationKey other.server ≠ locationKey location.server

theorem extends_refl (locations : List Location) : Extends locations locations where
  kept := List.prefix_refl locations
  fresh := by
    intro index earlier location other beyond _ found
    rw [List.getElem?_eq_none beyond] at found
    cases found

theorem extends_adoptServer {before after : List Location} (source : Option String)
    (server : VlessServer) (extended : Extends before after) :
    Extends before (adoptServer source after server) := by
  rw [adoptServer]
  split
  next => exact extended
  next absent =>
    have unseen : ∀ other ∈ after, locationKey other.server ≠ locationKey server := by
      simpa [Location.hasKey] using absent
    refine ⟨extended.kept.trans (List.prefix_append _ _), ?_⟩
    intro index earlier location other beyond before found foundEarlier
    have indexBound := (List.getElem?_eq_some_iff.1 found).1
    rw [List.length_append, List.length_singleton] at indexBound
    have inOld : earlier < after.length := by omega
    rw [List.getElem?_append_left inOld] at foundEarlier
    by_cases old : index < after.length
    · rw [List.getElem?_append_left old] at found
      exact extended.fresh beyond before found foundEarlier
    · obtain rfl : index = after.length := by omega
      rw [List.getElem?_concat_length, Option.some.injEq] at found
      rw [← found]
      exact unseen other (List.mem_of_getElem? foundEarlier)

theorem extends_adopted (source : Option String) (servers : List VlessServer)
    {before after : List Location} (extended : Extends before after) :
    Extends before (servers.foldl (adoptServer source) after) := by
  induction servers generalizing after with
  | nil => exact extended
  | cons server rest ih => exact ih (extends_adoptServer source server extended)

/-- The key of a server of the old schema is there afterwards. -/
theorem hasKey_adoptServer (source : Option String) (locations : List Location)
    (server : VlessServer) :
    ∃ location ∈ adoptServer source locations server,
      locationKey location.server = locationKey server := by
  rw [adoptServer]
  split
  next found =>
    rcases List.any_eq_true.1 found with ⟨location, member, keyed⟩
    exact ⟨location, member, eq_of_beq keyed⟩
  next => exact ⟨⟨server, source⟩, by simp, rfl⟩

theorem hasKey_adopted {source : Option String} {servers : List VlessServer}
    (locations : List Location) {server : VlessServer} (member : server ∈ servers) :
    ∃ location ∈ servers.foldl (adoptServer source) locations,
      locationKey location.server = locationKey server := by
  induction servers generalizing locations with
  | nil => cases member
  | cons head rest ih =>
      rw [List.foldl_cons]
      cases member with
      | head =>
          have later := extends_adopted source rest
            (extends_refl (adoptServer source locations server))
          rcases hasKey_adoptServer source locations server with ⟨location, there, keyed⟩
          exact ⟨location, later.kept.subset there, keyed⟩
      | tail _ member => exact ih (adoptServer source locations head) member

/-! ## Migrated stores -/

@[simp] theorem adoptOrphan_server (location : Location) :
    (config.adoptOrphan location).server = location.server := by
  rw [adoptOrphan]
  split
  next => rfl
  next => split <;> rfl

theorem migratedLocations_servers (config : Config) :
    config.migratedLocations.map Location.server =
      (config.servers.foldl (adoptServer config.inferredSource) config.locations).map
        Location.server := by
  rw [migratedLocations, List.map_map]
  exact List.map_congr_left fun location _ => adoptOrphan_server location

theorem getElem?_migratedLocations {index : Nat} {location : Location}
    (found : config.migratedLocations[index]? = some location) :
    ∃ adopted, (config.servers.foldl (adoptServer config.inferredSource)
        config.locations)[index]? = some adopted ∧ adopted.server = location.server := by
  rw [migratedLocations, List.getElem?_map, Option.map_eq_some_iff] at found
  rcases found with ⟨adopted, there, rfl⟩
  exact ⟨adopted, there, (adoptOrphan_server adopted).symm⟩

/-- No choice is left in the old form. -/
theorem migrate_structured (config : Config) (label : String) :
    config.migrate.active ≠ some (.legacy label) := by
  change config.migratedActive ≠ some (.legacy label)
  rw [migratedActive]
  split
  next old _ =>
    intro legacy
    rw [Option.map_eq_some_iff] at legacy
    rcases legacy with ⟨location, _, isKey⟩
    cases isKey
  next structured => exact structured label

/-- The recorded source of a migrated choice is not looked up again. -/
theorem migratedSource_migrate (config : Config) :
    config.migrate.migratedSource = config.migrate.activeSource := by
  have locations : config.migrate.migratedLocations = config.migratedLocations :=
    migratedLocations_of_filed rfl (filed_migrate config)
  have active : config.migrate.migratedActive = config.migratedActive :=
    migratedActive_of_structured (migrate_structured config)
  have source : config.migrate.activeSource = config.migratedSource := rfl
  rw [migratedSource, locations, active, source]
  split
  next key unrecorded chosen =>
    -- the lookup is the one that the first migration made
    rw [unrecorded, ← unrecorded, migratedSource, chosen]
    cases recorded : config.activeSource with
    | none => rfl
    | some source =>
        rw [migratedSource, recorded] at unrecorded
        cases unrecorded
  next => rfl

/-- Nothing is lost, nothing is doubled, and a second migration changes nothing. -/
theorem migrate_complete_settled (config : Config) :
    config.locations.map Location.server <+: config.migrate.locations.map Location.server ∧
    (∀ server ∈ config.servers, ∃ location ∈ config.migrate.locations,
      locationKey location.server = locationKey server) ∧
    (∀ (index earlier : Nat) (location other : Location),
      config.locations.length ≤ index → earlier < index →
      config.migrate.locations[index]? = some location →
      config.migrate.locations[earlier]? = some other →
      locationKey other.server ≠ locationKey location.server) ∧
    (∀ label, config.migrate.active ≠ some (.legacy label)) ∧
    config.migrate.migrate = config.migrate := by
  have adopted := extends_adopted config.inferredSource config.servers
    (extends_refl config.locations)
  refine ⟨?_, ?_, ?_, migrate_structured config, ?_⟩
  · change _ <+: config.migratedLocations.map Location.server
    rw [migratedLocations_servers]
    exact adopted.kept.map Location.server
  · intro server member
    rcases hasKey_adopted config.locations member with ⟨location, there, keyed⟩
    refine ⟨config.adoptOrphan location, List.mem_map_of_mem there, ?_⟩
    rw [adoptOrphan_server, keyed]
  · intro index earlier location other beyond before found foundEarlier
    rcases getElem?_migratedLocations found with ⟨late, foundLate, sameLate⟩
    rcases getElem?_migratedLocations foundEarlier with ⟨early, foundEarly, sameEarly⟩
    rw [← sameLate, ← sameEarly]
    exact adopted.fresh beyond before foundLate foundEarly
  · rw [migrate_eq rfl (filed_migrate config) (migrate_structured config),
      migratedSource_migrate]

end Config

end Varmlen.Cli
