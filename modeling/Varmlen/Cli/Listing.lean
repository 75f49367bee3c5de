import Varmlen.Cli.Choice
import Varmlen.Cli.Update

/-!
# The listing

Every location is filed under one configured subscription or was added by hand, so
the listing shows each of them once.  The locations of a subscription stand together,
so an update moves nothing but what stands behind them.
-/

namespace Varmlen.Cli

open Varmlen.Core Foundation.Text Foundation.Rows Foundation.Run

namespace Config

variable {unicode : Unicode} {urls : UrlParser} {config : Config}

/-! ## Filed locations -/

theorem filed_iff : config.Filed ↔ ∀ location ∈ config.locations, ∀ url,
    location.source = some url → url ∈ config.subscribed := by
  simp only [Filed, lists_iff]

/-- Loading files every location, whatever was stored. -/
theorem filed_migrate (config : Config) : config.migrate.Filed := by
  intro location member url owner
  rcases List.mem_map.1 member with ⟨before, _, rfl⟩
  rw [adoptOrphan] at owner
  split at owner
  next manual =>
    rw [manual] at owner
    cases owner
  next home recorded =>
    split at owner
    next listed =>
      rw [recorded] at owner
      cases owner
      exact listed
    next => cases owner

/-- A location added by hand takes the place of one with its key or stands at the
end. -/
theorem addManual_cases (config : Config) (server : VlessServer) :
    (config.addManual server).locations.map (fun location =>
        (location.source, locationKey location.server)) =
      config.locations.map (fun location =>
        (location.source, locationKey location.server)) ∨
    (config.addManual server).locations = config.locations ++ [⟨server, none⟩] ∧
      ∀ location ∈ config.locations, location.source = none →
        locationKey location.server ≠ locationKey server := by
  rw [addManual]
  split
  next index found =>
    left
    apply map_modify_of_same
    intro location located
    rcases List.findIdx?_eq_some_iff_getElem.1 found with ⟨inRange, accepted, _⟩
    rw [List.getElem?_eq_getElem inRange, Option.some.injEq] at located
    rw [located] at accepted
    have keyed := eq_of_beq (Bool.and_eq_true_iff.1 accepted).2
    rw [keyed]
  next absent =>
    refine .inr ⟨rfl, ?_⟩
    intro location member manual keyed
    have rejected := List.findIdx?_eq_none_iff.1 absent location member
    simp [manual, Location.hasKey, keyed] at rejected

theorem addManual_sources (config : Config) (server : VlessServer) :
    (config.addManual server).locations.map Location.source =
        config.locations.map Location.source ∨
      (config.addManual server).locations = config.locations ++ [⟨server, none⟩] := by
  cases addManual_cases config server with
  | inl same =>
      have sources := congrArg (List.map Prod.fst) same
      rw [List.map_map, List.map_map] at sources
      exact .inl sources
  | inr appended => exact .inr appended.1

/-- A location after a replacement is a fresh one of the subscription or stood before. -/
theorem mem_replaceSubscriptionLocations {home url : String} {fresh : List VlessServer}
    {location : Location}
    (member : location ∈
      (config.replaceSubscriptionLocations unicode home fresh).1.locations)
    (owner : location.source = some url) : url = home ∨ location ∈ config.locations := by
  rw [replaceSubscriptionLocations_locations, mem_replaceBlock] at member
  cases member with
  | inl isFresh =>
      have sameHome := isFrom_of_mem_locationsOf location isFresh
      rw [Location.isFrom, owner, beq_iff_eq, Option.some.injEq] at sameHome
      exact .inl sameHome
  | inr kept => exact .inr kept.1

/-- Adding a location by hand files none. -/
theorem mem_addManual_filed {server : VlessServer} {location : Location} {url : String}
    (member : location ∈ (config.addManual server).locations)
    (owner : location.source = some url) :
    ∃ before ∈ config.locations, before.source = some url := by
  cases addManual_sources config server with
  | inl sources =>
      have recorded : some url ∈ config.locations.map Location.source := by
        rw [← sources, ← owner]
        exact List.mem_map_of_mem member
      exact List.mem_map.1 recorded
  | inr appended =>
      rw [appended, List.mem_append, List.mem_singleton] at member
      cases member with
      | inl member => exact ⟨location, member, owner⟩
      | inr added =>
          rw [added] at owner
          cases owner

/-- The edit leaves every location filed. -/
theorem filed_apply (edit : Edit) (filed : config.Filed) (valid : edit.Valid config) :
    (edit.apply unicode config).Filed := by
  have urlsAfter : edit.KeepsUrls → (edit.apply unicode config).subscribed =
      edit.subscribedAfter config := subscribed_apply edit
  rw [filed_iff] at filed ⊢
  cases edit with
  | migrate => exact filed_iff.1 (filed_migrate config)
  | addManual server =>
      rw [urlsAfter trivial]
      intro location member url owner
      rcases mem_addManual_filed member owner with ⟨before, beforeMember, sameSource⟩
      exact filed before beforeMember url sameSource
  | removeLocation index =>
      rw [urlsAfter trivial]
      intro location member
      rw [Edit.apply, removeLocation_locations] at member
      exact filed location (List.mem_of_mem_eraseIdx member)
  | addSubscription subscription fresh =>
      rw [urlsAfter trivial]
      intro location member url owner
      rw [Edit.subscribedAfter, List.mem_append, List.mem_singleton]
      cases mem_replaceSubscriptionLocations member owner with
      | inl sameHome => exact .inr sameHome
      | inr kept => exact .inl (filed location kept url owner)
  | replaceLocations home fresh =>
      rw [urlsAfter trivial]
      intro location member url owner
      cases mem_replaceSubscriptionLocations member owner with
      | inl sameHome =>
          rw [sameHome]
          exact lists_iff.1 valid.1
      | inr kept => exact filed location kept url owner
  | removeSubscription index =>
      obtain ⟨removed, found⟩ : ∃ removed, config.subscriptions[index]? = some removed :=
        ⟨_, List.getElem?_eq_getElem valid⟩
      rw [urlsAfter trivial, removeSubscription_eq found, reconcileActive_locations]
      intro location member url owner
      rcases List.mem_filter.1 member with ⟨member, notRemoved⟩
      have otherUrl : url ≠ removed.url := by
        simpa [Location.isFrom, owner] using notRemoved
      rw [Edit.subscribedAfter, subscribed, List.eraseIdx_map]
      exact mem_subscribed_eraseIdx found otherUrl.symm (filed location member url owner)
  | annotate index note =>
      rw [urlsAfter valid]
      exact filed
  | setActive location =>
      rw [urlsAfter trivial]
      exact filed

/-- The edit leaves the URLs distinct. -/
theorem distinct_apply (edit : Edit) (distinct : config.subscribed.Nodup)
    (valid : edit.Valid config) : (edit.apply unicode config).subscribed.Nodup := by
  have urlsAfter : edit.KeepsUrls → (edit.apply unicode config).subscribed =
      edit.subscribedAfter config := subscribed_apply edit
  cases edit with
  | addSubscription subscription fresh =>
      rw [urlsAfter trivial]
      have unlisted : subscription.url ∉ config.subscribed := by
        rw [← lists_iff, valid.1]
        simp
      exact List.nodup_append_comm.1 (List.nodup_cons.2 ⟨unlisted, distinct⟩)
  | removeSubscription index =>
      rw [urlsAfter trivial]
      exact distinct.sublist (List.eraseIdx_sublist _ _)
  | annotate index note =>
      rw [urlsAfter valid]
      exact distinct
  | migrate => exact distinct
  | addManual server =>
      rw [urlsAfter trivial]
      exact distinct
  | removeLocation index =>
      rw [urlsAfter trivial]
      exact distinct
  | replaceLocations url fresh =>
      rw [urlsAfter trivial]
      exact distinct
  | setActive location => exact distinct

/-! ## What is listed -/

theorem mem_listed {index : Nat} : index ∈ config.listed ↔
    ∃ location, config.locations[index]? = some location ∧
      ∀ url, location.source = some url → url ∈ config.subscribed := by
  rw [listed]
  split
  next empty => simp [List.isEmpty_iff.1 empty]
  next =>
    simp only [List.mem_append, List.mem_flatMap, mem_positions]
    constructor
    · rintro (⟨subscription, member, location, found, owned⟩ | ⟨location, found, manual⟩)
      · refine ⟨location, found, ?_⟩
        intro url owner
        rw [Location.isFrom, owner, beq_iff_eq, Option.some.injEq] at owned
        rw [owned]
        exact List.mem_map_of_mem member
      · refine ⟨location, found, ?_⟩
        intro url owner
        rw [owner] at manual
        cases manual
    · rintro ⟨location, found, filed⟩
      cases owner : location.source with
      | none => exact .inr ⟨location, found, by simp [owner]⟩
      | some url =>
          rcases List.mem_map.1 (filed url owner) with ⟨subscription, member, rfl⟩
          exact .inl ⟨subscription, member, location, found, by simp [Location.isFrom, owner]⟩

theorem listed_nodup (distinct : config.subscribed.Nodup) : config.listed.Nodup := by
  -- A position is in two groups only if its location has two sources.
  have apart : ∀ {left right : Location → Bool} {index : Nat},
      index ∈ positions left config.locations → index ∈ positions right config.locations →
        ∃ location, left location = true ∧ right location = true := by
    intro left right index inLeft inRight
    rcases mem_positions.1 inLeft with ⟨location, found, isLeft⟩
    rcases mem_positions.1 inRight with ⟨same, foundAgain, isRight⟩
    rw [found, Option.some.injEq] at foundAgain
    exact ⟨location, isLeft, foundAgain ▸ isRight⟩
  rw [listed]
  split
  next => exact List.nodup_nil
  next =>
    apply List.Nodup.append
    · rw [List.nodup_flatMap]
      refine ⟨fun _ _ => positions_nodup, ?_⟩
      rw [subscribed, List.Nodup, List.pairwise_map] at distinct
      apply distinct.imp
      intro left right different index inLeft inRight
      rcases apart inLeft inRight with ⟨location, isLeft, isRight⟩
      rw [isFrom_of_ne different isLeft] at isRight
      cases isRight
    · exact positions_nodup
    · intro index owned manual
      rcases List.mem_flatMap.1 owned with ⟨subscription, _, inGroup⟩
      rcases apart inGroup manual with ⟨location, isOwned, isManual⟩
      rw [Location.isFrom, beq_iff_eq] at isOwned
      simp [isOwned] at isManual

/-- Every location is filed, under a URL that is configured once. -/
structure Listable (config : Config) : Prop where
  distinct : config.subscribed.Nodup
  filed : config.Filed

theorem listable_step (config : Config) (input : Command × Environment)
    (listable : config.Listable) : (Command.step unicode urls config input).Listable :=
  (edited_step config input).preserves (fun _ edit before valid =>
    ⟨distinct_apply edit before.distinct valid, filed_apply edit before.filed valid⟩) listable

theorem Listable.listed_perm (listable : config.Listable) :
    config.listed.Perm (List.range config.locations.length) := by
  rw [List.perm_ext_iff_of_nodup (listed_nodup listable.distinct) List.nodup_range]
  intro index
  rw [mem_listed, List.mem_range]
  constructor
  · rintro ⟨location, found, _⟩
    exact (List.getElem?_eq_some_iff.1 found).1
  · intro inRange
    refine ⟨config.locations[index], List.getElem?_eq_getElem inRange, ?_⟩
    exact filed_iff.1 listable.filed _ (List.getElem_mem inRange)

/-- After a load, and after any commands that follow it, the URLs are distinct, every
location is filed, and the listing shows each location once. -/
theorem every_location_listed_once (unicode : Unicode) (urls : UrlParser) (stored : Config)
    (distinct : stored.subscribed.Nodup) (inputs : List (Command × Environment)) :
    Always (Command.step unicode urls)
      (fun config => config.subscribed.Nodup ∧
        (∀ location ∈ config.locations, ∀ url, location.source = some url →
          url ∈ config.subscribed) ∧
        config.listed.Perm (List.range config.locations.length))
      stored.migrate inputs := by
  have sound : ∀ config : Config, config.Listable → config.subscribed.Nodup ∧
      (∀ location ∈ config.locations, ∀ url, location.source = some url →
        url ∈ config.subscribed) ∧
      config.listed.Perm (List.range config.locations.length) :=
    fun _ listable => ⟨listable.distinct, filed_iff.1 listable.filed, listable.listed_perm⟩
  have loaded : stored.migrate.Listable := ⟨distinct, filed_migrate stored⟩
  exact always_of_invariant sound (fun config input listable _ =>
    listable_step config input listable) inputs _ loaded (everyStep_true inputs _)

/-- A stored location whose subscription is gone is filed with the ones added by
hand. -/
theorem orphan_listed_once :
    let stored : Config := { Config.default with
      subscriptions := [.bare "https://a.example/s"]
      locations := [⟨.base "vless" "b.example" 443 "B", some "https://b.example/s"⟩,
        ⟨.base "vless" "a.example" 443 "A", some "https://a.example/s"⟩] }
    stored.migrate.listed = [1, 0] ∧ stored.migrate.listed.Perm (List.range 2) := by
  intro stored
  refine ⟨by decide, ?_⟩
  have distinct : stored.subscribed.Nodup := by decide
  have always := every_location_listed_once .ascii (.ofPlain []) stored distinct []
  exact (always_nil.1 always).2.2

/-! ## Blocks -/

/-- The locations of each subscription stand together in a store without old
state. -/
structure Blocked (config : Config) : Prop where
  modern : config.servers = []
  filed : config.Filed
  together : ∀ url, Contiguous (Location.isFrom url) config.locations

theorem contiguous_replaceLocations {url home : String} {fresh : List VlessServer}
    {locations : List Location} (together : Contiguous (Location.isFrom url) locations) :
    Contiguous (Location.isFrom url)
      (replaceBlock (Location.isFrom home) (locationsOf home fresh) locations) := by
  by_cases same : url = home
  · rw [same]
    exact contiguous_replaceBlock_owned isFrom_of_mem_locationsOf
  · exact contiguous_replaceBlock_of_disjoint isFrom_of_mem_locationsOf
      (fun _ => isFrom_of_ne same) together

theorem contiguous_apply {url : String} (edit : Edit) (modern : config.servers = [])
    (filed : config.Filed) (together : Contiguous (Location.isFrom url) config.locations) :
    Contiguous (Location.isFrom url) (edit.apply unicode config).locations := by
  cases edit with
  | migrate =>
      rw [Edit.apply, migrate, migratedLocations_of_filed modern filed]
      exact together
  | addManual server =>
      rw [Edit.apply]
      cases addManual_sources config server with
      | inl sources =>
          apply together.of_map_eq
          have owned := congrArg (List.map fun source => source == some url) sources
          rw [List.map_map, List.map_map] at owned
          exact owned
      | inr appended =>
          rw [appended]
          apply together.append
          simp [Location.isFrom]
  | removeLocation index =>
      rw [Edit.apply, removeLocation_locations]
      exact together.sublist (List.eraseIdx_sublist _ _)
  | addSubscription subscription fresh =>
      rw [Edit.apply, replaceSubscriptionLocations_locations]
      exact contiguous_replaceLocations together
  | replaceLocations home fresh =>
      rw [Edit.apply, replaceSubscriptionLocations_locations]
      exact contiguous_replaceLocations together
  | removeSubscription index =>
      cases found : config.subscriptions[index]? with
      | none =>
          rw [Edit.apply, removeSubscription, found]
          exact together
      | some removed =>
          rw [removeSubscription_eq found, reconcileActive_locations]
          exact together.sublist List.filter_sublist
  | annotate index note => exact together
  | setActive location => exact together

theorem modern_apply (edit : Edit) (modern : config.servers = []) :
    (edit.apply unicode config).servers = [] := by
  cases edit with
  | migrate => rfl
  | addManual server => rw [Edit.apply, addManual_servers, modern]
  | removeLocation index => rw [Edit.apply, removeLocation_servers, modern]
  | addSubscription subscription fresh =>
      rw [Edit.apply, replaceSubscriptionLocations_servers, modern]
  | replaceLocations url fresh =>
      rw [Edit.apply, replaceSubscriptionLocations_servers, modern]
  | removeSubscription index =>
      cases found : config.subscriptions[index]? with
      | none =>
          rw [Edit.apply, removeSubscription, found]
          exact modern
      | some removed =>
          rw [removeSubscription_eq found, reconcileActive_servers]
          exact modern
  | annotate index note => exact modern
  | setActive location => exact modern

theorem Blocked.edited {after : Config} (blocked : config.Blocked)
    (edited : Edited unicode config after) : after.Blocked :=
  edited.preserves (fun _ edit before valid =>
    ⟨modern_apply edit before.modern, filed_apply edit before.filed valid,
      fun url => contiguous_apply edit before.modern before.filed (before.together url)⟩)
    blocked

theorem blocked_default : Config.default.Blocked where
  modern := rfl
  filed := by
    intro location member
    cases member
  together := fun _ => Contiguous.nil

/-- In every state that commands lead to, the locations of each subscription form one
block.  At every turn of an update in such a state, a block that is not empty is
replaced in its place: what stands before it keeps its number, and what stands behind
it moves by the difference of the lengths. -/
theorem subscriptions_stay_together (unicode : Unicode) (urls : UrlParser)
    (inputs : List (Command × Environment)) :
    let config := inputs.foldl (Command.step unicode urls) Config.default
    (∀ url, ∃ before block after,
      Block (Location.isFrom url) config.locations before block after) ∧
    ∀ name environment turns url rest,
      config.updating unicode urls name = turns ++ url :: rest →
      let reached := turns.foldl (updateOne unicode environment) (config, 0)
      ∀ result, environment.fetch url = .ok result → result.servers ≠ [] →
        ∃ before block after,
          Block (Location.isFrom url) reached.1.locations before block after ∧
          (block ≠ [] →
            InPlace before block (locationsOf url result.servers) after
              reached.1.locations
              (updateOne unicode environment reached url).1.locations) := by
  intro config
  have preserved : ∀ state input, Blocked state → True →
      Blocked (Command.step unicode urls state input) :=
    fun state input before _ => before.edited (edited_step state input)
  have blocked : config.Blocked :=
    invariant_foldl preserved inputs _ blocked_default (everyStep_true inputs _)
  refine ⟨fun url => (blocked.together url).block, ?_⟩
  intro name environment turns url rest selected reached result fetched nonempty
  have reachedBlocked : reached.1.Blocked := blocked.edited (edited_updates turns (config, 0))
  rcases (reachedBlocked.together url).block with ⟨before, block, after, isBlock⟩
  refine ⟨before, block, after, isBlock, ?_⟩
  intro occupied
  have listed : url ∈ reached.1.subscribed := by
    rcases List.exists_mem_of_ne_nil block occupied with ⟨row, member⟩
    have owner := isBlock.inside row member
    rw [Location.isFrom, beq_iff_eq] at owner
    exact filed_iff.1 reachedBlocked.filed row (isBlock.mem member) url owner
  rw [updateOne_locations reached url listed (updateOutcome_ok fetched nonempty)]
  exact isBlock.inPlace occupied

end Config

end Varmlen.Cli
