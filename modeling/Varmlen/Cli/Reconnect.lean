import Varmlen.Cli.Listing

/-!
# Reconnecting

A choice is stored as a key and a source, so a bare `connect` uses the chosen server
again only when no other server of that source has its key.  Locations added by hand
have distinct keys; what a provider sends may not.
-/

namespace Varmlen.Cli

open Varmlen.Core Foundation.Text Foundation.Rows Foundation.Run

/-- Servers with one key are one server. -/
def KeyedOnce (servers : List VlessServer) : Prop :=
  ∀ left ∈ servers, ∀ right ∈ servers, locationKey left = locationKey right → left = right

theorem KeyedOnce.subset {servers fewer : List VlessServer} (keyed : KeyedOnce servers)
    (inside : fewer ⊆ servers) : KeyedOnce fewer :=
  fun left leftIn right rightIn => keyed left (inside leftIn) right (inside rightIn)

theorem keyedOnce_of_nodup {servers : List VlessServer}
    (distinct : (servers.map locationKey).Nodup) : KeyedOnce servers :=
  fun _ leftIn _ rightIn => List.inj_on_of_nodup_map distinct leftIn rightIn

namespace Config

variable {unicode : Unicode} {urls : UrlParser} {config : Config}

/-- Whichever location is chosen, a bare `connect` uses its server. -/
def Reconnects (config : Config) : Prop :=
  ∀ (index : Nat) (location : Location), config.locations[index]? = some location →
    ∃ again found, (config.setActive location).activeIndex = .ok again ∧
      config.locations[again]? = some found ∧ found.server = location.server

/-- The servers that a source holds. -/
def held (config : Config) (source : Option String) : List VlessServer :=
  (config.locations.filter fun location => location.source == source).map Location.server

theorem mem_held {source : Option String} {server : VlessServer} :
    server ∈ config.held source ↔ ⟨server, source⟩ ∈ config.locations := by
  rw [held, List.mem_map]
  constructor
  · rintro ⟨⟨server, home⟩, member, rfl⟩
    rcases List.mem_filter.1 member with ⟨member, sameSource⟩
    rw [beq_iff_eq] at sameSource
    exact sameSource ▸ member
  · intro member
    exact ⟨_, List.mem_filter.2 ⟨member, beq_self_eq_true source⟩, rfl⟩

theorem held_of_rows {url : String} {servers : List VlessServer}
    (rows : config.locations.filter (Location.isFrom url) = locationsOf url servers) :
    config.held (some url) = servers := by
  have mapped := congrArg (List.map Location.server) rows
  rw [locationsOf, List.map_map] at mapped
  exact mapped.trans (List.map_id _)

theorem held_congr {after : Config} {url : String}
    (same : after.locations.filter (Location.isFrom url) =
      config.locations.filter (Location.isFrom url)) :
    after.held (some url) = config.held (some url) :=
  congrArg (List.map Location.server) same

/-- A choice that was just made resolves to a location of its source with its key. -/
theorem activeIndex_setActive {location : Location} (member : location ∈ config.locations) :
    ∃ again found, (config.setActive location).activeIndex = .ok again ∧
      config.locations[again]? = some found ∧
      locationKey found.server = locationKey location.server ∧
      found.source = location.source := by
  have chosen : (config.setActive location).active =
      some (.key (locationKey location.server)) := rfl
  have isChoice : location.isChoice (locationKey location.server) location.source = true := by
    simp [Location.isChoice, Location.hasKey]
  cases first : config.locations.findIdx?
      (Location.isChoice (locationKey location.server) location.source) with
  | none =>
      have rejected := List.findIdx?_eq_none_iff.1 first location member
      rw [isChoice] at rejected
      cases rejected
  | some again =>
      rcases List.findIdx?_eq_some_iff_getElem.1 first with ⟨inRange, accepted, _⟩
      have position : (config.setActive location).activePosition = some again := by
        have sameFirst : (config.setActive location).locations.findIdx?
            (Location.isChoice (locationKey location.server)
              (config.setActive location).activeSource) = some again := first
        rw [activePosition_key chosen, sameFirst, Option.some_or]
      refine ⟨again, config.locations[again], ?_, List.getElem?_eq_getElem inRange, ?_⟩
      · rw [activeIndex, chosen]
        dsimp only
        rw [position]
      · simpa [Location.isChoice, Location.hasKey] using accepted

theorem reconnects_iff : config.Reconnects ↔ ∀ source, KeyedOnce (config.held source) := by
  constructor
  · intro reconnects source left leftIn right rightIn sameKey
    rcases List.getElem?_of_mem (mem_held.1 leftIn) with ⟨index, located⟩
    rcases List.getElem?_of_mem (mem_held.1 rightIn) with ⟨other, otherLocated⟩
    rcases reconnects index _ located with ⟨again, found, resolved, foundAt, isLeft⟩
    rcases reconnects other _ otherLocated with ⟨again', found', resolved', foundAt', isRight⟩
    -- Choosing either of them stores the same thing.
    have sameChoice : config.setActive ⟨left, source⟩ = config.setActive ⟨right, source⟩ := by
      simp [setActive, sameKey]
    rw [sameChoice, resolved', Except.ok.injEq] at resolved
    rw [← resolved, foundAt', Option.some.injEq] at foundAt
    rw [foundAt] at isRight
    exact isLeft.symm.trans isRight
  · intro keyed index location located
    have member := List.mem_of_getElem? located
    rcases activeIndex_setActive member with ⟨again, found, resolved, foundAt, sameKey, sameSource⟩
    have foundIn : found.server ∈ config.held location.source := by
      rw [mem_held, ← sameSource]
      exact List.mem_of_getElem? foundAt
    exact ⟨again, found, resolved, foundAt,
      keyed location.source found.server foundIn location.server (mem_held.2 member) sameKey⟩

/-! ## Locations added by hand -/

/-- The keys of the locations added by hand. -/
def manualKeys (config : Config) : List LocationKey :=
  (config.held none).map locationKey

theorem manualKeys_eq (config : Config) :
    config.manualKeys = ((config.locations.map fun location =>
      (location.source, locationKey location.server)).filter
        fun entry => entry.1 == none).map Prod.snd := by
  rw [manualKeys, held, List.filter_map, List.map_map, List.map_map]
  rfl

theorem manualKeys_nodup_of_sublist {after : Config} (distinct : config.manualKeys.Nodup)
    (fewer : after.locations.Sublist config.locations) : after.manualKeys.Nodup :=
  distinct.sublist (((fewer.filter _).map Location.server).map locationKey)

theorem manualKeys_replaceBlock {after : Config} {url : String} {fresh : List VlessServer}
    (replaced : after.locations =
      replaceBlock (Location.isFrom url) (locationsOf url fresh) config.locations) :
    after.manualKeys = config.manualKeys := by
  have manualOther : ∀ location : Location, (location.source == none) = true →
      location.isFrom url = false := by
    intro location manual
    rw [beq_iff_eq] at manual
    simp [Location.isFrom, manual]
  rw [manualKeys, held, replaced,
    filter_replaceBlock_of_disjoint isFrom_of_mem_locationsOf manualOther]
  rfl

theorem manualKeys_nodup_addManual (server : VlessServer)
    (distinct : config.manualKeys.Nodup) : (config.addManual server).manualKeys.Nodup := by
  cases addManual_cases config server with
  | inl same => rwa [manualKeys_eq, same, ← manualKeys_eq]
  | inr appended =>
      have fresh : locationKey server ∉ config.manualKeys := by
        intro used
        rcases List.mem_map.1 used with ⟨other, otherIn, sameKey⟩
        exact appended.2 _ (mem_held.1 otherIn) rfl sameKey
      have keys : (config.addManual server).manualKeys =
          config.manualKeys ++ [locationKey server] := by
        simp [manualKeys, held, appended.1]
      rw [keys]
      exact List.nodup_append_comm.1 (List.nodup_cons.2 ⟨fresh, distinct⟩)

/-- A store without old state in which every location is filed and the keys of the
locations added by hand are distinct. -/
structure Orderly (config : Config) : Prop where
  modern : config.servers = []
  listable : config.Listable
  manualOnce : config.manualKeys.Nodup

theorem orderly_default : Config.default.Orderly where
  modern := rfl
  listable := ⟨List.nodup_nil, by
    intro location member
    cases member⟩
  manualOnce := List.nodup_nil

theorem manualKeys_nodup_apply (edit : Edit) (orderly : config.Orderly) :
    (edit.apply unicode config).manualKeys.Nodup := by
  have distinct := orderly.manualOnce
  cases edit with
  | migrate =>
      have same := migratedLocations_of_filed orderly.modern orderly.listable.filed
      rwa [Edit.apply, manualKeys, held, migrate, same]
  | addManual server => exact manualKeys_nodup_addManual server distinct
  | removeLocation index =>
      apply manualKeys_nodup_of_sublist distinct
      rw [Edit.apply, removeLocation_locations]
      exact List.eraseIdx_sublist _ _
  | addSubscription subscription fresh =>
      rw [Edit.apply, manualKeys_replaceBlock (replaceSubscriptionLocations_locations _ _ _)]
      exact distinct
  | replaceLocations url fresh =>
      rw [Edit.apply, manualKeys_replaceBlock (replaceSubscriptionLocations_locations _ _ _)]
      exact distinct
  | removeSubscription index =>
      cases found : config.subscriptions[index]? with
      | none =>
          rw [Edit.apply, removeSubscription, found]
          exact distinct
      | some removed =>
          apply manualKeys_nodup_of_sublist distinct
          rw [removeSubscription_eq found, reconcileActive_locations]
          exact List.filter_sublist
  | annotate index note => exact distinct
  | setActive location => exact distinct

theorem orderly_step (config : Config) (input : Command × Environment)
    (orderly : config.Orderly) : (Command.step unicode urls config input).Orderly :=
  (edited_step config input).preserves (fun _ edit before valid =>
    ⟨modern_apply edit before.modern,
      ⟨distinct_apply edit before.listable.distinct valid,
        filed_apply edit before.listable.filed valid⟩,
      manualKeys_nodup_apply edit before⟩) orderly

theorem Orderly.reconnects_iff (orderly : config.Orderly) :
    config.Reconnects ↔ ∀ url, KeyedOnce (config.held (some url)) := by
  rw [Config.reconnects_iff]
  constructor
  · exact fun keyed url => keyed (some url)
  · intro keyed source
    cases source with
    | none => exact keyedOnce_of_nodup orderly.manualOnce
    | some url => exact keyed url

/-! ## What the subscriptions hold after a command -/

/-- The list that the fetch of a URL brings. -/
def fetchedList (environment : Environment) (url : String) : List (List VlessServer) :=
  match environment.fetch url with
  | .ok result => [result.servers]
  | .error _ => []

/-- The lists that a command takes over from providers. -/
def taken (unicode : Unicode) (urls : UrlParser) (config : Config) :
    Command × Environment → List (List VlessServer)
  | (.subAdd url, environment) =>
      if config.lists url then [] else fetchedList environment url
  | (.subUpdate name, environment) =>
      (config.updating unicode urls name).flatMap (fetchedList environment)
  | _ => []

theorem held_subset_of_sublist {after : Config} {source : Option String}
    (fewer : after.locations.Sublist config.locations) :
    after.held source ⊆ config.held source :=
  ((fewer.filter _).map Location.server).subset

theorem held_addManual (server : VlessServer) (url : String) :
    (config.addManual server).held (some url) = config.held (some url) := by
  have outside : ∀ other : VlessServer,
      ((⟨other, none⟩ : Location).source == some url) = false := fun _ => rfl
  rw [held, held, addManual]
  split
  next index found =>
    dsimp only
    rw [filter_modify_of_outside]
    intro location located
    rcases List.findIdx?_eq_some_iff_getElem.1 found with ⟨inRange, accepted, _⟩
    rw [List.getElem?_eq_getElem inRange, Option.some.injEq] at located
    rw [located] at accepted
    have manual := Option.isNone_iff_eq_none.1 (Bool.and_eq_true_iff.1 accepted).1
    simp [manual]
  next => simp

theorem held_removeListed {index : Nat} {environment : Environment}
    {source : Option String} :
    (config.removeListed unicode index environment).1.held source ⊆ config.held source := by
  rw [removeListed, removeSubscription]
  cases config.subscriptions[index]? with
  | none => exact List.Subset.refl _
  | some removed =>
      apply held_subset_of_sublist
      dsimp only [Option.map_some]
      rw [reconcileActive_locations]
      exact List.filter_sublist

theorem mem_fetchedList {environment : Environment} {url : String}
    {servers : List VlessServer} :
    servers ∈ fetchedList environment url ↔
      ∃ result, environment.fetch url = .ok result ∧ servers = result.servers := by
  rw [fetchedList]
  cases environment.fetch url with
  | error message => simp
  | ok result => simp

/-- After an update a subscription holds a list that was taken over, or what it held
before. -/
theorem held_subUpdate (orderly : config.Orderly) (name : String)
    (environment : Environment) (url : String) :
    let after := (config.subUpdate unicode urls name environment).1
    after.held (some url) ∈ config.taken unicode urls (.subUpdate name, environment) ∨
      after.held (some url) = config.held (some url) := by
  intro after
  have each := (updatedEach_subUpdate unicode urls environment config name
    orderly.listable.distinct)
  by_cases selected : url ∈ config.updating unicode urls name
  · by_cases fails : FetchFails environment url
    · right
      exact held_congr (each.failed url selected fails).1
    · left
      simp only [FetchFails, not_forall] at fails
      rcases fails with ⟨result, fetched, nonempty⟩
      rw [held_of_rows (each.fetched url selected result fetched nonempty).1]
      exact List.mem_flatMap.2 ⟨url, selected, mem_fetchedList.2 ⟨result, fetched, rfl⟩⟩
  · right
    rw [held, held, each.others]
    intro location isFromUrl other otherSelected sameSource
    rw [beq_iff_eq, sameSource, Option.some.injEq] at isFromUrl
    exact selected (isFromUrl ▸ otherSelected)

theorem subAdd_cases (unicode : Unicode) (config : Config) (url : String)
    (environment : Environment) :
    (config.subAdd unicode url environment).1.locations = config.locations ∨
      ∃ result, ¬config.lists url = true ∧ environment.fetch url = .ok result ∧
        (config.subAdd unicode url environment).1.locations =
          replaceBlock (Location.isFrom url) (locationsOf url result.servers)
            config.locations := by
  rw [subAdd]
  split
  next => exact .inl rfl
  next unlisted =>
    cases fetched : environment.fetch url with
    | error message => exact .inl rfl
    | ok result =>
        dsimp only
        split
        next => exact .inl rfl
        next =>
          right
          exact ⟨result, unlisted, rfl, replaceSubscriptionLocations_locations _ _ _⟩

theorem connect_locations (config : Config) (name : Option String)
    (environment : Environment) :
    (config.connect unicode name environment).1.locations = config.locations := by
  cases name with
  | none =>
      rw [connect]
      split <;> rfl
  | some name =>
      rw [connect]
      split
      next => rfl
      next => split <;> rfl

/-- What a command takes over is what a subscription holds then. -/
theorem held_of_taken (orderly : config.Orderly) (input : Command × Environment)
    {servers : List VlessServer} (isTaken : servers ∈ config.taken unicode urls input)
    (nonempty : servers ≠ []) :
    ∃ url, (Command.step unicode urls config input).held (some url) = servers := by
  rcases input with ⟨command, environment⟩
  cases command with
  | subAdd url =>
      rw [taken] at isTaken
      by_cases already : config.lists url = true
      · rw [if_pos already] at isTaken
        cases isTaken
      · rw [if_neg already] at isTaken
        rcases mem_fetchedList.1 isTaken with ⟨result, fetched, rfl⟩
        refine ⟨url, held_of_rows ?_⟩
        rw [Command.step, subAdd, if_neg already, fetched]
        simp only [List.isEmpty_eq_false_iff.2 nonempty, Bool.false_eq_true, if_false]
        rw [replaceSubscriptionLocations_locations]
        exact filter_replaceBlock_owned isFrom_of_mem_locationsOf
  | subUpdate name =>
      rcases List.mem_flatMap.1 isTaken with ⟨url, selected, isFetched⟩
      rcases mem_fetchedList.1 isFetched with ⟨result, fetched, rfl⟩
      have each := updatedEach_subUpdate unicode urls environment config name
        orderly.listable.distinct
      exact ⟨url, held_of_rows (each.fetched url selected result fetched nonempty).1⟩
  | load => cases isTaken
  | add server => cases isTaken
  | remove target => cases isTaken
  | subRemove name => cases isTaken
  | connect name => cases isTaken

/-- After a command a subscription holds a list that was taken over, or only what it
held before. -/
theorem held_step (orderly : config.Orderly) (input : Command × Environment)
    (url : String) :
    (Command.step unicode urls config input).held (some url) ∈
        config.taken unicode urls input ∨
      (Command.step unicode urls config input).held (some url) ⊆ config.held (some url) := by
  rcases input with ⟨command, environment⟩
  cases command with
  | load =>
      right
      have same := migratedLocations_of_filed orderly.modern orderly.listable.filed
      rw [Command.step, held, migrate, same]
      exact List.Subset.refl _
  | add server =>
      right
      rw [Command.step, add, held_addManual]
      exact List.Subset.refl _
  | remove target =>
      right
      rw [Command.step, remove]
      split
      next => exact List.Subset.refl _
      next index _ =>
        apply held_subset_of_sublist
        rw [removeLocation_locations]
        exact List.eraseIdx_sublist _ _
      next => exact held_removeListed
  | subAdd added =>
      cases subAdd_cases unicode config added environment with
      | inl same =>
          right
          rw [Command.step, held, same]
          exact List.Subset.refl _
      | inr stored =>
          rcases stored with ⟨result, unlisted, fetched, replaced⟩
          by_cases same : url = added
          · left
            rw [taken, if_neg unlisted, mem_fetchedList, same]
            refine ⟨result, fetched, held_of_rows ?_⟩
            rw [Command.step, replaced]
            exact filter_replaceBlock_owned isFrom_of_mem_locationsOf
          · right
            have kept : (config.subAdd unicode added environment).1.locations.filter
                (Location.isFrom url) = config.locations.filter (Location.isFrom url) := by
              rw [replaced]
              exact filter_replaceBlock_of_disjoint isFrom_of_mem_locationsOf fun _ =>
                isFrom_of_ne same
            rw [Command.step, held_congr kept]
            exact List.Subset.refl _
  | subUpdate name =>
      cases held_subUpdate orderly name environment url with
      | inl isTaken => exact .inl isTaken
      | inr same =>
          right
          rw [Command.step, same]
          exact List.Subset.refl _
  | subRemove name =>
      right
      rw [Command.step, subRemove]
      split
      next => exact List.Subset.refl _
      next => exact held_removeListed
  | connect name =>
      right
      rw [Command.step, held, connect_locations]
      exact List.Subset.refl _

/-! ## Every run -/

/-- What is chosen is what reconnects, in every state of a run, exactly when no command
of the run takes over a list in which different servers have one key. -/
theorem reconnects_always_iff (unicode : Unicode) (urls : UrlParser)
    (inputs : List (Command × Environment)) :
    Always (Command.step unicode urls) Reconnects Config.default inputs ↔
      EveryStep (Command.step unicode urls)
        (fun config input => ∀ servers ∈ config.taken unicode urls input, KeyedOnce servers)
        Config.default inputs := by
  have exact : ∀ config input,
      (Orderly config ∧ ∀ url, KeyedOnce (config.held (some url))) →
      ((Command.step unicode urls config input).Reconnects ↔
        ∀ servers ∈ config.taken unicode urls input, KeyedOnce servers) := by
    intro config input ⟨orderly, keyed⟩
    rw [(orderly_step config input orderly).reconnects_iff]
    constructor
    · intro keyedAfter servers isTaken
      by_cases empty : servers = []
      · rw [empty]
        intro left leftIn
        cases leftIn
      · rcases held_of_taken orderly input isTaken empty with ⟨url, rfl⟩
        exact keyedAfter url
    · intro keyedTaken url
      cases held_step orderly input url with
      | inl isTaken => exact keyedTaken _ isTaken
      | inr kept => exact (keyed url).subset kept
  apply always_iff_everyStep _ exact
  · intro config input ⟨orderly, keyed⟩ met
    have next : (Command.step unicode urls config input).Orderly :=
      orderly_step config input orderly
    exact ⟨next, next.reconnects_iff.1 ((exact config input ⟨orderly, keyed⟩).2 met)⟩
  · refine ⟨orderly_default, ?_⟩
    intro url left leftIn
    cases leftIn
  · intro config ⟨orderly, keyed⟩
    exact orderly.reconnects_iff.2 keyed

/-- A provider sends one key for two accounts: the second is chosen, and the first is
what reconnects. -/
theorem reconnects_to_another_account :
    let first := VlessServer.base "vless" "x.example" 443 "Auto"
    let second := { first with uuid := "11111111-1111-4111-8111-111111111111" }
    let url := "https://a.example/s"
    let environment : Environment :=
      { fetch := fun url => .ok ⟨(Subscription.bare url).info, [first, second], none⟩
        save := .ok () }
    let config := [(Command.subAdd url, environment)].foldl
      (Command.step .ascii (.ofPlain [])) Config.default
    config.locations[1]? = some ⟨second, some url⟩ ∧
      (config.setActive ⟨second, some url⟩).activeIndex = .ok 0 ∧
      config.locations[0]? = some ⟨first, some url⟩ ∧ first ≠ second ∧
      ¬config.Reconnects := by
  intro first second url environment config
  have located : config.locations[1]? = some ⟨second, some url⟩ := rfl
  have resolved : (config.setActive ⟨second, some url⟩).activeIndex = .ok 0 := rfl
  have other : first ≠ second := by
    intro same
    exact absurd (congrArg VlessServer.uuid same) (by decide)
  refine ⟨located, resolved, rfl, other, ?_⟩
  intro reconnects
  rcases reconnects 1 _ located with ⟨again, found, resolvedAgain, foundAt, same⟩
  rw [resolved, Except.ok.injEq] at resolvedAgain
  rw [← resolvedAgain] at foundAt
  cases foundAt
  exact other same

end Config

end Varmlen.Cli
