import Varmlen.Cli.Edit

/-!
# Updating subscriptions

An update walks over the selected subscriptions.  Each turn replaces the locations of
one of them or records why it could not, and touches nothing else.
-/

namespace Varmlen.Cli

open Varmlen.Core Foundation.Text Foundation.Rows

variable {unicode : Unicode} {urls : UrlParser} {environment : Environment}

/-- The fetch of the URL brings nothing: it fails, or what it brings is empty. -/
def FetchFails (environment : Environment) (url : String) : Prop :=
  ∀ result, environment.fetch url = .ok result → result.servers = []

theorem updateOutcome_ok {url : String} {result : ImportResult}
    (fetched : environment.fetch url = .ok result) (nonempty : result.servers ≠ []) :
    updateOutcome environment url = .ok result := by
  simp [updateOutcome, fetched, nonempty]

theorem fetchFails_iff {url : String} :
    FetchFails environment url ↔ ∃ error, updateOutcome environment url = .error error := by
  cases outcome : updateOutcome environment url with
  | error error =>
      refine ⟨fun _ => ⟨error, rfl⟩, fun _ result fetched => ?_⟩
      by_contra nonempty
      rw [updateOutcome_ok fetched nonempty] at outcome
      cases outcome
  | ok result =>
      rcases updateOutcome_eq_ok outcome with ⟨fetched, nonempty⟩
      refine ⟨fun fails => absurd (fails result fetched) nonempty, ?_⟩
      rintro ⟨_, failed⟩
      cases failed

/-- The record of a subscription after its update. -/
def Subscription.afterUpdate (environment : Environment) (subscription : Subscription) :
    Subscription :=
  match updateOutcome environment subscription.url with
  | .ok result => subscription.applyUpdate result.info result.description
  | .error error => { subscription with lastError := some error }

@[simp] theorem Subscription.afterUpdate_url (subscription : Subscription) :
    (subscription.afterUpdate environment).url = subscription.url := by
  rw [afterUpdate]
  split <;> rfl

/-- A location has one source. -/
theorem isFrom_of_ne {url other : String} {location : Location} (distinct : other ≠ url)
    (fromOther : location.isFrom other = true) : location.isFrom url = false := by
  rw [Location.isFrom, beq_iff_eq] at fromOther
  simpa [Location.isFrom, fromOther] using distinct

namespace Config

theorem exists_findIdx?_of_subscribed {config : Config} {url : String}
    (listed : url ∈ config.subscribed) :
    ∃ index, config.subscriptions.findIdx? (fun subscription => subscription.url == url) =
      some index := by
  apply Option.isSome_iff_exists.1
  rw [List.findIdx?_isSome]
  simpa [subscribed] using listed

/-! ## One turn -/

section Turn

variable (state : Config × Nat) (url : String)

@[simp] theorem updateOne_subscribed :
    (updateOne unicode environment state url).1.subscribed = state.1.subscribed := by
  rw [updateOne]
  split
  next => rfl
  next index _ =>
    split
    next result _ =>
      dsimp only [subscribed]
      rw [replaceSubscriptionLocations_subscriptions]
      apply map_modify_of_same
      intro subscription _
      rfl
    next error _ =>
      apply map_modify_of_same
      intro subscription _
      rfl

theorem updateOne_subscriptions (distinct : state.1.subscribed.Nodup) :
    (updateOne unicode environment state url).1.subscriptions =
      state.1.subscriptions.map fun subscription =>
        if subscription.url = url then subscription.afterUpdate environment
        else subscription := by
  rw [updateOne]
  split
  next absent =>
    have unlisted : ∀ subscription ∈ state.1.subscriptions, subscription.url ≠ url := by
      simpa using List.findIdx?_eq_none_iff.1 absent
    have unchanged : state.1.subscriptions.map (fun subscription =>
        if subscription.url = url then subscription.afterUpdate environment
        else subscription) = state.1.subscriptions.map id :=
      List.map_congr_left fun subscription member => if_neg (unlisted subscription member)
    rw [unchanged, List.map_id]
  next index found =>
    -- Either way the note is what `afterUpdate` says of the subscription with the URL.
    have noted : ∀ note : Subscription → Subscription,
        (∀ subscription, subscription.url = url →
          note subscription = subscription.afterUpdate environment) →
        state.1.subscriptions.modify index note =
          state.1.subscriptions.map fun subscription =>
            if subscription.url = url then subscription.afterUpdate environment
            else subscription := by
      intro note same
      rw [modify_findIdx?_of_nodup note distinct found]
      apply List.map_congr_left
      intro subscription _
      split
      next hasUrl => exact same subscription hasUrl
      next => rfl
    split
    next result outcome =>
      dsimp only
      rw [replaceSubscriptionLocations_subscriptions]
      apply noted
      intro subscription hasUrl
      rw [Subscription.afterUpdate, hasUrl, outcome]
    next error outcome =>
      apply noted
      intro subscription hasUrl
      rw [Subscription.afterUpdate, hasUrl, outcome]

/-- Locations that are not the subscription's stay, and so do all of them when the
fetch fails. -/
theorem updateOne_filter {other : Location → Bool}
    (disjoint : ¬FetchFails environment url → ∀ location, other location = true →
      location.isFrom url = false) :
    (updateOne unicode environment state url).1.locations.filter other =
      state.1.locations.filter other := by
  rw [updateOne]
  split
  next => rfl
  next =>
    split
    next result outcome =>
      have succeeds : ¬FetchFails environment url := by
        rw [fetchFails_iff, outcome]
        rintro ⟨_, failed⟩
        cases failed
      dsimp only
      rw [replaceSubscriptionLocations_locations]
      exact filter_replaceBlock_of_disjoint isFrom_of_mem_locationsOf (disjoint succeeds)
    next => rfl

theorem updateOne_locations {result : ImportResult} (listed : url ∈ state.1.subscribed)
    (outcome : updateOutcome environment url = .ok result) :
    (updateOne unicode environment state url).1.locations =
      replaceBlock (Location.isFrom url) (locationsOf url result.servers)
        state.1.locations := by
  rcases exists_findIdx?_of_subscribed listed with ⟨index, position⟩
  rw [updateOne]
  dsimp only
  rw [position, outcome]
  exact replaceSubscriptionLocations_locations state.1 url result.servers

/-- The locations of a subscription whose fetch brings something are what it brings. -/
theorem updateOne_isFrom {result : ImportResult} (listed : url ∈ state.1.subscribed)
    (outcome : updateOutcome environment url = .ok result) :
    (updateOne unicode environment state url).1.locations.filter (Location.isFrom url) =
      locationsOf url result.servers := by
  rw [updateOne_locations state url listed outcome]
  exact filter_replaceBlock_owned isFrom_of_mem_locationsOf

/-- A turn counts a failure exactly when its fetch fails. -/
theorem updateOne_failed (listed : url ∈ state.1.subscribed) :
    0 < (updateOne unicode environment state url).2 ↔
      0 < state.2 ∨ FetchFails environment url := by
  rcases exists_findIdx?_of_subscribed listed with ⟨index, position⟩
  rw [fetchFails_iff, updateOne]
  dsimp only
  rw [position]
  cases updateOutcome environment url with
  | ok result => simp
  | error error => simp

end Turn

/-! ## The loop -/

section Loop

variable (updated : List String) (state : Config × Nat)

@[simp] theorem updates_subscribed :
    (updated.foldl (updateOne unicode environment) state).1.subscribed =
      state.1.subscribed := by
  induction updated generalizing state with
  | nil => rfl
  | cons url rest ih => rw [List.foldl_cons, ih, updateOne_subscribed]

theorem updates_subscriptions (distinct : state.1.subscribed.Nodup)
    (once : updated.Nodup) :
    (updated.foldl (updateOne unicode environment) state).1.subscriptions =
      state.1.subscriptions.map fun subscription =>
        if subscription.url ∈ updated then subscription.afterUpdate environment
        else subscription := by
  induction updated generalizing state with
  | nil => simp
  | cons url rest ih =>
      rcases List.nodup_cons.1 once with ⟨notAgain, once⟩
      have distinctNext :
          (updateOne unicode environment state url).1.subscribed.Nodup := by
        rwa [updateOne_subscribed]
      rw [List.foldl_cons, ih _ distinctNext once, updateOne_subscriptions state url distinct,
        List.map_map]
      apply List.map_congr_left
      intro subscription _
      by_cases here : subscription.url = url
      · simp [here, notAgain]
      · simp [here]

theorem updates_filter {other : Location → Bool}
    (disjoint : ∀ url ∈ updated, ¬FetchFails environment url → ∀ location,
      other location = true → location.isFrom url = false) :
    (updated.foldl (updateOne unicode environment) state).1.locations.filter other =
      state.1.locations.filter other := by
  induction updated generalizing state with
  | nil => rfl
  | cons url rest ih =>
      rw [List.foldl_cons, ih _ fun later member => disjoint later (.tail _ member)]
      exact updateOne_filter state url (disjoint url (.head _))

theorem updates_isFrom {url : String} {result : ImportResult}
    (listed : url ∈ state.1.subscribed) (member : url ∈ updated) (once : updated.Nodup)
    (outcome : updateOutcome environment url = .ok result) :
    (updated.foldl (updateOne unicode environment) state).1.locations.filter
        (Location.isFrom url) = locationsOf url result.servers := by
  induction updated generalizing state with
  | nil => cases member
  | cons first rest ih =>
      rcases List.nodup_cons.1 once with ⟨notAgain, once⟩
      rw [List.foldl_cons]
      cases member with
      | head =>
          -- No later turn is for this URL again.
          rw [updates_filter]
          · exact updateOne_isFrom state url listed outcome
          · intro later memberLater _ location fromUrl
            apply isFrom_of_ne _ fromUrl
            rintro rfl
            exact notAgain memberLater
      | tail _ member =>
          apply ih _ _ member once
          rwa [updateOne_subscribed]

theorem updates_failed (listed : ∀ url ∈ updated, url ∈ state.1.subscribed) :
    0 < (updated.foldl (updateOne unicode environment) state).2 ↔
      0 < state.2 ∨ ∃ url ∈ updated, FetchFails environment url := by
  induction updated generalizing state with
  | nil => simp
  | cons url rest ih =>
      have listedNext : ∀ later ∈ rest,
          later ∈ (updateOne unicode environment state url).1.subscribed := by
        intro later member
        rw [updateOne_subscribed]
        exact listed later (.tail _ member)
      rw [List.foldl_cons, ih _ listedNext, updateOne_failed state url (listed url (.head _)),
        List.exists_mem_cons_iff, or_assoc]

end Loop

/-! ## The command -/

section Command

variable (unicode : Unicode) (urls : UrlParser) (config : Config) (name : String)

/-- The URLs that the command updates: none when the name is not resolved. -/
def updating : List String :=
  match config.updatedUrls unicode urls name with
  | .ok updated => updated
  | .error _ => []

theorem subUpdate_fst (environment : Environment) :
    (config.subUpdate unicode urls name environment).1 =
      ((config.updating unicode urls name).foldl (updateOne unicode environment)
        (config, 0)).1 := by
  rw [subUpdate, updating]
  cases config.updatedUrls unicode urls name with
  | error message => rfl
  | ok updated => cases updated <;> rfl

theorem updating_spec (distinct : config.subscribed.Nodup) :
    (config.updating unicode urls name).Nodup ∧
      ∀ url ∈ config.updating unicode urls name, url ∈ config.subscribed := by
  rw [updating, updatedUrls]
  by_cases all : trim name = ""
  · rw [if_pos all]
    exact ⟨distinct, fun url listed => listed⟩
  · rw [if_neg all]
    cases config.findSubscription unicode urls (trim name) with
    | error message => simp
    | ok index =>
        dsimp only
        cases found : config.subscriptions[index]? with
        | none => simp
        | some subscription =>
            have member := List.mem_of_getElem? found
            refine ⟨by simp, ?_⟩
            intro url selected
            obtain rfl : url = subscription.url := by simpa using selected
            exact List.mem_map_of_mem member

end Command

/-- What an update leaves of each subscription on its own. -/
structure UpdatedEach (environment : Environment) (updated : List String)
    (config after : Config) : Prop where
  /-- The records change where an update was tried and nowhere else. -/
  subscriptions : after.subscriptions = config.subscriptions.map fun subscription =>
    if subscription.url ∈ updated then subscription.afterUpdate environment
    else subscription
  /-- A subscription whose fetch brings nothing keeps its locations and says why. -/
  failed : ∀ url ∈ updated, FetchFails environment url →
    after.locations.filter (Location.isFrom url) =
        config.locations.filter (Location.isFrom url) ∧
      ∀ subscription ∈ after.subscriptions, subscription.url = url →
        subscription.lastError.isSome = true
  /-- Any other one has what was fetched, in that order. -/
  fetched : ∀ url ∈ updated, ∀ result, environment.fetch url = .ok result →
    result.servers ≠ [] →
      after.locations.filter (Location.isFrom url) = locationsOf url result.servers ∧
      ∀ subscription ∈ after.subscriptions, subscription.url = url →
        subscription.lastError = none
  /-- Every location that is not of an updated subscription stays, in its order. -/
  others : ∀ other : Location → Bool,
    (∀ location, other location = true → ∀ url ∈ updated, location.source ≠ some url) →
      after.locations.filter other = config.locations.filter other

theorem afterUpdate_failed {subscription : Subscription}
    (fails : FetchFails environment subscription.url) :
    (subscription.afterUpdate environment).lastError.isSome = true := by
  rcases fetchFails_iff.1 fails with ⟨error, outcome⟩
  rw [Subscription.afterUpdate, outcome]
  rfl

theorem afterUpdate_fetched {subscription : Subscription} {result : ImportResult}
    (outcome : updateOutcome environment subscription.url = .ok result) :
    (subscription.afterUpdate environment).lastError = none := by
  rw [Subscription.afterUpdate, outcome]
  rfl

theorem updatedEach_updates {config : Config} {updated : List String}
    (distinct : config.subscribed.Nodup) (once : updated.Nodup)
    (listed : ∀ url ∈ updated, url ∈ config.subscribed) :
    UpdatedEach environment updated config
      (updated.foldl (updateOne unicode environment) (config, 0)).1 := by
  have records : (updated.foldl (updateOne unicode environment) (config, 0)).1.subscriptions =
      config.subscriptions.map fun subscription =>
        if subscription.url ∈ updated then subscription.afterUpdate environment
        else subscription :=
    updates_subscriptions updated (config, 0) distinct once
  -- A record of an updated URL is the update of the record with that URL before.
  have recorded : ∀ url ∈ updated, ∀ subscription ∈
      (updated.foldl (updateOne unicode environment) (config, 0)).1.subscriptions,
      subscription.url = url → ∃ before : Subscription, before.url = url ∧
        subscription = before.afterUpdate environment := by
    rintro url member subscription subscriptionMember rfl
    rw [records] at subscriptionMember
    rcases List.mem_map.1 subscriptionMember with ⟨before, _, rfl⟩
    by_cases wasUpdated : before.url ∈ updated
    · rw [if_pos wasUpdated]
      exact ⟨before, (Subscription.afterUpdate_url before).symm, rfl⟩
    · rw [if_neg wasUpdated] at member
      exact absurd member wasUpdated
  refine ⟨records, ?_, ?_, ?_⟩
  · intro url member fails
    constructor
    · apply updates_filter
      intro other _ succeeds location fromUrl
      apply isFrom_of_ne _ fromUrl
      rintro rfl
      exact succeeds fails
    · intro subscription subscriptionMember hasUrl
      rcases recorded url member subscription subscriptionMember hasUrl with ⟨before, rfl, rfl⟩
      exact afterUpdate_failed fails
  · intro url member result fetched nonempty
    have outcome := updateOutcome_ok fetched nonempty
    constructor
    · exact updates_isFrom updated (config, 0) (listed url member) member once outcome
    · intro subscription subscriptionMember hasUrl
      rcases recorded url member subscription subscriptionMember hasUrl with ⟨before, rfl, rfl⟩
      exact afterUpdate_fetched outcome
  · intro other outside
    apply updates_filter
    intro url member _ location isOther
    simpa [Location.isFrom] using outside location isOther url member

theorem updatedEach_subUpdate (unicode : Unicode) (urls : UrlParser)
    (environment : Environment) (config : Config) (name : String)
    (distinct : config.subscribed.Nodup) :
    UpdatedEach environment (config.updating unicode urls name) config
      (config.subUpdate unicode urls name environment).1 := by
  rcases updating_spec unicode urls config name distinct with ⟨once, listed⟩
  rw [subUpdate_fst]
  exact updatedEach_updates distinct once listed

theorem subUpdate_error_iff {config : Config} {name : String}
    (distinct : config.subscribed.Nodup) :
    (∃ message, (config.subUpdate unicode urls name environment).2 = .error message) ↔
      config.updating unicode urls name = [] ∨
        (∃ message, environment.save = .error message) ∨
        ∃ url ∈ config.updating unicode urls name, FetchFails environment url := by
  have listed := (updating_spec unicode urls config name distinct).2
  have failures : 0 < ((config.updating unicode urls name).foldl
      (updateOne unicode environment) (config, 0)).2 ↔
        ∃ url ∈ config.updating unicode urls name, FetchFails environment url :=
    (updates_failed _ (config, 0) listed).trans (or_iff_right (Nat.lt_irrefl 0))
  rw [subUpdate]
  rw [updating] at failures ⊢
  generalize config.updatedUrls unicode urls name = selected at failures ⊢
  cases selected with
  | error message => simp
  | ok updated =>
      cases updated with
      | nil => simp
      | cons url rest =>
          dsimp only at failures ⊢
          rw [← failures]
          cases environment.save with
          | error message => simp
          | ok saved =>
              generalize List.foldl _ _ _ = reached
              by_cases some : 0 < reached.2
              · simp [some]
              · simp [some]

/-- `sub update` with distinct subscription URLs: each selected subscription updates
on its own, and the command fails exactly when one of them does, when there is nothing
to update or when the store cannot be written. -/
theorem subUpdate_each (unicode : Unicode) (urls : UrlParser) (environment : Environment)
    (config : Config) (name : String) (distinct : config.subscribed.Nodup) :
    UpdatedEach environment (config.updating unicode urls name) config
        (config.subUpdate unicode urls name environment).1 ∧
      ((∃ message, (config.subUpdate unicode urls name environment).2 = .error message) ↔
        config.updating unicode urls name = [] ∨
          (∃ message, environment.save = .error message) ∨
          ∃ url ∈ config.updating unicode urls name, FetchFails environment url) := by
  exact ⟨updatedEach_subUpdate unicode urls environment config name distinct,
    subUpdate_error_iff distinct⟩

/-- One subscription that is down and one that has a new list. -/
theorem subUpdate_each_one_down :
    let config : Config := { Config.default with
      subscriptions := [.bare "https://a.example/s", .bare "https://b.example/s"]
      locations := [⟨.base "vless" "a.example" 443 "A", some "https://a.example/s"⟩,
        ⟨.base "vless" "m.example" 443 "M", none⟩] }
    let environment : Environment :=
      { fetch := fun url =>
          if url = "https://a.example/s" then .error "timed out"
          else .ok ⟨(Subscription.bare url).info, [.base "vless" "b.example" 443 "B"], none⟩
        save := .ok () }
    UpdatedEach environment ["https://a.example/s", "https://b.example/s"] config
        (config.subUpdate .ascii (.ofPlain []) "" environment).1 ∧
      ∃ message,
        (config.subUpdate .ascii (.ofPlain []) "" environment).2 = .error message := by
  intro config environment
  have distinct : config.subscribed.Nodup := by decide
  rcases subUpdate_each .ascii (.ofPlain []) environment config "" distinct with ⟨each, report⟩
  refine ⟨each, report.2 (.inr (.inr ⟨"https://a.example/s", .head _, ?_⟩))⟩
  intro result fetched
  cases fetched

/-- With nothing to update the command fails although no fetch did. -/
theorem subUpdate_nothing :
    let environment : Environment := { fetch := fun _ => .error "timed out", save := .ok () }
    Config.default.subscribed.Nodup ∧
      ¬((∃ message, (Config.default.subUpdate .ascii (.ofPlain []) "" environment).2 =
          .error message) ↔
        ∃ url ∈ Config.default.updating .ascii (.ofPlain []) "",
          FetchFails environment url) := by
  intro environment
  refine ⟨List.nodup_nil, ?_⟩
  intro onlyIfFailed
  rcases onlyIfFailed.1 ⟨"no subscriptions configured", rfl⟩ with ⟨url, member, _⟩
  exact List.not_mem_nil member

end Config

end Varmlen.Cli
