import Varmlen.Cli.Choice

/-!
# A choice stays in its subscription

While the subscription that the choice was made in is configured, edits of the store
keep the choice inside it.  The stored key changes only when the subscription no
longer has a location with it, and then to a location that the old one can be
recognised in.
-/

namespace Varmlen.Cli

open Varmlen.Core Foundation.Text Foundation.Rows Foundation.Run

namespace Config

variable {unicode : Unicode} {config : Config} {key : LocationKey} {url : String}

/-- A key was chosen in a subscription that is configured. -/
structure ChosenIn (url : String) (key : LocationKey) (config : Config) : Prop where
  chosen : config.active = some (.key key)
  source : config.activeSource = some url
  listed : config.lists url = true

/-- The choice is looked for among the subscription's locations only. -/
theorem ChosenIn.isEligible_eq (isChosen : ChosenIn url key config) :
    config.isEligible = Location.isFrom url := by
  funext location
  simp [isEligible, activeHome, isChosen.source, isChosen.listed, Option.filter,
    Location.isFrom]

theorem ChosenIn.preferred_eq (isChosen : ChosenIn url key config) :
    (fun location : Location => location.hasKey key && config.isEligible location) =
      Location.isChoice key (some url) := by
  rw [isChosen.isEligible_eq]
  rfl

theorem ChosenIn.activePosition_eq (isChosen : ChosenIn url key config) :
    config.activePosition =
      config.locations.findIdx? (Location.isChoice key (some url)) := by
  rw [activePosition_key isChosen.chosen, isChosen.source, isChosen.preferred_eq,
    Option.or_self]

theorem ChosenIn.activeLocation_eq (isChosen : ChosenIn url key config) :
    config.activeLocation =
      config.locations.find? (Location.isChoice key (some url)) := by
  rw [activeLocation_key isChosen.chosen, isChosen.source, isChosen.preferred_eq,
    Option.or_self]

/-- Whatever the choice resolves to belongs to the subscription. -/
theorem ChosenIn.source_of_activeIndex {index : Nat} (isChosen : ChosenIn url key config)
    (resolved : config.activeIndex = .ok index) :
    ∃ location, config.locations[index]? = some location ∧ location.source = some url := by
  have position : config.locations.findIdx? (Location.isChoice key (some url)) =
      some index := by
    rw [← isChosen.activePosition_eq]
    rw [activeIndex, isChosen.chosen] at resolved
    dsimp only at resolved
    split at resolved
    next found =>
      cases resolved
      exact found
    next => cases resolved
  rcases List.findIdx?_eq_some_iff_getElem.1 position with ⟨inRange, isChoice, _⟩
  exact ⟨config.locations[index], List.getElem?_eq_getElem inRange,
    eq_of_beq (Bool.and_eq_true_iff.1 isChoice).2⟩

/-! ## What reconciling can choose -/

/-- The location is recognised as the one chosen before: by its endpoint, or by its
label. -/
def Recognised (unicode : Unicode) (previous : Option VlessServer) (key : LocationKey)
    (location : Location) : Prop :=
  (∃ server, previous = some server ∧ endpoint location.server = endpoint server) ∨
    normalizedLabel unicode location.server.label = normalizedLabel unicode key.label

theorem reconciled_eq_some {previous : Option VlessServer} {location : Location}
    (found : config.reconciled unicode key previous = some location) :
    location ∈ config.pool ∧
      (location.hasKey key = true ∨
        ((∀ other ∈ config.pool, other.hasKey key = false) ∧
          Recognised unicode previous key location)) := by
  rw [reconciled] at found
  dsimp only at found
  cases Option.or_eq_some_iff.1 found with
  | inl exact =>
      cases Option.or_eq_some_iff.1 exact with
      | inl preferred =>
          have member := List.mem_filter.1 (List.mem_of_find?_eq_some preferred)
          exact ⟨member.1, .inl member.2⟩
      | inr anywhere =>
          exact ⟨List.mem_of_find?_eq_some anywhere.2, .inl (List.find?_some anywhere.2)⟩
  | inr other =>
      rcases other with ⟨notExact, recognised⟩
      have gone : ∀ other ∈ config.pool, other.hasKey key = false := by
        simpa using List.find?_eq_none.1 (Option.or_eq_none_iff.1 notExact).2
      cases Option.or_eq_some_iff.1 recognised with
      | inl shared =>
          rcases Option.bind_eq_some_iff.1 shared with ⟨server, isPrevious, shared⟩
          have member : location ∈ config.pool.filter fun location =>
              endpoint location.server == endpoint server := by
            cases Option.or_eq_some_iff.1 shared with
            | inl labelled => exact List.mem_of_find?_eq_some labelled
            | inr first => exact List.mem_of_head? first.2
          rcases List.mem_filter.1 member with ⟨inPool, sameEndpoint⟩
          exact ⟨inPool, .inr ⟨gone, .inl ⟨server, isPrevious, eq_of_beq sameEndpoint⟩⟩⟩
      | inr labelled =>
          have sameLabel := List.find?_some labelled.2
          exact ⟨List.mem_of_find?_eq_some labelled.2,
            .inr ⟨gone, .inr (eq_of_beq sameLabel)⟩⟩

/-- How the stored key may change while the choice was made in a subscription: not at
all while the subscription has a location with it, and otherwise only to the key of a
location of the subscription that the choice is recognised in. -/
def KeyKept (unicode : Unicode) (url : String) (key : LocationKey)
    (previous : Option VlessServer) (after : Config) : Prop :=
  ∃ stored, ChosenIn url stored after ∧
    (stored = key ∨
      ((∀ location ∈ after.locations, location.isFrom url = true →
          location.hasKey key = false) ∧
        ∃ location ∈ after.locations, location.isFrom url = true ∧
          locationKey location.server = stored ∧
            Recognised unicode previous key location))

theorem ChosenIn.keyKept {previous : Option VlessServer} (isChosen : ChosenIn url key config) :
    KeyKept unicode url key previous config :=
  ⟨key, isChosen, .inl rfl⟩

/-- Reconciling keeps the choice in its subscription. -/
theorem ChosenIn.keyKept_reconcileActive {previous : Option VlessServer}
    (isChosen : ChosenIn url key config) :
    KeyKept unicode url key previous (config.reconcileActive unicode previous) := by
  rw [reconcileActive, isChosen.chosen]
  dsimp only
  split
  next location found =>
    rcases reconciled_eq_some found with ⟨inPool, how⟩
    rw [pool, isChosen.isEligible_eq, List.mem_filter] at inPool
    have fromHome : location.source = some url := eq_of_beq inPool.2
    refine ⟨locationKey location.server, ⟨rfl, fromHome, isChosen.listed⟩, ?_⟩
    cases how with
    | inl sameKey => exact .inl (eq_of_beq sameKey)
    | inr recognised =>
        refine .inr ⟨?_, location, inPool.1, inPool.2, rfl, recognised.2⟩
        intro other member fromUrl
        apply recognised.1 other
        rw [pool, isChosen.isEligible_eq]
        exact List.mem_filter.2 ⟨member, fromUrl⟩
  next => exact isChosen.keyKept

end Config

/-! ## Edits that spare the subscription -/

/-- The edit neither chooses a location nor removes the subscription, and removes only
locations added by hand. -/
def Edit.Spares (url : String) (config : Config) : Edit → Prop
  | .migrate => True
  | .addManual _ => True
  | .removeLocation index => (Removal.location index).Names config
  | .addSubscription subscription _ => subscription.url ≠ url
  | .replaceLocations _ _ => True
  | .removeSubscription index =>
      ∃ subscription, config.subscriptions[index]? = some subscription ∧
        subscription.url ≠ url
  | .annotate _ note => ∀ subscription, (note subscription).url = subscription.url
  | .setActive _ => False

namespace Config

variable {unicode : Unicode} {config : Config} {key : LocationKey} {url : String}

/-- Only where the choice is recorded and which URLs are configured matters. -/
theorem ChosenIn.of_eq {after : Config} (isChosen : ChosenIn url key config)
    (sameActive : after.active = config.active)
    (sameSource : after.activeSource = config.activeSource)
    (listed : url ∈ after.subscribed) : ChosenIn url key after where
  chosen := sameActive.trans isChosen.chosen
  source := sameSource.trans isChosen.source
  listed := lists_iff.2 listed

/-- A location added by hand is not what the choice resolves to. -/
theorem ChosenIn.not_isActive {index : Nat} (isChosen : ChosenIn url key config)
    (manual : (Removal.location index).Names config) : config.isActive index = false := by
  rcases manual with ⟨location, found, noSource⟩
  by_contra active
  have resolved : config.activePosition = some index := by simpa [isActive] using active
  have index_ok : config.activeIndex = .ok index := by
    rw [activeIndex, isChosen.chosen]
    dsimp only
    rw [resolved]
  rcases isChosen.source_of_activeIndex index_ok with ⟨other, otherFound, fromUrl⟩
  rw [found, Option.some.injEq] at otherFound
  rw [← otherFound, noSource] at fromUrl
  cases fromUrl

/-- An edit that spares the subscription keeps the choice in it. -/
theorem ChosenIn.keyKept_apply (isChosen : ChosenIn url key config) (edit : Edit)
    (spares : edit.Spares url config) :
    KeyKept unicode url key (config.activeLocation.map Location.server)
      (edit.apply unicode config) := by
  have listed := lists_iff.1 isChosen.listed
  cases edit with
  | migrate =>
      have sameActive : config.migrate.active = config.active := by
        rw [migrate, migratedActive, isChosen.chosen]
      have sameSource : config.migrate.activeSource = config.activeSource := by
        rw [migrate, migratedSource, isChosen.source]
      exact (isChosen.of_eq sameActive sameSource listed).keyKept
  | addManual server =>
      apply ChosenIn.keyKept
      rw [Edit.apply, addManual]
      split
      next => exact isChosen.of_eq rfl rfl listed
      next => exact isChosen.of_eq rfl rfl listed
  | removeLocation index =>
      apply ChosenIn.keyKept
      rw [Edit.apply, removeLocation, isChosen.not_isActive spares]
      exact isChosen.of_eq rfl rfl listed
  | addSubscription subscription fresh =>
      have added : ChosenIn url key { config with
          subscriptions := config.subscriptions ++ [subscription] } := by
        refine isChosen.of_eq rfl rfl ?_
        rw [subscribed, List.map_append]
        exact List.mem_append_left _ listed
      have replaced : ChosenIn url key { config with
          subscriptions := config.subscriptions ++ [subscription]
          locations := replaceBlock (Location.isFrom subscription.url)
            (locationsOf subscription.url fresh) config.locations } :=
        added.of_eq rfl rfl (lists_iff.1 added.listed)
      rw [isChosen.activeLocation_eq, ← added.activeLocation_eq]
      exact replaced.keyKept_reconcileActive
  | replaceLocations other fresh =>
      have replaced : ChosenIn url key { config with
          locations := replaceBlock (Location.isFrom other) (locationsOf other fresh)
            config.locations } :=
        isChosen.of_eq rfl rfl listed
      exact replaced.keyKept_reconcileActive
  | removeSubscription index =>
      rcases spares with ⟨removed, found, other⟩
      rw [removeSubscription_eq found]
      apply ChosenIn.keyKept_reconcileActive
      exact isChosen.of_eq rfl rfl (mem_subscribed_eraseIdx found other listed)
  | annotate index note =>
      apply ChosenIn.keyKept
      refine isChosen.of_eq rfl rfl ?_
      rw [Edit.apply, subscribed, map_modify_of_same fun subscription _ => spares subscription]
      exact listed
  | setActive location => exact spares.elim

/-- The choice is a key in the subscription, wherever it resolves. -/
def ConfinedTo (url : String) (config : Config) : Prop :=
  config.activeSource = some url ∧
    ∀ index, config.activeIndex = .ok index →
      ∃ location, config.locations[index]? = some location ∧ location.source = some url

/-- The edit changes the stored key only as far as it has to. -/
def MovesKey (unicode : Unicode) (url : String) (config : Config) (edit : Edit) : Prop :=
  ∀ key, config.active = some (.key key) →
    KeyKept unicode url key (config.activeLocation.map Location.server)
      (edit.apply unicode config)

/-- A choice made in a subscription stays inside it through every sequence of edits
that spare the subscription. -/
theorem choice_stays_in_subscription {unicode : Unicode} {config : Config}
    {key : LocationKey} {url : String} (edits : List Edit)
    (isChosen : ChosenIn url key config)
    (spared : EveryStep (Edit.apply unicode) (Edit.Spares url) config edits) :
    Always (Edit.apply unicode) (ConfinedTo url) config edits ∧
      EveryStep (Edit.apply unicode) (MovesKey unicode url) config edits := by
  have preserved : ∀ state edit, (∃ key, ChosenIn url key state) →
      Edit.Spares url state edit → ∃ key, ChosenIn url key (edit.apply unicode state) := by
    rintro state edit ⟨key, chosen⟩ spares
    have ⟨stored, kept, _⟩ : KeyKept unicode url key _ _ := chosen.keyKept_apply edit spares
    exact ⟨stored, kept⟩
  constructor
  · refine always_of_invariant ?_ preserved edits config ⟨key, isChosen⟩ spared
    rintro state ⟨stored, chosen⟩
    exact ⟨chosen.source, fun index => chosen.source_of_activeIndex⟩
  · refine everyStep_of_invariant preserved ?_ edits config ⟨key, isChosen⟩ spared
    rintro state edit ⟨stored, chosen⟩ spares key active
    rw [chosen.chosen, Option.some.injEq, ActiveRef.key.injEq] at active
    exact active ▸ chosen.keyKept_apply edit spares

/-- The chosen location is typed in by hand as well and renamed by its provider. -/
theorem choice_stays_through_rename :
    let url := "https://a.example/s"
    let chosen := VlessServer.base "vless" "fi.a" 443 "Finland"
    let config : Config := { Config.default with
      subscriptions := [.bare url]
      locations := [⟨chosen, some url⟩]
      active := some (.key (locationKey chosen))
      activeSource := some url }
    let edits : List Edit := [.addManual chosen,
      .replaceLocations url [VlessServer.base "vless" "fi.a" 443 "Suomi"], .migrate]
    Always (Edit.apply .ascii) (ConfinedTo url) config edits ∧
      EveryStep (Edit.apply .ascii) (MovesKey .ascii url) config edits := by
  intro url chosen config edits
  have isChosen : ChosenIn url (locationKey chosen) config := ⟨rfl, rfl, rfl⟩
  have spared : EveryStep (Edit.apply .ascii) (Edit.Spares url) config edits :=
    ⟨trivial, trivial, trivial, trivial⟩
  exact choice_stays_in_subscription edits isChosen spared

end Config

end Varmlen.Cli
