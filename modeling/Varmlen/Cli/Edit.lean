import Mathlib.Data.List.InsertIdx
import Varmlen.Cli.Command

/-!
# Edits of the store

Every command changes the store by a sequence of edits.  What an edit does is said
once, and a property of the store that the edits preserve is one that the commands
preserve.
-/

namespace Varmlen.Cli

open Varmlen.Core Foundation.Text Foundation.Rows Foundation.Run

inductive Edit where
  | migrate
  | addManual (server : VlessServer)
  | removeLocation (index : Nat)
  /-- A new subscription with its first locations. -/
  | addSubscription (subscription : Subscription) (fresh : List VlessServer)
  | replaceLocations (url : String) (fresh : List VlessServer)
  | removeSubscription (index : Nat)
  /-- Record how an update went. -/
  | annotate (index : Nat) (note : Subscription → Subscription)
  | setActive (location : Location)

namespace Edit

variable (unicode : Unicode)

def apply (config : Config) : Edit → Config
  | .migrate => config.migrate
  | .addManual server => config.addManual server
  | .removeLocation index => config.removeLocation index
  | .addSubscription subscription fresh =>
      (({ config with
          subscriptions := config.subscriptions ++ [subscription] }
        ).replaceSubscriptionLocations unicode subscription.url fresh).1
  | .replaceLocations url fresh =>
      (config.replaceSubscriptionLocations unicode url fresh).1
  | .removeSubscription index =>
      ((config.removeSubscription unicode index).map Prod.fst).getD config
  | .annotate index note =>
      { config with subscriptions := config.subscriptions.modify index note }
  | .setActive location => config.setActive location

/-- The checks that the commands make before an edit. -/
def Valid (config : Config) : Edit → Prop
  | .migrate => True
  | .addManual _ => True
  | .removeLocation index => (Removal.location index).Names config
  | .addSubscription subscription fresh =>
      config.lists subscription.url = false ∧ fresh ≠ []
  | .replaceLocations url fresh => config.lists url = true ∧ fresh ≠ []
  | .removeSubscription index => (Removal.subscription index).Names config
  | .annotate _ note => ∀ subscription, (note subscription).url = subscription.url
  | .setActive location => location ∈ config.locations

end Edit

/-! ## The configured URLs -/

section Subscribed

variable {unicode : Unicode} {config : Config}

theorem removeSubscription_eq {index : Nat} {removed : Subscription}
    (found : config.subscriptions[index]? = some removed) :
    (Edit.removeSubscription index).apply unicode config =
      ({ config with
          subscriptions := config.subscriptions.eraseIdx index
          locations := config.locations.filter fun location =>
            !location.isFrom removed.url } : Config).reconcileActive unicode
        (config.activeLocation.map Location.server) := by
  simp [Edit.apply, Config.removeSubscription, found]

/-- The URLs of the other subscriptions stay configured. -/
theorem mem_subscribed_eraseIdx {url : String} {index : Nat} {removed : Subscription}
    (found : config.subscriptions[index]? = some removed) (other : removed.url ≠ url)
    (listed : url ∈ config.subscribed) :
    url ∈ (config.subscriptions.eraseIdx index).map Subscription.url := by
  rcases List.mem_map.1 listed with ⟨subscription, member, sameUrl⟩
  refine List.mem_map.2 ⟨subscription, ?_, sameUrl⟩
  rcases List.getElem?_of_mem member with ⟨position, located⟩
  refine List.mem_eraseIdx_iff_getElem?.2 ⟨position, ?_, located⟩
  intro same
  rw [same, found, Option.some.injEq] at located
  exact other (located ▸ sameUrl)

/-- Which URLs are configured after an edit. -/
def Edit.subscribedAfter (config : Config) : Edit → List String
  | .addSubscription subscription _ => config.subscribed ++ [subscription.url]
  | .removeSubscription index => config.subscribed.eraseIdx index
  | _ => config.subscribed

/-- The edit is one that changes no URL by a note. -/
def Edit.KeepsUrls : Edit → Prop
  | .annotate _ note => ∀ subscription, (note subscription).url = subscription.url
  | _ => True

theorem subscribed_apply (edit : Edit) (keepsUrls : edit.KeepsUrls) :
    (edit.apply unicode config).subscribed = edit.subscribedAfter config := by
  cases edit with
  | migrate => rfl
  | addManual server => simp [Edit.apply, Config.subscribed, Edit.subscribedAfter]
  | removeLocation index => simp [Edit.apply, Config.subscribed, Edit.subscribedAfter]
  | addSubscription subscription fresh =>
      simp [Edit.apply, Config.subscribed, Edit.subscribedAfter]
  | replaceLocations url fresh =>
      simp [Edit.apply, Config.subscribed, Edit.subscribedAfter]
  | removeSubscription index =>
      cases found : config.subscriptions[index]? with
      | some removed =>
          rw [removeSubscription_eq found]
          simp [Config.subscribed, Edit.subscribedAfter, List.eraseIdx_map]
      | none =>
          have outOfRange : config.subscribed.length ≤ index := by
            simpa [Config.subscribed] using found
          rw [Edit.subscribedAfter, List.eraseIdx_of_length_le outOfRange]
          simp [Edit.apply, Config.removeSubscription, found]
  | annotate index note => exact map_modify_of_same fun subscription _ => keepsUrls subscription
  | setActive location => rfl

end Subscribed

/-- The edits of a run, each with the checks made before it. -/
def Edited (unicode : Unicode) (config after : Config) : Prop :=
  ∃ edits, EveryStep (Edit.apply unicode) Edit.Valid config edits ∧
    after = edits.foldl (Edit.apply unicode) config

namespace Edited

variable {unicode : Unicode} {config middle after : Config}

theorem refl : Edited unicode config config := ⟨[], trivial, rfl⟩

theorem single (edit : Edit) (valid : edit.Valid config) :
    Edited unicode config (edit.apply unicode config) :=
  ⟨[edit], ⟨valid, trivial⟩, rfl⟩

theorem trans (first : Edited unicode config middle)
    (second : Edited unicode middle after) : Edited unicode config after := by
  rcases first with ⟨edits, valid, rfl⟩
  rcases second with ⟨more, moreValid, rfl⟩
  exact ⟨edits ++ more, everyStep_append.2 ⟨valid, moreValid⟩, by rw [List.foldl_append]⟩

/-- What each valid edit preserves is preserved. -/
theorem preserves {invariant : Config → Prop}
    (preserved : ∀ config edit, invariant config → Edit.Valid config edit →
      invariant (edit.apply unicode config))
    (edited : Edited unicode config after) (initial : invariant config) :
    invariant after := by
  rcases edited with ⟨edits, valid, rfl⟩
  exact invariant_foldl preserved edits config initial valid

end Edited

/-! ## Commands are edits -/

variable {unicode : Unicode} {urls : UrlParser} {environment : Environment}

theorem updateOutcome_eq_ok {url : String} {result : ImportResult}
    (outcome : updateOutcome environment url = .ok result) :
    environment.fetch url = .ok result ∧ result.servers ≠ [] := by
  rw [updateOutcome] at outcome
  split at outcome
  next => cases outcome
  next fetched =>
    split at outcome
    next => cases outcome
    next nonempty =>
      cases outcome
      exact ⟨fetched, by simpa using nonempty⟩

namespace Config

theorem edited_removeListed {config : Config} {index : Nat}
    (named : (Removal.subscription index).Names config) :
    Edited unicode config (config.removeListed unicode index environment).1 := by
  have removed : Edited unicode config
      ((Edit.removeSubscription index).apply unicode config) := .single _ named
  rw [removeListed]
  split
  next => exact .refl
  next after gone found =>
    simpa [Edit.apply, found] using removed

theorem edited_remove (config : Config) (target : String) :
    Edited unicode config (config.remove unicode urls target environment).1 := by
  rw [remove]
  split
  next => exact .refl
  next resolved => exact .single (.removeLocation _) (removal_names resolved)
  next resolved => exact edited_removeListed (removal_names resolved)

theorem edited_subAdd (config : Config) (url : String) :
    Edited unicode config (config.subAdd unicode url environment).1 := by
  rw [subAdd]
  split
  next => exact .refl
  next unlisted =>
    split
    next => exact .refl
    next result _ =>
      split
      next => exact .refl
      next nonempty =>
        exact .single (.addSubscription
          ⟨url, result.info, result.description, none⟩ result.servers)
          ⟨by simpa using unlisted, by simpa using nonempty⟩

theorem edited_updateOne (state : Config × Nat) (url : String) :
    Edited unicode state.1 (updateOne unicode environment state url).1 := by
  rw [updateOne]
  split
  next => exact .refl
  next index found =>
    have listed : state.1.lists url = true := by
      rw [lists, ← List.findIdx?_isSome, found]
      rfl
    split
    next result outcome =>
      have nonempty := (updateOutcome_eq_ok outcome).2
      exact (Edited.single (.replaceLocations url result.servers)
        ⟨listed, nonempty⟩).trans (.single (.annotate index fun subscription =>
          subscription.applyUpdate result.info result.description) fun _ => rfl)
    next error _ =>
      exact .single (.annotate index fun subscription =>
        { subscription with lastError := some error }) fun _ => rfl

theorem edited_updates (updated : List String) (state : Config × Nat) :
    Edited unicode state.1 (updated.foldl (updateOne unicode environment) state).1 := by
  induction updated generalizing state with
  | nil => exact .refl
  | cons url rest ih => exact (edited_updateOne state url).trans (ih _)

theorem edited_subUpdate (config : Config) (name : String) :
    Edited unicode config (config.subUpdate unicode urls name environment).1 := by
  rw [subUpdate]
  split
  next => exact .refl
  next => exact .refl
  next updated _ _ => exact edited_updates updated (config, 0)

theorem edited_subRemove (config : Config) (name : String) :
    Edited unicode config (config.subRemove unicode urls name environment).1 := by
  rw [subRemove]
  split
  next => exact .refl
  next found => exact edited_removeListed (findSubscription_lt found)

theorem edited_connect (config : Config) (name : Option String) :
    Edited unicode config (config.connect unicode name environment).1 := by
  cases name with
  | none =>
      rw [connect]
      split <;> exact .refl
  | some name =>
      rw [connect]
      split
      next => exact .refl
      next =>
        split
        next => exact .refl
        next found => exact .single (.setActive _) (List.mem_of_getElem? found)

end Config

theorem edited_step (config : Config) (input : Command × Environment) :
    Edited unicode config (Command.step unicode urls config input) := by
  rcases input with ⟨command, environment⟩
  cases command with
  | load => exact .single (.migrate) trivial
  | add server => exact .single (.addManual server) trivial
  | remove target => exact Config.edited_remove config target
  | subAdd url => exact Config.edited_subAdd config url
  | subUpdate name => exact Config.edited_subUpdate config name
  | subRemove name => exact Config.edited_subRemove config name
  | connect name => exact Config.edited_connect config name

end Varmlen.Cli
