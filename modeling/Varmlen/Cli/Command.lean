import Varmlen.Cli.Select
import Varmlen.Foundation.Run

/-!
# Commands on the store

The commands that change the store, with what each reports, and the listing
(`cli/src/main.rs`).  What the lines they print look like is left out.
-/

namespace Varmlen.Cli

open Varmlen.Core Foundation.Text Foundation.Rows

/-- What a fetch of a subscription brings. -/
structure ImportResult where
  info : SubscriptionMeta
  servers : List VlessServer
  description : Option String

/-- What a command meets outside: how the fetch of each URL ends, and whether the
store can be written. -/
structure Environment where
  fetch : String → Except String ImportResult
  save : Except String Unit

/-- Recorded when an update fetched fine but there was nothing in it. -/
def noLocationsError : String := "subscription returned no locations"

/-- A failed update as it is kept: without the URL, and short enough for one line. -/
def describeError (error url : String) : String :=
  let text := trim (replace error url "<subscription>")
  let text := if text = "" then "unknown error" else text
  if 180 < text.length then String.ofList (text.toList.take 177) ++ "..." else text

/-- The outcome of an update: an empty subscription is a failure. -/
def updateOutcome (environment : Environment) (url : String) :
    Except String ImportResult :=
  match environment.fetch url with
  | .error error => .error (describeError error url)
  | .ok result =>
      if result.servers.isEmpty then .error noLocationsError else .ok result

namespace Config

section Commands

variable (unicode : Unicode) (urls : UrlParser)

/-- `add`, once the link is parsed. -/
def add (config : Config) (server : VlessServer) (environment : Environment) :
    Config × Except String Unit :=
  (config.addManual server, environment.save)

/-- The end of the commands that remove a subscription. -/
def removeListed (config : Config) (index : Nat) (environment : Environment) :
    Config × Except String Unit :=
  match config.removeSubscription unicode index with
  | none => (config, .error "")
  | some (config, _) => (config, environment.save)

def remove (config : Config) (target : String) (environment : Environment) :
    Config × Except String Unit :=
  match config.removal unicode urls target with
  | .error message => (config, .error message)
  | .ok (.location index) => (config.removeLocation index, environment.save)
  | .ok (.subscription index) => config.removeListed unicode index environment

def subAdd (config : Config) (url : String) (environment : Environment) :
    Config × Except String Unit :=
  if config.lists url then (config, .error "that subscription is already configured")
  else
    match environment.fetch url with
    | .error message => (config, .error message)
    | .ok result =>
        if result.servers.isEmpty then
          (config, .error "no locations found in this subscription")
        else
          let subscription : Subscription :=
            { url, info := result.info, description := result.description, lastError := none }
          let added :=
            { config with subscriptions := config.subscriptions ++ [subscription] }
          ((added.replaceSubscriptionLocations unicode url result.servers).1,
            environment.save)

/-- The URLs that an update is asked for: all of them, or the named one. -/
def updatedUrls (config : Config) (name : String) : Except String (List String) :=
  if trim name = "" then .ok (config.subscriptions.map Subscription.url)
  else
    match config.findSubscription unicode urls (trim name) with
    | .error message => .error message
    | .ok index => .ok ((config.subscriptions[index]?).map Subscription.url).toList

/-- One turn of the update's loop, which also counts the failures. -/
def updateOne (environment : Environment) (state : Config × Nat) (url : String) :
    Config × Nat :=
  let (config, failed) := state
  match config.subscriptions.findIdx? fun subscription => subscription.url == url with
  | none => (config, failed)
  | some index =>
      match updateOutcome environment url with
      | .ok result =>
          let config := (config.replaceSubscriptionLocations unicode url result.servers).1
          ({ config with
              subscriptions := config.subscriptions.modify index fun subscription =>
                subscription.applyUpdate result.info result.description },
            failed)
      | .error error =>
          ({ config with
              subscriptions := config.subscriptions.modify index fun subscription =>
                { subscription with lastError := some error } },
            failed + 1)

def subUpdate (config : Config) (name : String) (environment : Environment) :
    Config × Except String Unit :=
  match config.updatedUrls unicode urls name with
  | .error message => (config, .error message)
  | .ok [] => (config, .error "no subscriptions configured")
  | .ok updated =>
      let (config, failed) := updated.foldl (updateOne unicode environment) (config, 0)
      (config,
        match environment.save with
        | .error message => .error message
        | .ok () =>
            if 0 < failed then
              .error (toString failed ++ " of " ++ toString updated.length ++
                " subscription(s) failed to update")
            else .ok ())

def subRemove (config : Config) (name : String) (environment : Environment) :
    Config × Except String Unit :=
  match config.findSubscription unicode urls (trim name) with
  | .error message => (config, .error message)
  | .ok index => config.removeListed unicode index environment

/-- `connect` up to the request: the location it uses.  Naming one is also choosing
it. -/
def connect (config : Config) (name : Option String) (environment : Environment) :
    Config × Except String (Option VlessServer) :=
  match name with
  | none =>
      match config.activeIndex with
      | .error message => (config, .error message)
      | .ok index => (config, .ok ((config.locations[index]?).map Location.server))
  | some name =>
      match config.find unicode name with
      | .error message => (config, .error message)
      | .ok index =>
          match config.locations[index]? with
          | none => (config, .ok none)
          | some chosen =>
              (config.setActive chosen, environment.save.map fun _ => some chosen.server)

end Commands

/-- The positions in the order in which `list` prints them: the members of each
subscription, then the locations added by hand. -/
def listed (config : Config) : List Nat :=
  if config.locations.isEmpty then []
  else
    config.subscriptions.flatMap (fun subscription =>
        positions (Location.isFrom subscription.url) config.locations) ++
      positions (fun location => location.source.isNone) config.locations

end Config

/-! ## Runs of the client -/

/-- An invocation of the client that may change the store; every one begins with
`load`. -/
inductive Command where
  | load
  | add (server : VlessServer)
  | remove (target : String)
  | subAdd (url : String)
  | subUpdate (name : String)
  | subRemove (name : String)
  | connect (name : Option String)

/-- What a command leaves in the store. -/
def Command.step (unicode : Unicode) (urls : UrlParser) (config : Config) :
    Command × Environment → Config
  | (.load, _) => config.migrate
  | (.add server, environment) => (config.add server environment).1
  | (.remove target, environment) => (config.remove unicode urls target environment).1
  | (.subAdd url, environment) => (config.subAdd unicode url environment).1
  | (.subUpdate name, environment) => (config.subUpdate unicode urls name environment).1
  | (.subRemove name, environment) => (config.subRemove unicode urls name environment).1
  | (.connect name, environment) => (config.connect unicode name environment).1

end Varmlen.Cli
