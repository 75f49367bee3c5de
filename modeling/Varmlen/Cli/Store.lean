import Varmlen.Core.Server
import Varmlen.Foundation.Rows

/-!
# The client's store

The locations, the subscriptions and the chosen location that the client keeps on
disk, and the operations on them (`cli/src/config.rs`).  The split selection and the
settings, which none of them touches, are left out.
-/

namespace Varmlen.Cli

open Varmlen.Core Foundation.Text Foundation.Rows

/-- Identity of a location that survives a refresh of its subscription. -/
structure LocationKey where
  label : String
  host : String
  port : Nat
  deriving DecidableEq, Repr

def locationKey (server : VlessServer) : LocationKey where
  label := server.label
  host := server.host
  port := server.port

/-- Everything that tells one endpoint from another. -/
def endpoint (server : VlessServer) : Nat × List String :=
  (server.port,
    [server.protocol, server.host, server.uuid, server.password.getD "",
      server.method.getD "", server.transport, server.security, server.sni.getD "",
      server.flow.getD "", server.path.getD "", server.publicKey.getD "",
      server.shortId.getD ""])

/-- The choice as it is stored: pre-0.2 wrote a bare display name. -/
inductive ActiveRef where
  | key (key : LocationKey)
  | legacy (label : String)
  deriving DecidableEq, Repr

structure Location where
  server : VlessServer
  /-- URL of the subscription this came from; nothing for one added by hand. -/
  source : Option String

/-- The location belongs to the subscription. -/
def Location.isFrom (url : String) (location : Location) : Bool :=
  location.source == some url

/-- The locations of a subscription that sends these servers. -/
def locationsOf (url : String) (servers : List VlessServer) : List Location :=
  servers.map fun server => ⟨server, some url⟩

theorem isFrom_of_mem_locationsOf {url : String} {servers : List VlessServer} :
    ∀ location ∈ locationsOf url servers, location.isFrom url = true := by
  simp [locationsOf, Location.isFrom]

/-- The location has the key. -/
def Location.hasKey (key : LocationKey) (location : Location) : Bool :=
  locationKey location.server == key

/-- What a provider's headers say about a subscription. -/
structure SubscriptionMeta where
  title : Option String
  updateIntervalHours : Option Nat
  uploadBytes : Option Nat
  downloadBytes : Option Nat
  totalBytes : Option Nat
  expiresAtUnix : Option Int
  hasUserinfo : Bool
  supportUrl : Option String
  webPageUrl : Option String
  deriving DecidableEq, Repr

structure Subscription where
  url : String
  info : SubscriptionMeta
  description : Option String
  /-- Why the last update failed, or nothing when it worked. -/
  lastError : Option String
  deriving DecidableEq, Repr

/-- A subscription whose provider says nothing about it. -/
def Subscription.bare (url : String) : Subscription where
  url
  info := {
    title := none
    updateIntervalHours := none
    uploadBytes := none
    downloadBytes := none
    totalBytes := none
    expiresAtUnix := none
    hasUserinfo := false
    supportUrl := none
    webPageUrl := none }
  description := none
  lastError := none

/-- Take a successful update's metadata: a title, an interval or a description that
is no longer sent stays. -/
def Subscription.applyUpdate (subscription : Subscription) (info : SubscriptionMeta)
    (description : Option String) : Subscription :=
  { subscription with
    info := { info with
      title := info.title.or subscription.info.title
      updateIntervalHours :=
        info.updateIntervalHours.or subscription.info.updateIntervalHours }
    description := description.or subscription.description
    lastError := none }

structure Config where
  locations : List Location
  subscriptions : List Subscription
  /-- The location `connect` uses when none is named. -/
  active : Option ActiveRef
  /-- URL of the subscription the choice was made in; nothing for a location added by
  hand. -/
  activeSource : Option String
  /-- Pre-0.2 flat list of locations, read once. -/
  servers : List VlessServer

namespace Config

/-- The store of a client that was never used. -/
def default : Config where
  locations := []
  subscriptions := []
  active := none
  activeSource := none
  servers := []

/-- A subscription with this URL is configured. -/
def lists (config : Config) (url : String) : Bool :=
  config.subscriptions.any fun subscription => subscription.url == url

/-- The URLs of the configured subscriptions. -/
def subscribed (config : Config) : List String := config.subscriptions.map Subscription.url

theorem lists_iff {config : Config} {url : String} :
    config.lists url = true ↔ url ∈ config.subscribed := by
  simp [lists, subscribed]

/-! ## Migration -/

/-- The subscription that locations of the old schema are filed under. -/
def inferredSource (config : Config) : Option String :=
  match config.subscriptions with
  | [only] => some only.url
  | _ => none

/-- Take over a location of the old schema unless its key is there already. -/
def adoptServer (source : Option String) (locations : List Location)
    (server : VlessServer) : List Location :=
  if locations.any (Location.hasKey (locationKey server)) then locations
  else locations ++ [⟨server, source⟩]

/-- File a location with the ones added by hand when nothing lists its
subscription. -/
def adoptOrphan (config : Config) (location : Location) : Location :=
  match location.source with
  | none => location
  | some url => if config.lists url then location else { location with source := none }

/-- The locations after a migration. -/
def migratedLocations (config : Config) : List Location :=
  (config.servers.foldl (adoptServer config.inferredSource) config.locations).map
    config.adoptOrphan

/-- The choice after a migration: a bare name becomes the key of the first location
with that label. -/
def migratedActive (config : Config) : Option ActiveRef :=
  match config.active with
  | some (.legacy label) =>
      ((config.servers.foldl (adoptServer config.inferredSource) config.locations).find?
        fun location => location.server.label == label).map fun location =>
          .key (locationKey location.server)
  | other => other

/-- The choice's subscription after a migration: where none was recorded, that of the
first location with the chosen key. -/
def migratedSource (config : Config) : Option String :=
  match config.activeSource, config.migratedActive with
  | none, some (.key key) =>
      (config.migratedLocations.find? (Location.hasKey key)).bind Location.source
  | source, _ => source

/-- Fold any pre-0.2 state into the current shape. -/
def migrate (config : Config) : Config where
  locations := config.migratedLocations
  subscriptions := config.subscriptions
  active := config.migratedActive
  activeSource := config.migratedSource
  servers := []

/-! ## The choice -/

def setActive (config : Config) (location : Location) : Config :=
  { config with
    active := some (.key (locationKey location.server))
    activeSource := location.source }

def clearActive (config : Config) : Config :=
  { config with active := none, activeSource := none }

/-- The subscription the choice was made in, while it still exists. -/
def activeHome (config : Config) : Option String :=
  config.activeSource.filter config.lists

/-- The choice may be looked for at the location: anywhere, or in its home only. -/
def isEligible (config : Config) (location : Location) : Bool :=
  config.activeHome.isNone || location.source == config.activeHome

/-- Where the location that the choice names sits right now. -/
def activePosition (config : Config) : Option Nat :=
  match config.active with
  | some (.key key) =>
      let matching := positions
        (fun location => location.hasKey key && config.isEligible location)
        config.locations
      (matching.find? fun index =>
        (config.locations[index]?).any fun location =>
          location.source == config.activeSource).or matching.head?
  | _ => none

def activeLocation (config : Config) : Option Location :=
  config.activePosition.bind (config.locations[·]?)

def isActive (config : Config) (index : Nat) : Bool :=
  config.activePosition == some index

def goneMessage : String :=
  "the last location connected to is gone; name one: `varmlen-cli connect <name>`"

/-- The location `connect` should use with no argument. -/
def activeIndex (config : Config) : Except String Nat :=
  match config.active with
  | some (.key _) =>
      match config.activePosition with
      | some index => .ok index
      | none => .error goneMessage
  | some (.legacy _) => .error goneMessage
  | none =>
      match config.locations.length with
      | 1 => .ok 0
      | 0 => .error "no locations configured; add one with `varmlen-cli add <uri>`"
      | _ => .error "no location chosen yet; name one: `varmlen-cli connect <name>`"

section Unicode

variable (unicode : Unicode)

/-- A label reduced to what a person would type. -/
def searchable (label : String) : String :=
  unicode.toLowercase
    (String.ofList (label.toList.dropWhile fun char => !unicode.isAlphanumeric char))

/-- A label as the chosen location is found again by after a refresh. -/
def normalizedLabel (label : String) : String := trimEnd (searchable unicode label)

/-- The locations that the choice may be found at again. -/
def pool (config : Config) : List Location := config.locations.filter config.isEligible

/-- The location that keeps the choice after its subscription changed: the same key,
then the same endpoint, then the same label. -/
def reconciled (config : Config) (key : LocationKey) (previous : Option VlessServer) :
    Option Location :=
  let sameLabel (location : Location) : Bool :=
    normalizedLabel unicode location.server.label == normalizedLabel unicode key.label
  (((config.pool.filter (Location.hasKey key)).find? fun location =>
      location.source == config.activeSource).or
    (config.pool.find? (Location.hasKey key))).or
      ((previous.bind fun previous =>
          -- Several locations can share one endpoint and differ only by label.
          let shared := config.pool.filter fun location =>
            endpoint location.server == endpoint previous
          (shared.find? sameLabel).or shared.head?).or
        (config.pool.find? sameLabel))

/-- Keep the chosen location chosen after its subscription changed. -/
def reconcileActive (config : Config) (previous : Option VlessServer) : Config :=
  match config.active with
  | some (.key key) =>
      match config.reconciled unicode key previous with
      | some location => config.setActive location
      | none => config
  | _ => config

/-! ## Locations and subscriptions -/

/-- Make the subscription's locations exactly what the provider sent now, in the
place of the old ones, and count the added and the removed keys. -/
def replaceSubscriptionLocations (config : Config) (url : String)
    (fresh : List VlessServer) : Config × Nat × Nat :=
  let old := (config.locations.filter (Location.isFrom url)).map fun location =>
    locationKey location.server
  let new := fresh.map locationKey
  let added := (new.filter fun key => !old.contains key).length
  let removed := (old.filter fun key => !new.contains key).length
  let previous := config.activeLocation.map Location.server
  let locations := replaceBlock (Location.isFrom url) (locationsOf url fresh)
    config.locations
  (reconcileActive unicode { config with locations } previous, added, removed)

/-- Remove a subscription together with its locations.  There is no result for a
position that no subscription has. -/
def removeSubscription (config : Config) (index : Nat) :
    Option (Config × Subscription) :=
  (config.subscriptions[index]?).map fun removed =>
    let previous := config.activeLocation.map Location.server
    let kept := { config with
      subscriptions := config.subscriptions.eraseIdx index
      locations := config.locations.filter fun location => !location.isFrom removed.url }
    (reconcileActive unicode kept previous, removed)

end Unicode

/-- Add a location typed in by hand; only one added by hand with the same key is
replaced. -/
def addManual (config : Config) (server : VlessServer) : Config :=
  match config.locations.findIdx? fun existing =>
      existing.source.isNone && existing.hasKey (locationKey server) with
  | some index =>
      { config with
        locations := config.locations.modify index fun existing => { existing with server } }
  | none => { config with locations := config.locations ++ [⟨server, none⟩] }

/-- Remove one location, which is no longer chosen then. -/
def removeLocation (config : Config) (index : Nat) : Config :=
  let config := if config.isActive index then config.clearActive else config
  { config with locations := config.locations.eraseIdx index }

/-! ## What the operations leave alone -/

section Frame

variable {unicode : Unicode} (config : Config)

/-- The configs agree in everything but the choice. -/
structure SameStore (config other : Config) : Prop where
  locations : other.locations = config.locations
  subscriptions : other.subscriptions = config.subscriptions
  servers : other.servers = config.servers

theorem sameStore_reconcileActive (previous : Option VlessServer) :
    SameStore config (config.reconcileActive unicode previous) := by
  rw [reconcileActive]
  split
  next =>
    split
    next => exact ⟨rfl, rfl, rfl⟩
    next => exact ⟨rfl, rfl, rfl⟩
  next => exact ⟨rfl, rfl, rfl⟩

@[simp] theorem reconcileActive_locations (previous : Option VlessServer) :
    (config.reconcileActive unicode previous).locations = config.locations :=
  (sameStore_reconcileActive config previous).locations

@[simp] theorem reconcileActive_subscriptions (previous : Option VlessServer) :
    (config.reconcileActive unicode previous).subscriptions = config.subscriptions :=
  (sameStore_reconcileActive config previous).subscriptions

@[simp] theorem reconcileActive_servers (previous : Option VlessServer) :
    (config.reconcileActive unicode previous).servers = config.servers :=
  (sameStore_reconcileActive config previous).servers

@[simp] theorem replaceSubscriptionLocations_locations (url : String)
    (fresh : List VlessServer) :
    (config.replaceSubscriptionLocations unicode url fresh).1.locations =
      replaceBlock (Location.isFrom url) (locationsOf url fresh) config.locations := by
  simp [replaceSubscriptionLocations]

@[simp] theorem replaceSubscriptionLocations_subscriptions (url : String)
    (fresh : List VlessServer) :
    (config.replaceSubscriptionLocations unicode url fresh).1.subscriptions =
      config.subscriptions := by
  simp [replaceSubscriptionLocations]

@[simp] theorem replaceSubscriptionLocations_servers (url : String)
    (fresh : List VlessServer) :
    (config.replaceSubscriptionLocations unicode url fresh).1.servers =
      config.servers := by
  simp [replaceSubscriptionLocations]

theorem sameStore_removeLocation (index : Nat) :
    SameStore { config with locations := config.locations.eraseIdx index }
      (config.removeLocation index) := by
  rw [removeLocation]
  split
  next => exact ⟨rfl, rfl, rfl⟩
  next => exact ⟨rfl, rfl, rfl⟩

@[simp] theorem removeLocation_locations (index : Nat) :
    (config.removeLocation index).locations = config.locations.eraseIdx index :=
  (sameStore_removeLocation config index).locations

@[simp] theorem removeLocation_subscriptions (index : Nat) :
    (config.removeLocation index).subscriptions = config.subscriptions :=
  (sameStore_removeLocation config index).subscriptions

@[simp] theorem removeLocation_servers (index : Nat) :
    (config.removeLocation index).servers = config.servers :=
  (sameStore_removeLocation config index).servers

@[simp] theorem addManual_subscriptions (server : VlessServer) :
    (config.addManual server).subscriptions = config.subscriptions := by
  rw [addManual]
  split <;> rfl

@[simp] theorem addManual_servers (server : VlessServer) :
    (config.addManual server).servers = config.servers := by
  rw [addManual]
  split <;> rfl

end Frame

end Config

end Varmlen.Cli
