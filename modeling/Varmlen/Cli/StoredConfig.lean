import Varmlen.Cli.Migration
import Varmlen.Cli.StoreCodecs

/-!
# Saving and loading the store

What `save` writes is loaded again up to the order of link parameters and the last digit of
inexact numbers, unless some location keeps a document that nests too deeply for the reader:
then nothing is loaded any more (`cli/src/config.rs`).
-/

namespace Varmlen.Cli

open Varmlen.Core Foundation.Json Foundation.Serde

variable (order : MapOrder)

/-! ## The whole store -/

def configFields : Fields StoredConfig :=
  .map
    (.both (.one "locations" (.defaulted (.list (locationCodec order)) [] (by simp))) <|
    .both (.one "subscriptions" (.defaulted (.list subscriptionCodec) [] (by simp))) <|
    .both (.one "active" (.optional activeCodec active_writesNoNull false)) <|
    .both (omittedText "active_source") <|
    .both (.one "split" (.defaulted splitCodec StoredConfig.default.split
      (valid_split _))) <|
    .both (.one "settings" (.defaulted settingsCodec .default
      (valid_settings.2 (by decide)))) <|
    .one "servers" (.legacy (.list (serverCodec order)) [] (by simp)))
    (fun (locations, subscriptions, active, activeSource, split, settings, servers) =>
      { locations, subscriptions, active, activeSource, servers, split, settings })
    (fun config =>
      (config.locations, config.subscriptions, config.active, config.activeSource, config.split,
        config.settings, config.servers))
    fun _ => rfl

theorem configFields_nodup : (configFields order).names.Nodup := by
  change (configFields .inserted).names.Nodup
  decide

def configCodec : Codec StoredConfig := (configFields order).codec 0 (configFields_nodup order)

/-- The fields of the store have values that can be read again. -/
structure StorableConfig (config : StoredConfig) : Prop where
  locations : ∀ location ∈ config.locations, StorableServer location.server
  subscriptions : ∀ subscription ∈ config.subscriptions, subscription.info.Fits
  active : ∀ active ∈ config.active, StorableActive active
  mtu : config.settings.mtu < 2 ^ 32
  servers : ∀ server ∈ config.servers, StorableServer server

namespace StoredConfig

/-- The store up to the order of link parameters and the last digit of inexact numbers. -/
def kept (config : StoredConfig) : StoredConfig :=
  { config with
    locations := config.locations.map keptLocation
    servers := [] }

def migrate (config : StoredConfig) : StoredConfig :=
  { config with toConfig := config.toConfig.migrate }

/-- The text that `save` writes. -/
def text (config : StoredConfig) : String :=
  ((configCodec order).write config).toPrettyText ++ "\n"

end StoredConfig

theorem valid_config {config : StoredConfig} :
    (configCodec order).Valid config ↔ StorableConfig config := by
  simp only [configCodec, configFields, Fields.valid_codec, Fields.valid_map, Fields.valid_both,
    Fields.valid_one, Slot.valid_defaulted, Slot.valid_optional, Slot.valid_legacy,
    Codec.valid_list, valid_omittedText, valid_location, valid_subscription, valid_active,
    valid_split, valid_settings, valid_server, write_active_ne, ne_eq, not_false_eq_true,
    and_true, true_and]
  constructor
  · rintro ⟨locations, subscriptions, active, mtu, servers⟩
    exact ⟨locations, subscriptions, active, mtu, servers⟩
  · intro storable
    exact ⟨storable.locations, storable.subscriptions, storable.active, storable.mtu,
      storable.servers⟩

theorem kept_config (config : StoredConfig) : (configCodec order).kept config = config.kept := by
  simp [configCodec, configFields, StoredConfig.kept]

/-! ## Loading -/

/-- What `fs::read` finds at the path of the store. -/
inductive StoreFile where
  | missing
  | unreadable (error : String)
  | holds (text : String)
  deriving DecidableEq, Repr

inductive LoadError where
  | unreadable (error : String)
  | invalidData
  deriving DecidableEq, Repr

def load (reader : JsonReader) : StoreFile → Except LoadError StoredConfig
  | .missing => .ok StoredConfig.default.migrate
  | .unreadable error => .error (.unreadable error)
  | .holds text =>
      match reader text with
      | .error _ => .error .invalidData
      | .ok document =>
          match (configCodec .inserted).read document with
          | some config => .ok config.migrate
          | none => .error .invalidData

theorem mem_adopted {source : Option String} {servers : List VlessServer}
    {locations : List Location} {location : Location}
    (member : location ∈ servers.foldl (Config.adoptServer source) locations) :
    location ∈ locations ∨ location.server ∈ servers := by
  induction servers generalizing locations with
  | nil => exact .inl member
  | cons server rest ih =>
      rcases ih member with adopted | later
      · rw [Config.adoptServer] at adopted
        split at adopted
        next => exact .inl adopted
        next =>
          rcases List.mem_append.1 adopted with before | new
          · exact .inl before
          · rw [List.mem_singleton.1 new]
            exact .inr List.mem_cons_self
      · exact .inr (List.mem_cons_of_mem _ later)

/-- What can be stored can be stored after a migration. -/
theorem storable_migrate {config : StoredConfig} (storable : StorableConfig config) :
    StorableConfig config.migrate := by
  have adopted : ∀ location ∈ config.servers.foldl (Config.adoptServer config.inferredSource)
      config.locations, StorableServer location.server := by
    intro location member
    rcases mem_adopted member with before | old
    · exact storable.locations location before
    · exact storable.servers location.server old
  constructor
  · intro location member
    obtain ⟨earlier, there, rfl⟩ := List.mem_map.1 member
    rw [Config.adoptOrphan_server]
    exact adopted earlier there
  · exact storable.subscriptions
  · intro active chosen
    change config.migratedActive = some active at chosen
    rw [Config.migratedActive] at chosen
    split at chosen
    next label _ =>
      obtain ⟨location, found, rfl⟩ := Option.map_eq_some_iff.1 chosen
      exact (adopted location (List.mem_of_find?_eq_some found)).port
    next => exact storable.active active chosen
  · exact storable.mtu
  · intro server member
    cases member

theorem migrate_migrate (config : StoredConfig) : config.migrate.migrate = config.migrate := by
  have settled : config.toConfig.migrate.migrate = config.toConfig.migrate := by
    rw [Config.migrate_eq rfl (Config.filed_migrate _) (Config.migrate_structured _),
      Config.migratedSource_migrate]
  rw [StoredConfig.migrate, StoredConfig.migrate, settled]

theorem storable_default : StorableConfig StoredConfig.default where
  locations location member := by cases member
  subscriptions subscription member := by cases member
  active active chosen := by cases chosen
  mtu := by decide
  servers server member := by cases member

/-- Whatever the file holds, a loaded store can be stored, and a second load of it would change
nothing. -/
theorem storable_load {reader : JsonReader} {file : StoreFile} {config : StoredConfig}
    (loaded : load reader file = .ok config) :
    StorableConfig config ∧ config.migrate = config := by
  unfold load at loaded
  split at loaded
  next =>
    cases loaded
    exact ⟨storable_migrate storable_default, migrate_migrate _⟩
  next => cases loaded
  next text =>
    split at loaded
    next => cases loaded
    next document _ =>
      split at loaded
      next stored read =>
        cases loaded
        have valid := (valid_config .inserted).1 ((configCodec .inserted).valid_of_read read)
        exact ⟨storable_migrate valid, migrate_migrate _⟩
      next => cases loaded

/-! ## Depth -/

/-- The provider's documents that are kept for a location. -/
def rawDocuments (server : VlessServer) : List Value :=
  server.rawOutbound.toList ++ server.rawProfile.toList

theorem depth_protocol {levels : Nat} (protocol : String) :
    (protocolCodec.write protocol).depth ≤ levels := Nat.zero_le _

theorem depth_server {levels : Nat} {server : VlessServer} :
    ((serverCodec order).write server).depth ≤ levels + 2 ↔
      ∀ raw ∈ rawDocuments server, raw.depth ≤ levels + 1 := by
  rw [serverCodec, Fields.depth_codec]
  simp [serverFields, depth_protocol, rawDocuments, or_imp, forall_and]

theorem depth_location {levels : Nat} {location : Location} :
    ((locationCodec order).write location).depth ≤ levels + 3 ↔
      ∀ raw ∈ rawDocuments location.server, raw.depth ≤ levels + 1 := by
  rw [locationCodec, Fields.depth_codec]
  simp [locationFields, depth_server]

theorem depth_meta {levels : Nat} (info : SubscriptionMeta) :
    (metaCodec.write info).depth ≤ levels + 1 := by
  rw [metaCodec, Fields.depth_codec]
  simp [metaFields]

theorem depth_subscription {levels : Nat} (subscription : Subscription) :
    (subscriptionCodec.write subscription).depth ≤ levels + 2 := by
  rw [subscriptionCodec, Fields.depth_codec]
  simp [subscriptionFields, depth_meta]

theorem depth_active {levels : Nat} (active : ActiveRef) :
    (activeCodec.write active).depth ≤ levels + 1 := by
  cases active with
  | key key =>
      change (keyCodec.write key).depth ≤ levels + 1
      rw [keyCodec, Fields.depth_codec]
      simp [keyFields]
  | legacy label => exact Nat.zero_le _

theorem depth_split {levels : Nat} (split : SplitInput) :
    (splitCodec.write split).depth ≤ levels + 2 := by
  rw [splitCodec, Fields.depth_codec]
  simp [splitFields]

theorem depth_settings {levels : Nat} (settings : Settings) :
    (settingsCodec.write settings).depth ≤ levels + 1 := by
  rw [settingsCodec, Fields.depth_codec]
  simp [settingsFields]

/-- A store nests four levels deeper than the documents in it. -/
theorem depth_config {levels : Nat} {config : StoredConfig} :
    ((configCodec order).write config).depth ≤ levels + 5 ↔
      ∀ location ∈ config.locations, ∀ raw ∈ rawDocuments location.server,
        raw.depth ≤ levels + 1 := by
  rw [configCodec, Fields.depth_codec]
  simp [configFields, depth_location, depth_subscription, depth_active, depth_split,
    depth_settings]

end Varmlen.Cli
