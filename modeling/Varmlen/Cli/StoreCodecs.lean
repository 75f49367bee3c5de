import Varmlen.Cli.Store
import Varmlen.Core.Config
import Varmlen.Foundation.RecordCodec

/-!
# The records of the store

How the locations, the subscriptions, the choice, the split selection and the settings are
written as JSON and read again (`cli/src/config.rs`, `core/src/subscription.rs`,
`core/src/split.rs`).
-/

namespace Varmlen.Cli

open Varmlen.Core Foundation.Json Foundation.Serde

structure Settings where
  /-- "tun" (system-wide) or "proxy" (local SOCKS only). -/
  mode : String
  killswitch : Bool
  allowLan : Bool
  mtu : Nat
  userAgent : Option String
  emoji : Bool
  deriving DecidableEq, Repr

def Settings.default : Settings where
  mode := "tun"
  killswitch := false
  allowLan := true
  mtu := tunMtu
  userAgent := none
  emoji := true

/-- Everything that the client keeps on disk. -/
structure StoredConfig extends Config where
  split : SplitInput
  settings : Settings

def StoredConfig.default : StoredConfig where
  toConfig := .default
  split := ⟨"", "", [], []⟩
  settings := .default

/-! ## Fields of the common kinds -/

theorem string_writesNoNull : Codec.string.WritesNoNull := by
  intro document value _ _ null
  cases null

theorem unsigned_writesNoNull (bound : Nat) : (Codec.unsigned bound).WritesNoNull := by
  intro document value _ _ null
  cases null

theorem i64_writesNoNull : Codec.i64.WritesNoNull := by
  intro document value _ _ null
  cases null

theorem document_writesNoNull : Codec.document.WritesNoNull := by
  intro document value given read null
  cases read
  exact given (Value.canonical_eq_null.1 null)

def textField (name : String) : Fields String := .one name (.required .string)

def optionalText (name : String) : Fields (Option String) :=
  .one name (.optional .string string_writesNoNull false)

/-- A text that is left out when there is none. -/
def omittedText (name : String) : Fields (Option String) :=
  .one name (.optional .string string_writesNoNull true)

def optionalUnsigned (name : String) (bound : Nat) : Fields (Option Nat) :=
  .one name (.optional (.unsigned bound) (unsigned_writesNoNull bound) false)

def optionalDocument (name : String) : Fields (Option Value) :=
  .one name (.optional .document document_writesNoNull false)

section Laws

variable {name : String}

@[simp] theorem valid_textField (text : String) : (textField name).Valid text := trivial

@[simp] theorem kept_textField (text : String) : (textField name).kept text = text := rfl

@[simp] theorem shallow_textField {levels : Nat} (text : String) :
    (textField name).Shallow levels text := by
  simp [textField]

@[simp] theorem valid_optionalText (text : Option String) : (optionalText name).Valid text := by
  simp [optionalText]

@[simp] theorem kept_optionalText (text : Option String) :
    (optionalText name).kept text = text := by
  simp [optionalText]

@[simp] theorem shallow_optionalText {levels : Nat} (text : Option String) :
    (optionalText name).Shallow levels text := by
  simp [optionalText]

@[simp] theorem valid_omittedText (text : Option String) : (omittedText name).Valid text := by
  simp [omittedText]

@[simp] theorem kept_omittedText (text : Option String) : (omittedText name).kept text = text := by
  simp [omittedText]

@[simp] theorem shallow_omittedText {levels : Nat} (text : Option String) :
    (omittedText name).Shallow levels text := by
  simp [omittedText]

@[simp] theorem valid_optionalUnsigned {bound : Nat} {number : Option Nat} :
    (optionalUnsigned name bound).Valid number ↔ ∀ value ∈ number, value < bound := by
  simp [optionalUnsigned]

@[simp] theorem kept_optionalUnsigned {bound : Nat} (number : Option Nat) :
    (optionalUnsigned name bound).kept number = number := by
  simp [optionalUnsigned]

@[simp] theorem shallow_optionalUnsigned {levels bound : Nat} (number : Option Nat) :
    (optionalUnsigned name bound).Shallow levels number := by
  simp [optionalUnsigned]

@[simp] theorem valid_optionalDocument {document : Option Value} :
    (optionalDocument name).Valid document ↔
      ∀ given ∈ document, given.canonical = given ∧ given ≠ .null := by
  simp [optionalDocument]

@[simp] theorem kept_optionalDocument (document : Option Value) :
    (optionalDocument name).kept document = document.map Value.exactPart := rfl

@[simp] theorem shallow_optionalDocument {levels : Nat} {document : Option Value} :
    (optionalDocument name).Shallow levels document ↔ ∀ given ∈ document, given.depth ≤ levels := by
  simp [optionalDocument]

end Laws

/-! ## Locations -/

def defaultProtocol : String := "vless"

theorem defaultProtocol_ne : defaultProtocol ≠ "" := by decide

/-- What is missing, `null` or empty is the default protocol. -/
def deProtocol (document : Value) : Option String :=
  (readOption readString document).map fun given =>
    (given.filter fun text => text != "").getD defaultProtocol

theorem deProtocol_ne {document : Value} {protocol : String}
    (read : deProtocol document = some protocol) : protocol ≠ "" := by
  obtain ⟨given, _, rfl⟩ := Option.map_eq_some_iff.1 read
  cases kept : given.filter fun text => text != "" with
  | none => exact defaultProtocol_ne
  | some text =>
      have nonempty := (Option.filter_eq_some_iff.1 kept).2
      simpa using nonempty

theorem deProtocol_exactPart (document : Value) :
    deProtocol document.exactPart = deProtocol document := by
  cases document with
  | number number => cases number <;> rfl
  | _ => rfl

def protocolCodec : Codec String :=
  Codec.exactly .string deProtocol (· ≠ "") deProtocol_ne deProtocol_exactPart (by
    intro protocol nonempty
    simp [deProtocol, readOption, readString, Option.filter, nonempty])

@[simp] theorem valid_protocol {protocol : String} :
    protocolCodec.Valid protocol ↔ protocol ≠ "" := Iff.rfl

@[simp] theorem kept_protocol : protocolCodec.kept = id := rfl

variable (order : MapOrder)

def serverFields : Fields VlessServer :=
  .map
    (.both (textField "id") <| .both (.one "protocol" (.defaulted protocolCodec defaultProtocol
      (valid_protocol.2 defaultProtocol_ne))) <| .both (textField "uuid") <| .both (optionalText "password") <|
    .both (optionalText "method") <| .both (textField "host") <|
    .both (.one "port" (.required (.unsigned (2 ^ 16)))) <| .both (textField "label") <|
    .both (textField "transport") <| .both (textField "security") <|
    .both (optionalText "sni") <| .both (optionalText "fingerprint") <|
    .both (optionalText "public_key") <| .both (optionalText "short_id") <|
    .both (optionalText "flow") <| .both (optionalText "path") <|
    .both (optionalText "mode") <| .both (optionalText "packet_encoding") <|
    .both (.one "raw_params" (.defaulted (.texts order) []
      (Codec.valid_texts.2 List.nodup_nil))) <|
    .both (optionalText "source_json") <| .both (optionalDocument "raw_outbound") <|
    optionalDocument "raw_profile")
    (fun (id, protocol, uuid, password, method, host, port, label, transport, security, sni,
        fingerprint, publicKey, shortId, flow, path, mode, packetEncoding, rawParams, sourceJson,
        rawOutbound, rawProfile) =>
      { id, protocol, uuid, password, method, host, port, label, transport, security, sni,
        fingerprint, publicKey, shortId, flow, path, mode, packetEncoding, rawParams, sourceJson,
        rawOutbound, rawProfile })
    (fun server =>
      (server.id, server.protocol, server.uuid, server.password, server.method, server.host,
        server.port, server.label, server.transport, server.security, server.sni,
        server.fingerprint, server.publicKey, server.shortId, server.flow, server.path,
        server.mode, server.packetEncoding, server.rawParams, server.sourceJson,
        server.rawOutbound, server.rawProfile))
    fun _ => rfl

theorem serverFields_nodup : (serverFields order).names.Nodup := by
  change (serverFields .inserted).names.Nodup
  decide

def serverCodec : Codec VlessServer := (serverFields order).codec 0 (serverFields_nodup order)

/-- The location can be stored as it is. -/
structure StorableServer (server : VlessServer) : Prop where
  protocol : server.protocol ≠ ""
  port : server.port < 2 ^ 16
  params : (server.rawParams.map Prod.fst).Nodup
  outbound : ∀ raw ∈ server.rawOutbound, raw.canonical = raw ∧ raw ≠ .null
  profile : ∀ raw ∈ server.rawProfile, raw.canonical = raw ∧ raw ≠ .null

/-- The location up to the order of its parameters and the last digit of inexact numbers. -/
def keptServer (server : VlessServer) : VlessServer :=
  { server with
    rawParams := Codec.sortedTexts server.rawParams
    rawOutbound := server.rawOutbound.map Value.exactPart
    rawProfile := server.rawProfile.map Value.exactPart }

theorem valid_server {server : VlessServer} :
    (serverCodec order).Valid server ↔ StorableServer server := by
  simp only [serverCodec, serverFields, Fields.valid_codec, Fields.valid_map, Fields.valid_both,
    Fields.valid_one, Slot.valid_required, Slot.valid_defaulted, valid_protocol, valid_textField,
    valid_optionalText, valid_optionalDocument, Codec.valid_unsigned, Codec.valid_texts, true_and]
  constructor
  · rintro ⟨protocol, port, params, outbound, profile⟩
    exact ⟨protocol, port, params, outbound, profile⟩
  · intro storable
    exact ⟨storable.protocol, storable.port, storable.params, storable.outbound,
      storable.profile⟩

theorem kept_server (server : VlessServer) :
    (serverCodec order).kept server = keptServer server := by
  simp [serverCodec, serverFields, keptServer]

def locationFields : Fields Location :=
  .map
    (.both (.one "server" (.required (serverCodec order))) <| optionalText "source")
    (fun (server, source) => ⟨server, source⟩)
    (fun location => (location.server, location.source))
    fun _ => rfl

theorem locationFields_nodup : (locationFields order).names.Nodup := by
  change ["server", "source"].Nodup
  decide

def locationCodec : Codec Location :=
  (locationFields order).codec 0 (locationFields_nodup order)

@[simp] theorem valid_location {location : Location} :
    (locationCodec order).Valid location ↔ StorableServer location.server := by
  simp [locationCodec, locationFields, valid_server]

/-- The location up to what is kept of its server. -/
def keptLocation (location : Location) : Location :=
  { location with server := keptServer location.server }

@[simp] theorem kept_location (location : Location) :
    (locationCodec order).kept location = keptLocation location := by
  simp [locationCodec, locationFields, kept_server, keptLocation]

/-! ## Subscriptions -/

/-- Every field stands for itself in an array, none is left out. -/
def metaFields : Fields SubscriptionMeta :=
  .map
    (.both (optionalText "title") <| .both (optionalUnsigned "update_interval_hours" (2 ^ 32)) <|
    .both (optionalUnsigned "upload_bytes" (2 ^ 64)) <|
    .both (optionalUnsigned "download_bytes" (2 ^ 64)) <|
    .both (optionalUnsigned "total_bytes" (2 ^ 64)) <|
    .both (.one "expires_at_unix" (.optional .i64 i64_writesNoNull false)) <|
    .both (.one "has_userinfo" (.required .bool)) <|
    .both (optionalText "support_url") <| optionalText "web_page_url")
    (fun (title, updateIntervalHours, uploadBytes, downloadBytes, totalBytes, expiresAtUnix,
        hasUserinfo, supportUrl, webPageUrl) =>
      { title, updateIntervalHours, uploadBytes, downloadBytes, totalBytes, expiresAtUnix,
        hasUserinfo, supportUrl, webPageUrl })
    (fun info =>
      (info.title, info.updateIntervalHours, info.uploadBytes, info.downloadBytes,
        info.totalBytes, info.expiresAtUnix, info.hasUserinfo, info.supportUrl, info.webPageUrl))
    fun _ => rfl

def metaCodec : Codec SubscriptionMeta := metaFields.codec 9 (by decide)

/-- The numbers fit into their types. -/
structure SubscriptionMeta.Fits (info : SubscriptionMeta) : Prop where
  interval : ∀ hours ∈ info.updateIntervalHours, hours < 2 ^ 32
  upload : ∀ bytes ∈ info.uploadBytes, bytes < 2 ^ 64
  download : ∀ bytes ∈ info.downloadBytes, bytes < 2 ^ 64
  total : ∀ bytes ∈ info.totalBytes, bytes < 2 ^ 64
  expires : ∀ seconds ∈ info.expiresAtUnix, -2 ^ 63 ≤ seconds ∧ seconds < 2 ^ 63

theorem valid_meta {info : SubscriptionMeta} : metaCodec.Valid info ↔ info.Fits := by
  simp only [metaCodec, metaFields, Fields.valid_codec, Fields.valid_map, Fields.valid_both,
    Fields.valid_one, Slot.valid_optional, Slot.valid_required, valid_optionalText,
    valid_optionalUnsigned, Codec.valid_i64, Codec.valid_bool, Codec.write_i64_ne, ne_eq,
    not_false_eq_true, and_true, true_and]
  constructor
  · rintro ⟨interval, upload, download, total, expires⟩
    exact ⟨interval, upload, download, total, expires⟩
  · intro fits
    exact ⟨fits.interval, fits.upload, fits.download, fits.total, fits.expires⟩

theorem valid_bareMeta : metaCodec.Valid (Subscription.bare "").info := by
  rw [valid_meta]
  constructor <;> simp [Subscription.bare]

def subscriptionFields : Fields Subscription :=
  .map
    (.both (textField "url") <|
    .both (.one "meta" (.defaulted metaCodec (Subscription.bare "").info valid_bareMeta)) <|
    .both (optionalText "description") <| omittedText "last_error")
    (fun (url, info, description, lastError) => ⟨url, info, description, lastError⟩)
    (fun subscription =>
      (subscription.url, subscription.info, subscription.description, subscription.lastError))
    fun _ => rfl

def subscriptionCodec : Codec Subscription := subscriptionFields.codec 0 (by decide)

@[simp] theorem valid_subscription {subscription : Subscription} :
    subscriptionCodec.Valid subscription ↔ subscription.info.Fits := by
  simp [subscriptionCodec, subscriptionFields, valid_meta]

@[simp] theorem kept_subscription : subscriptionCodec.kept = id := by
  funext subscription
  simp [subscriptionCodec, subscriptionFields, metaCodec, metaFields]

/-! ## The choice -/

def keyFields : Fields LocationKey :=
  .map
    (.both (textField "label") <| .both (textField "host") <|
    .one "port" (.required (.unsigned (2 ^ 16))))
    (fun (label, host, port) => ⟨label, host, port⟩)
    (fun key => (key.label, key.host, key.port))
    fun _ => rfl

def keyCodec : Codec LocationKey := keyFields.codec 0 (by decide)

/-- The structured form if the document has it, else the bare name. -/
def readActive (document : Value) : Option ActiveRef :=
  match keyCodec.read document with
  | some key => some (.key key)
  | none => (readString document).map .legacy

def writeActive : ActiveRef → Value
  | .key key => keyCodec.write key
  | .legacy label => .string label

def StorableActive : ActiveRef → Prop
  | .key key => key.port < 2 ^ 16
  | .legacy _ => True

theorem valid_key {key : LocationKey} : keyCodec.Valid key ↔ key.port < 2 ^ 16 := by
  simp [keyCodec, keyFields]

theorem kept_key (key : LocationKey) : keyCodec.kept key = key := by
  simp [keyCodec, keyFields]

theorem readKey_exactPart (document : Value) :
    keyCodec.read document.exactPart = keyCodec.read document := by
  have read := keyCodec.reads_exact document
  have same : keyCodec.kept = id := funext kept_key
  rwa [same, Option.map_id, id, id] at read

theorem readKey_write {key : LocationKey} (fits : key.port < 2 ^ 16) :
    keyCodec.read (keyCodec.write key) = some key := by
  have read := keyCodec.readsBack (valid_key.2 fits)
  have same : keyCodec.kept = id := funext kept_key
  rwa [same, Option.map_id, id, id] at read

def activeCodec : Codec ActiveRef :=
  .exactly writeActive readActive StorableActive
    (by
      intro document active read
      unfold readActive at read
      split at read
      next key found =>
        cases read
        exact valid_key.1 (keyCodec.valid_of_read found)
      next =>
        obtain ⟨label, _, rfl⟩ := Option.map_eq_some_iff.1 read
        trivial)
    (by
      intro document
      rw [readActive, readActive, readKey_exactPart, Codec.readString_exactPart])
    (by
      intro active storable
      cases active with
      | key key => rw [writeActive, readActive, readKey_write storable]
      | legacy label => rfl)

@[simp] theorem valid_active {active : ActiveRef} :
    activeCodec.Valid active ↔ StorableActive active := Iff.rfl

@[simp] theorem kept_active : activeCodec.kept = id := rfl

@[simp] theorem write_active_ne (active : ActiveRef) : activeCodec.write active ≠ .null := by
  intro null
  cases active with
  | key key => cases null
  | legacy label => cases null

theorem active_writesNoNull : activeCodec.WritesNoNull := fun _ _ => write_active_ne _

/-! ## Split selection and settings -/

def splitFields : Fields SplitInput :=
  .map
    (.both (.one "appsMode" (.defaulted .string "" Codec.valid_string)) <|
    .both (.one "sitesMode" (.defaulted .string "" Codec.valid_string)) <|
    .both (.one "apps" (.defaulted (.list .string) [] (by simp))) <|
    .one "sites" (.defaulted (.list .string) [] (by simp)))
    (fun (appsMode, sitesMode, apps, sites) => ⟨appsMode, sitesMode, apps, sites⟩)
    (fun split => (split.appsMode, split.sitesMode, split.apps, split.sites))
    fun _ => rfl

def splitCodec : Codec SplitInput := splitFields.codec 0 (by decide)

@[simp] theorem valid_split (split : SplitInput) : splitCodec.Valid split := by
  simp [splitCodec, splitFields]

@[simp] theorem kept_split (split : SplitInput) : splitCodec.kept split = split := by
  simp [splitCodec, splitFields]

def settingsFields : Fields Settings :=
  .map
    (.both (.one "mode" (.defaulted .string Settings.default.mode Codec.valid_string)) <|
    .both (.one "killswitch" (.defaulted .bool Settings.default.killswitch Codec.valid_bool)) <|
    .both (.one "allow_lan" (.defaulted .bool Settings.default.allowLan Codec.valid_bool)) <|
    .both (.one "mtu" (.defaulted (.unsigned (2 ^ 32)) Settings.default.mtu
      (Codec.valid_unsigned.2 (by decide)))) <|
    .both (optionalText "user_agent") <|
    .one "emoji" (.defaulted .bool Settings.default.emoji Codec.valid_bool))
    (fun (mode, killswitch, allowLan, mtu, userAgent, emoji) =>
      { mode, killswitch, allowLan, mtu, userAgent, emoji })
    (fun settings =>
      (settings.mode, settings.killswitch, settings.allowLan, settings.mtu, settings.userAgent,
        settings.emoji))
    fun _ => rfl

def settingsCodec : Codec Settings := settingsFields.codec 0 (by decide)

@[simp] theorem valid_settings {settings : Settings} :
    settingsCodec.Valid settings ↔ settings.mtu < 2 ^ 32 := by
  simp [settingsCodec, settingsFields]

@[simp] theorem kept_settings (settings : Settings) : settingsCodec.kept settings = settings := by
  simp [settingsCodec, settingsFields]

end Varmlen.Cli
