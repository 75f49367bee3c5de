import Mathlib.Data.List.Forall2
import Varmlen.Core.Decoding
import Varmlen.Core.Import

/-!
# Arrays of full profiles

A provider may send an array of complete Xray configs.  Each of them is one location,
however many outbounds it has, and goes by its own name.
-/

namespace Varmlen.Core

open Foundation.Json Foundation.Text

/-- The fields that name a location. -/
def nameKeys : List String := ["remarks", "name", "ps", "title"]

/-- The field is no string, or nothing but white space. -/
def IsBlank (element : Value) (key : String) : Prop :=
  ∀ text, element.getString key = some text → trim text = ""

/-- The first field with a name has this one. -/
def GivesName (element : Value) (name : String) : Prop :=
  ∃ earlier key later text, nameKeys = earlier ++ key :: later ∧
    (∀ other ∈ earlier, IsBlank element other) ∧
    element.getString key = some text ∧ trim text = name ∧ name ≠ ""

/-- The proxy outbounds of a profile. -/
def profileProxies (profile : Value) : List Value :=
  (profile.getItems "outbounds").filter hasProxyProtocol

/-- An object with a proxy outbound. -/
def IsFullProfile (value : Value) : Prop :=
  value.isObject = true ∧ (profileProxies value).isEmpty = false

instance (value : Value) : Decidable (IsFullProfile value) := instDecidableAnd

/-- The profile has a proxy outbound that can be imported. -/
def isImportable (urls : UrlParser) (profile : Value) : Bool :=
  (profileProxies profile).any fun outbound => (parseOutbound urls outbound).isSome

/-- The location belongs to the profile and is called after it; without a name there, after
one of its own outbounds. -/
structure Locates (urls : UrlParser) (profile : Value) (server : VlessServer) : Prop where
  rawProfile : server.rawProfile = some profile
  name : ∀ name, GivesName profile name → server.label = name
  unnamed : (∀ key ∈ nameKeys, IsBlank profile key) →
    ∃ outbound ∈ profileProxies profile, ∃ parsed,
      parseOutbound urls outbound = some parsed ∧ server.label = parsed.label

/-! ## Names -/

theorem trimmed_eq_none_iff {element : Value} {key : String} :
    nonEmpty ((element.getString key).map trim) = none ↔ IsBlank element key := by
  rw [nonEmpty, IsBlank]
  cases element.getString key with
  | none => simp
  | some text => simp [Option.filter]

theorem jsonStrAny_of_givesName {element : Value} {name : String}
    (gives : GivesName element name) : jsonStrAny element nameKeys = some name := by
  rcases gives with ⟨earlier, key, later, text, keys, blank, given, trimmed, nonempty⟩
  rw [jsonStrAny, List.findSome?_eq_some_iff]
  refine ⟨earlier, key, later, keys, ?_, fun other member =>
    trimmed_eq_none_iff.2 (blank other member)⟩
  rw [given, Option.map_some, trimmed, nonEmpty, Option.filter_some_pos (by simpa using nonempty)]

theorem jsonStrAny_of_blank {element : Value}
    (blank : ∀ key ∈ nameKeys, IsBlank element key) : jsonStrAny element nameKeys = none :=
  List.findSome?_eq_none_iff.2 fun key member => trimmed_eq_none_iff.2 (blank key member)

/-! ## One profile -/

theorem collectJsonServers_profile (lib : Libraries) (levels : Nat) {profile : Value}
    (full : IsFullProfile profile) :
    collectJsonServers lib (levels + 1) profile (some profile) =
      (profileServer lib.urls profile profile (profileProxies profile)).toList := by
  rcases full with ⟨isObject, nonempty⟩
  cases profile with
  | object fields =>
      rw [collectJsonServers, if_pos]
      · rfl
      · simpa [profileProxies] using nonempty
  | _ => cases isObject

theorem profileServer_eq_none {urls : UrlParser} {profile : Value}
    (refused : isImportable urls profile = false) :
    profileServer urls profile profile (profileProxies profile) = none := by
  rw [profileServer, Option.map_eq_none_iff, List.findSome?_eq_none_iff]
  simpa [isImportable] using refused

theorem locates_profileServer {urls : UrlParser} {profile : Value}
    (importable : isImportable urls profile = true) :
    ∃ server, profileServer urls profile profile (profileProxies profile) = some server ∧
      Locates urls profile server := by
  have found : ((profileProxies profile).findSome? (parseOutbound urls)).isSome = true := by
    rw [List.findSome?_isSome_iff]
    simpa [isImportable] using importable
  rcases Option.isSome_iff_exists.1 found with ⟨parsed, first⟩
  rcases List.exists_of_findSome?_eq_some first with ⟨outbound, member, accepted⟩
  refine ⟨_, by rw [profileServer, first, Option.map_some], rfl, ?_, ?_⟩
  · intro name gives
    change (jsonStrAny profile nameKeys).getD parsed.label = name
    rw [jsonStrAny_of_givesName gives, Option.getD_some]
  · intro blank
    refine ⟨outbound, member, parsed, accepted, ?_⟩
    change (jsonStrAny profile nameKeys).getD parsed.label = parsed.label
    rw [jsonStrAny_of_blank blank, Option.getD_none]

/-! ## The array -/

/-- One location for each element that can be imported, in the order of the elements. -/
theorem collectJsonServers_profiles (lib : Libraries) (levels : Nat) {elements : List Value}
    (full : ∀ element ∈ elements, IsFullProfile element) :
    List.Forall₂ (Locates lib.urls) (elements.filter (isImportable lib.urls))
      (collectJsonServers lib (levels + 2) (.array elements) none) := by
  rw [collectJsonServers]
  induction elements with
  | nil => exact .nil
  | cons element rest ih =>
      rw [List.forall_mem_cons] at full
      rw [List.flatMap_cons, Option.none_or, if_pos full.1.1,
        collectJsonServers_profile lib levels full.1]
      cases importable : isImportable lib.urls element with
      | false =>
          rw [List.filter_cons_of_neg (by simp [importable]), profileServer_eq_none importable]
          exact ih full.2
      | true =>
          rcases locates_profileServer importable with ⟨server, made, locates⟩
          rw [List.filter_cons_of_pos importable, made]
          exact .cons locates (ih full.2)

/-- An array of full profiles gives one location for each element with an outbound that can
be imported, and none for the others. -/
theorem profiles_one_location_each (lib : Libraries) {body : String} {elements : List Value}
    (opened : startsWith (bodyText body) "[" = true)
    (read : lib.readJson (bodyText body) = .ok (.array elements))
    (full : ∀ element ∈ elements, IsFullProfile element) :
    List.Forall₂ (Locates lib.urls) (elements.filter (isImportable lib.urls))
      (parseSubscription lib body) := by
  have json : opensJson (bodyText body) = true := by rw [opensJson, opened, Bool.or_true]
  have unnamed : jsonStrAny (.array elements)
      ["remarks", "name", "ps", "title", "Profile-Title"] = none := rfl
  have servers : parseSubscription lib body =
      collectJsonServers lib collectLevels (.array elements) none := by
    rw [parseSubscription_eq, if_pos json, parseJsonSubscription, read]
    dsimp only
    rw [unnamed]
    -- The array has no name, so a lone location keeps its own.
    cases collectJsonServers lib collectLevels (.array elements) none with
    | nil => rfl
    | cons first rest => cases rest <;> rfl
  rw [servers]
  exact collectJsonServers_profiles lib 5 full

/-- A profile with an outbound of the given protocol and settings. -/
def sampleProfile (remarks protocol : String) (settings : Value) : Value :=
  .object
    [("remarks", .string remarks),
      ("outbounds", .array [.object
        [("protocol", .string protocol), ("settings", settings)]])]

def helsinki : Value :=
  sampleProfile " Helsinki " "trojan" (.object
    [("address", .string "192.0.2.1"), ("port", .number (.int 443)), ("password", .string "p")])

/-- Its outbound has no address. -/
def oslo : Value := sampleProfile "Oslo" "vless" (.object [])

theorem helsinki_one_location :
    let body := (Value.array [oslo, helsinki]).toText
    let lib : Libraries := .ofTables (.ofPlain []) [(body, .array [oslo, helsinki])]
    List.Forall₂ (Locates lib.urls) [helsinki] (parseSubscription lib body) := by
  intro body lib
  have importable : [oslo, helsinki].filter (isImportable lib.urls) = [helsinki] := by
    have refused : isImportable lib.urls oslo = false := by decide +kernel
    have accepted : isImportable lib.urls helsinki = true := by decide +kernel
    simp [refused, accepted]
  rcases toText_array [oslo, helsinki] with ⟨tail, opened⟩
  have text : bodyText body = body := bodyText_of_head opened (.inr rfl)
  rw [← importable]
  refine profiles_one_location_each lib ?_ (by rw [text]; exact readJson_ofTables) (by decide)
  rw [text, startsWith, opened]
  rfl

end Varmlen.Core
