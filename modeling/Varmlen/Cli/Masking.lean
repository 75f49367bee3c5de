import Varmlen.Core.EncodedLinks
import Varmlen.Core.UrlReading
import Varmlen.Cli.Fetching

/-!
# Listings of subscriptions

A listing shows a subscription by its title or its host, and its URL with nothing after the
host (`cli/src/display.rs`).  The host is what the URL parser finds; a link that is encoded as
a whole has its secret where a URL has the host.
-/

namespace Varmlen.Cli

open Foundation Foundation.Text Foundation.UrlText Varmlen.Core

/-! ## What is shown -/

/-- A subscription URL with its credential removed. -/
def redactedUrl (urls : UrlParser) (raw : String) : String :=
  match urls.parse raw with
  | some url =>
      match url.host with
      | some host => url.scheme ++ "://" ++ host ++ "/…"
      | none => "…"
  | none => "…"

/-- What a listing says of a subscription. -/
def listings (urls : UrlParser) (subscription : Subscription) : List String :=
  [redactedUrl urls subscription.url, subscription.displayName urls]

/-- A title that says nothing is none. -/
def Subscription.Untitled (subscription : Subscription) : Prop :=
  ∀ title, subscription.info.title = some title → trim title = ""

/-! ## What is to be hidden -/

/-- The parts of a URL that can be secret, when they say anything. -/
def urlSecrets (url : Url) : List String :=
  ([urlPath url].filter (· != "/") ++
    [urlQuery url, url.username, url.password.getD ""]).filter (· != "")

def secrets (urls : UrlParser) (raw : String) : List String :=
  (readings urls raw).flatMap urlSecrets ++ (linkPayload raw).toList

/-- No listing has a secret in it. -/
def HidesSecrets (urls : UrlParser) (subscription : Subscription) : Prop :=
  ∀ listing ∈ listings urls subscription, ∀ secret ∈ secrets urls subscription.url,
    contains listing secret = false

/-! ## When it is hidden -/

/-- The scheme and the host before the secret parts of a URL; a text that is no URL with a host
goes by the same word everywhere. -/
def openPart (urls : UrlParser) (raw : String) : String :=
  match urls.parse raw with
  | some url =>
      match url.host with
      | some host => url.scheme ++ "://" ++ host ++ "/"
      | none => "subscription"
  | none => "subscription"

/-- The base64 of a link stands where a URL has its host, up to a slash at its end. -/
structure PayloadIsHost (raw payload : String) : Prop where
  given : linkPayload raw = some payload
  opens : ∀ char ∈ raw.toList.takeWhile isWhitespace, isC0OrSpace char = true
  noSpace : ' ' ∉ authority raw
  solid : ∀ char ∈ payload.toList, isWhitespace char = false
  whole : '/' ∉ payload.toList.dropLast

/-! ## What is shown of a link -/

section Shown

variable {urls : UrlParser} {raw payload scheme : String} {before after : List Char}

/-- No part of the word is base64. -/
theorem encode_not_in_word {variant : Base64.Variant} {decoded : String}
    (nonempty : Base64.encode variant decoded ≠ "") :
    ¬(Base64.encode variant decoded).toList <:+: "subscription".toList := by
  have parts : ∀ part ∈ "subscription".toList.tails.flatMap List.inits,
      part = [] ∨ ∀ urlSafe padded, Base64.decode ⟨urlSafe, padded⟩ (.ofList part) = none := by
    decide +kernel
  intro found
  rcases List.infix_iff_prefix_suffix.1 found with ⟨front, isPrefix, isSuffix⟩
  have listed : (Base64.encode variant decoded).toList ∈
      "subscription".toList.tails.flatMap List.inits :=
    List.mem_flatMap.2 ⟨front, (List.mem_tails _ _).2 isSuffix, (List.mem_inits _ _).2 isPrefix⟩
  rcases parts _ listed with empty | refused
  · exact nonempty (String.toList_eq_nil_iff.1 empty)
  · have read : Base64.decode variant (Base64.encode variant decoded) = some decoded :=
      Base64.decode_eq_some_iff.2 rfl
    rw [String.ofList_toList] at refused
    rw [refused variant.urlSafe variant.padded] at read
    cases read

theorem payload_not_in_word
    (encoded : (∀ char ∈ payload.toList, isWhitespace char = false) →
      ∃ variant decoded, payload = Base64.encode variant decoded) (nonempty : payload ≠ "") :
    ¬payload.toList <:+: "subscription".toList := by
  have visible : ∀ char ∈ "subscription".toList, isWhitespace char = false :=
    forall_mem_of_all (by decide)
  intro found
  rcases encoded fun char member => visible char (found.subset member) with ⟨variant, decoded, rfl⟩
  exact encode_not_in_word nonempty found

/-- What stands in the slashes around a host, and starts with none of them, ends with the last
one at most. -/
theorem slash_last {part host : List Char} (hostPlain : '/' ∉ host)
    (opens : part.head? ≠ some '/') (found : part <:+: '/' :: '/' :: (host ++ ['/'])) :
    '/' ∉ part.dropLast := by
  have later {rest : List Char} (found : part <:+: '/' :: rest) : part <:+: rest := by
    rcases List.infix_cons_iff.1 found with here | later
    · cases part with
      | nil => exact List.nil_infix
      | cons first more =>
          rw [List.cons_prefix_cons] at here
          exact absurd (by rw [here.1, List.head?_cons]) opens
    · exact later
  intro slash
  rcases List.infix_concat_iff.1 (later (later found)) with ending | inside
  · rcases List.suffix_concat_iff.1 ending with empty | ⟨front, rfl, ends⟩
    · rw [empty] at slash
      cases slash
    · rw [List.dropLast_concat] at slash
      exact hostPlain (ends.subset slash)
  · exact hostPlain (inside.subset ((List.dropLast_sublist _).subset slash))

section Read

variable (read : PayloadRead raw payload scheme before after)

include read

/-- A link is listed by its authority, if that is one. -/
theorem openPart_of_read (standard : ReadsAsStandard urls raw) :
    openPart urls raw =
      if ' ' ∈ authority raw ∨ authority raw = [] then "subscription"
      else scheme ++ "://" ++ .ofList ((authority raw).flatMap percentEncoded) ++ "/" := by
  have plain : ∀ char ∈ authority raw, char ∉ ['@', ':', '['] := by
    intro char member
    have unmarked := read_plain (read.mem_authority member)
    simp only [List.mem_cons, not_or] at unmarked ⊢
    exact ⟨unmarked.1, unmarked.2.1, unmarked.2.2.1, List.not_mem_nil⟩
  have parsed := standard.host scheme read.schemeOpaque read.opened plain
  rw [opaqueHost] at parsed
  by_cases space : ' ' ∈ authority raw
  · rw [if_pos (read.forbidden_iff.2 space), Option.map_none, Option.map_eq_none_iff] at parsed
    rw [openPart, parsed, if_pos (.inl space)]
  · rw [if_neg fun forbidden => space (read.forbidden_iff.1 forbidden), Option.map_some,
      Option.map_eq_some_iff] at parsed
    rcases parsed with ⟨url, found, same⟩
    rw [Prod.mk.injEq] at same
    rw [openPart, found]
    dsimp only
    rw [same.1, same.2]
    by_cases nothing : authority raw = []
    · rw [nothing]
      rfl
    · have hosted : String.ofList ((authority raw).flatMap percentEncoded) ≠ "" := by
        intro empty
        rw [String.ofList_eq_empty_iff, List.flatMap_eq_nil_iff] at empty
        rcases List.exists_mem_of_ne_nil _ nothing with ⟨char, member⟩
        exact percentEncoded_ne_nil char (empty char member)
      rw [if_neg hosted, if_neg (not_or.2 ⟨space, nothing⟩)]

theorem infix_host {host : String}
    (found : payload.toList <:+: (scheme ++ "://" ++ host ++ "/").toList)
    (slash : '/' ∈ payload.toList) :
    payload.toList <:+: '/' :: '/' :: (host.toList ++ ['/']) := by
  have noColon : ':' ∉ payload.toList := fun colon => read_plain (read.symbols _ colon) (by decide)
  have noSlash : '/' ∉ scheme.toList := by
    rcases read.named with rfl | rfl
    · decide
    · decide
  have parts : (scheme ++ "://" ++ host ++ "/").toList =
      scheme.toList ++ ':' :: '/' :: '/' :: (host.toList ++ ['/']) := by
    simp
  rw [parts] at found
  exact (infix_of_separator noColon found).resolve_left fun inScheme =>
    noSlash (inScheme.subset slash)

/-- With a host that is its authority, a link shows its base64 exactly when that has no white
space and no slash before its end. -/
theorem infix_link_iff (noSpace : ' ' ∉ authority raw) :
    payload.toList <:+:
        (scheme ++ "://" ++ .ofList ((authority raw).flatMap percentEncoded) ++ "/").toList ↔
      (∀ char ∈ payload.toList, isWhitespace char = false) ∧ '/' ∉ payload.toList.dropLast := by
  let host := String.ofList ((authority raw).flatMap percentEncoded)
  have hostEq : host.toList = (authority raw).flatMap percentEncoded := String.toList_ofList
  have hostPlain : '/' ∉ host.toList := by
    rw [hostEq, List.mem_flatMap]
    rintro ⟨char, member, written⟩
    rcases mem_percentEncoded written with ⟨same, _⟩ | digit
    · exact (UrlText.mem_authority member).2 (by rw [← same]; decide)
    · exact absurd digit (by decide)
  constructor
  · intro found
    have solid : ∀ char ∈ payload.toList, isWhitespace char = false := by
      intro char member
      have inside := found.subset member
      rw [String.toList_append, String.toList_append, List.mem_append, List.mem_append] at inside
      rcases inside with (opening | inHost) | slash
      · have visible : (["vmess", "ss"].all fun scheme =>
            (scheme ++ "://").toList.all (!isWhitespace ·)) = true := by
          decide
        have plain := List.all_eq_true.1 visible scheme (List.mem_pair.2 read.named)
        have solid := List.all_eq_true.1 plain char opening
        rwa [Bool.not_eq_true'] at solid
      · rw [hostEq] at inHost
        rcases List.mem_flatMap.1 inHost with ⟨given, member, written⟩
        exact (visible_percentEncoded (fun space => noSpace (space ▸ member)) written).1
      · rw [List.mem_singleton.1 slash]
        decide
    refine ⟨solid, fun slash => ?_⟩
    have inHost := infix_host read found ((List.dropLast_sublist _).subset slash)
    exact slash_last hostPlain (read.head_ne solid) inHost slash
  · rintro ⟨solid, whole⟩
    have written {inside : List Char} (part : ∀ char ∈ inside, char ∈ payload.toList) :
        inside.flatMap percentEncoded = inside := by
      apply percentEncoded_self
      intro char member
      have symbol := (read.symbols char (part char member)).resolve_left
        (by simp [solid char (part char member)])
      exact (symbol_plain char symbol).1
    rcases read.authority_of_whole whole with ⟨inside, ⟨parts, same⟩ | ⟨parts, same⟩⟩
    · have shown : inside.flatMap percentEncoded = inside :=
        written fun char member => by rwa [parts]
      refine ⟨(scheme ++ "://").toList ++ before.flatMap percentEncoded,
        after.flatMap percentEncoded ++ ['/'], ?_⟩
      rw [same, List.flatMap_append, List.flatMap_append, shown, parts]
      simp
    · have shown : inside.flatMap percentEncoded = inside :=
        written fun char member => by
          rw [parts]
          exact List.mem_append_left _ member
      refine ⟨(scheme ++ "://").toList ++ before.flatMap percentEncoded, [], ?_⟩
      rw [same, List.flatMap_append, shown, parts]
      simp

end Read

/-- A link's base64 is shown exactly where it is the host. -/
theorem payload_shown_iff {main : String} {tail : List Char}
    (standard : ReadsAsStandard urls raw)
    (isLink : IsEncodedLink (trim raw) scheme main.toList tail)
    (payloadEq : payload = trim (.ofList (main.toList.filter fun char => !isTabOrNewline char)))
    (given : linkPayload raw = some payload) :
    payload.toList <:+: (openPart urls raw).toList ↔ PayloadIsHost raw payload := by
  rcases linkPayload_eq_some given with ⟨_, _, _, nonempty⟩
  have notInWord : ¬payload.toList <:+: "subscription".toList :=
    payload_not_in_word (isLink.payload_encoded payloadEq) nonempty
  by_cases opens : ∀ char ∈ raw.toList.takeWhile isWhitespace, isC0OrSpace char = true
  · rcases isLink.read opens payloadEq nonempty with ⟨before, after, read⟩
    rw [openPart_of_read read standard]
    by_cases space : ' ' ∈ authority raw
    · rw [if_pos (.inl space)]
      exact ⟨fun found => absurd found notInWord, fun host => absurd space host.noSpace⟩
    · by_cases nothing : authority raw = []
      · rw [if_pos (.inr nothing)]
        refine ⟨fun found => absurd found notInWord, fun host => ?_⟩
        rcases read.authority_of_whole host.whole with ⟨inside, ⟨parts, same⟩ | ⟨parts, same⟩⟩
        · rw [nothing, eq_comm, List.append_eq_nil_iff, List.append_eq_nil_iff] at same
          exact absurd (String.toList_eq_nil_iff.1 (parts.trans same.1.2)) read.nonempty
        · rw [nothing, eq_comm, List.append_eq_nil_iff] at same
          rw [same.2] at parts
          exact absurd (by rw [parts]; rfl) (read.head_ne host.solid)
      · rw [if_neg (not_or.2 ⟨space, nothing⟩), infix_link_iff read space]
        exact ⟨fun shown => ⟨given, opens, space, shown.1, shown.2⟩,
          fun host => ⟨host.solid, host.whole⟩⟩
  · have closed := opens
    simp only [not_forall] at closed
    rcases closed with ⟨char, member, solid⟩
    rw [openPart, parse_of_closed standard member (by simpa using solid)]
    exact ⟨fun found => absurd found notInWord, fun host => absurd host.opens opens⟩

end Shown

/-! ## Listings -/

section Listings

variable {lib : Libraries} {download : Download} {urls : UrlParser} {subscription : Subscription}

theorem displayName_untitled (untitled : subscription.Untitled) :
    subscription.displayName urls =
      ((urls.parse subscription.url).bind Url.host).getD "subscription" := by
  have nameless : (subscription.info.title.map trim).filter (· != "") = none := by
    rw [Option.filter_eq_none_iff]
    intro shown given
    rcases Option.map_eq_some_iff.1 given with ⟨title, titled, rfl⟩
    simpa using untitled title titled
  rw [Subscription.displayName, nameless]

/-- JSON that was pasted is listed without anything of it. -/
theorem listings_of_json (standard : ReadsAsStandard urls subscription.url)
    (json : opensJson (trim subscription.url) = true)
    (untitled : subscription.Untitled) :
    listings urls subscription = ["…", "subscription"] := by
  rw [listings, displayName_untitled untitled, redactedUrl, parse_of_json standard json]
  rfl

/-- A text without the mark of what is left out stands in a listing exactly when it stands in
what a listing keeps. -/
theorem listed_iff (untitled : subscription.Untitled) {secret : String}
    (nonempty : secret ≠ "") (plain : '…' ∉ secret.toList) :
    (∃ listing ∈ listings urls subscription, secret.toList <:+: listing.toList) ↔
      secret.toList <:+: (openPart urls subscription.url).toList := by
  have unmarked : ¬secret.toList <:+: ['…'] := by
    intro found
    have given : secret.toList ≠ [] := fun empty => nonempty (String.toList_eq_nil_iff.1 empty)
    rcases List.exists_mem_of_ne_nil _ given with ⟨char, member⟩
    have mark := List.mem_singleton.1 (found.subset member)
    exact plain (mark ▸ member)
  have nameless {raw : String} (redacted : raw = "…") :
      secret.toList <:+: raw.toList ∨ secret.toList <:+: "subscription".toList ↔
        secret.toList <:+: "subscription".toList := by
    rw [redacted]
    exact or_iff_right unmarked
  simp only [listings, List.mem_cons, List.not_mem_nil, or_false, exists_eq_or_imp,
    exists_eq_left]
  rw [displayName_untitled untitled, redactedUrl, openPart]
  cases urls.parse subscription.url with
  | none => exact nameless rfl
  | some url =>
      dsimp only [Option.bind_some]
      cases url.host with
      | none => exact nameless rfl
      | some host =>
          dsimp only [Option.getD_some]
          have marked : (url.scheme ++ "://" ++ host ++ "/…").toList =
              (url.scheme ++ "://" ++ host ++ "/").toList ++ ['…'] := by simp
          have inHost : host.toList <:+: (url.scheme ++ "://" ++ host ++ "/").toList :=
            ⟨(url.scheme ++ "://").toList, ['/'], by simp⟩
          rw [marked]
          constructor
          · rintro (shown | shown)
            · exact (infix_of_separator plain shown).resolve_right fun nothing =>
                nonempty (String.toList_eq_nil_iff.1 (List.infix_nil.1 nothing))
            · exact shown.trans inHost
          · intro shown
            exact .inl (shown.trans (List.prefix_append _ _).isInfix)

theorem urlSecrets_plain (standard : ReadsAsStandard urls subscription.url) {url : Url}
    (read : url ∈ readings urls subscription.url) {secret : String}
    (isSecret : secret ∈ urlSecrets url) : secret ≠ "" ∧ '…' ∉ secret.toList := by
  have kept := List.mem_filter.1 isSecret
  refine ⟨by simpa using kept.2, fun mark => ?_⟩
  have written : ∃ text ∈ [url.text, url.username, url.password.getD ""], '…' ∈ text.toList := by
    have inText {chars : List Char} (within : chars <:+: afterScheme url) (member : '…' ∈ chars) :
        '…' ∈ url.text.toList :=
      List.mem_of_mem_drop (within.subset member)
    rcases List.mem_append.1 kept.1 with path | other
    · rw [List.mem_singleton.1 (List.mem_of_mem_filter path), urlPath, String.toList_ofList] at mark
      refine ⟨url.text, List.mem_cons_self, inText ?_ mark⟩
      exact (List.takeWhile_prefix _).isInfix.trans (List.dropWhile_suffix _).isInfix
    · rcases List.mem_cons.1 other with query | credential
      · rw [query, urlQuery, String.toList_ofList] at mark
        refine ⟨url.text, List.mem_cons_self, inText ?_ mark⟩
        exact (List.drop_suffix _ _).isInfix.trans
          ((List.dropWhile_suffix _).isInfix.trans (List.takeWhile_prefix _).isInfix)
      · exact ⟨secret, List.mem_cons_of_mem _ credential, mark⟩
  rcases written with ⟨text, listed, member⟩
  exact absurd (standard.ascii url read text listed '…' member) (by decide)

/-- No listing has a secret in it exactly when no part of the URL repeats what a listing keeps,
and the text is not a link with its base64 in the place of the host. -/
theorem listings_hide_iff (decodes : lib.DecodesBase64)
    (standard : ReadsAsStandard lib.urls subscription.url)
    (accepted : Accepted lib download subscription.url)
    (untitled : subscription.Untitled) :
    HidesSecrets lib.urls subscription ↔
      (∀ url ∈ readings lib.urls subscription.url, ∀ secret ∈ urlSecrets url,
        contains (openPart lib.urls subscription.url) secret = false) ∧
      ∀ payload, ¬PayloadIsHost subscription.url payload := by
  have hidden {secret : String} (nonempty : secret ≠ "") (plain : '…' ∉ secret.toList) :
      (∀ listing ∈ listings lib.urls subscription, contains listing secret = false) ↔
        ¬secret.toList <:+: (openPart lib.urls subscription.url).toList := by
    rw [← listed_iff untitled nonempty plain]
    simp [contains]
  have payloads {payload : String} (given : linkPayload subscription.url = some payload) :
      (∀ listing ∈ listings lib.urls subscription, contains listing payload = false) ↔
        ¬PayloadIsHost subscription.url payload := by
    rcases linkPayload_eq_some given with ⟨main, encoded, payloadEq, nonempty⟩
    rcases isEncodedLink_of_parsed decodes accepted.parsed encoded with ⟨scheme, tail, isLink⟩
    rw [← payload_shown_iff standard isLink payloadEq given]
    refine hidden nonempty fun mark => ?_
    exact read_plain (isLink.mem_payload payloadEq mark) (by decide)
  have parts : HidesSecrets lib.urls subscription ↔
      (∀ url ∈ readings lib.urls subscription.url, ∀ secret ∈ urlSecrets url,
        ∀ listing ∈ listings lib.urls subscription, contains listing secret = false) ∧
      ∀ payload, linkPayload subscription.url = some payload →
        ∀ listing ∈ listings lib.urls subscription, contains listing payload = false := by
    simp only [HidesSecrets, secrets, List.mem_append, List.mem_flatMap, Option.mem_toList]
    constructor
    · intro hides
      exact ⟨fun url read secret isSecret listing listed =>
          hides listing listed secret (.inl ⟨url, read, isSecret⟩),
        fun payload given listing listed => hides listing listed payload (.inr given)⟩
    · rintro ⟨urls, payload⟩ listing listed secret (⟨url, read, isSecret⟩ | given)
      · exact urls url read secret isSecret listing listed
      · exact payload secret given listing listed
  rw [parts]
  constructor
  · rintro ⟨urls, payload⟩
    refine ⟨fun url read secret isSecret => ?_, fun secret host => ?_⟩
    · rcases urlSecrets_plain standard read isSecret with ⟨nonempty, plain⟩
      have apart := (hidden nonempty plain).1 (urls url read secret isSecret)
      simpa [contains] using apart
    · exact (payloads host.given).1 (payload secret host.given) host
  · rintro ⟨urls, payload⟩
    refine ⟨fun url read secret isSecret => ?_, fun secret given => ?_⟩
    · rcases urlSecrets_plain standard read isSecret with ⟨nonempty, plain⟩
      have apart := urls url read secret isSecret
      exact (hidden nonempty plain).2 (by simpa [contains] using apart)
    · exact (payloads given).2 (payload secret)

end Listings

/-! ## Two subscriptions -/

theorem accepted_of_servers {lib : Libraries} {download : Download} {url : String}
    (single : severalLinks (trim url) = false)
    (servers : ((fetchSubscription lib download url).toOption.map fun result =>
      result.servers.isEmpty) = some false) : Accepted lib download url where
  fetched := by
    cases fetched : fetchSubscription lib download url with
    | error error =>
        rw [fetched] at servers
        cases servers
    | ok result =>
        rw [fetched] at servers
        refine ⟨result, rfl, fun empty => ?_⟩
        have given : result.servers.isEmpty = false := Option.some.inj servers
        rw [empty] at given
        cases given
  single _ := single

/-- A network with one server, which sends one location. -/
def sampleDownload : Download where
  targetPlatform := "Linux"
  targetArch := "x86_64"
  choice := none
  network :=
    { join := fun _ _ => .error "no redirect"
      lookupHost := fun _ _ port => .ok [⟨.v4 ⟨8, 8, 8, 8⟩, port⟩]
      build := fun _ => .ok ()
      send := fun _ _ => .ok ⟨200, none⟩ }
  statusText := toString
  readBody _ :=
    .ok { info := noMeta, servers := [.base "vless" "example.net" 443 "A"], description := none }

def addressUrl : Url := .plain "https" "example.com" "/sub/TOKEN"

def addressLibraries : Libraries :=
  .ofTables (.ofTable [(addressUrl.text, addressUrl)] (by decide)) []

/-- The path of a web address is left out. -/
theorem web_address_hidden :
    Accepted addressLibraries sampleDownload addressUrl.text ∧
      listings addressLibraries.urls (.bare addressUrl.text) =
        ["https://example.com/…", "example.com"] ∧
      HidesSecrets addressLibraries.urls (.bare addressUrl.text) := by
  have decodes : addressLibraries.DecodesBase64 := decodesBase64_ofTables _ _
  have accepted : Accepted addressLibraries sampleDownload addressUrl.text :=
    accepted_of_servers (by decide +kernel) (by decide +kernel)
  have standard : ReadsAsStandard addressLibraries.urls (Subscription.bare addressUrl.text).url :=
    readsAsStandard_of "https" (by decide +kernel) (by decide +kernel)
      (fun isOpaque => absurd isOpaque (by decide)) (by decide +kernel)
  have untitled : (Subscription.bare addressUrl.text).Untitled := fun _ titled => by cases titled
  refine ⟨accepted, by decide +kernel, ?_⟩
  refine (listings_hide_iff decodes standard accepted untitled).2 ⟨?_, ?_⟩
  · decide +kernel
  · intro payload host
    have noLink : linkPayload addressUrl.text = none := by decide +kernel
    exact absurd (noLink.symm.trans host.given) (by simp)

/-- All of an endpoint in base64: `rc4:pw@a.io:443`. -/
def legacyPayload : String := "cmM0OnB3QGEuaW86NDQz"

def legacyUrl : Url :=
  { Url.plain "ss" legacyPayload "#A" with fragment := some "A" }

def legacyLibraries : Libraries :=
  .ofTables (.ofTable [(legacyUrl.text, legacyUrl)] (by decide)) []

/-- A legacy Shadowsocks link is listed with its password. -/
theorem legacy_link_shown :
    legacyUrl.text = "ss://cmM0OnB3QGEuaW86NDQz#A" ∧
      legacyLibraries.DecodesBase64 ∧ ReadsAsStandard legacyLibraries.urls legacyUrl.text ∧
      Accepted legacyLibraries sampleDownload legacyUrl.text ∧
      linkPayload legacyUrl.text = some legacyPayload ∧
      listings legacyLibraries.urls (.bare legacyUrl.text) =
        ["ss://cmM0OnB3QGEuaW86NDQz/…",
          "cmM0OnB3QGEuaW86NDQz"] ∧
      ¬HidesSecrets legacyLibraries.urls (.bare legacyUrl.text) := by
  have accepted : Accepted legacyLibraries sampleDownload legacyUrl.text :=
    accepted_of_servers (by decide +kernel) (by decide +kernel)
  have standard : ReadsAsStandard legacyLibraries.urls legacyUrl.text :=
    readsAsStandard_of "ss" (by decide +kernel) (by decide +kernel)
      (fun _ => by decide +kernel) (by decide +kernel)
  have given : linkPayload legacyUrl.text = some legacyPayload := by decide +kernel
  have listed : listings legacyLibraries.urls (.bare legacyUrl.text) =
      ["ss://cmM0OnB3QGEuaW86NDQz/…", legacyPayload] := by
    decide +kernel
  refine ⟨by decide +kernel, decodesBase64_ofTables _ _, standard, accepted, given, listed, ?_⟩
  intro hides
  have isSecret : legacyPayload ∈ secrets legacyLibraries.urls legacyUrl.text := by
    rw [secrets, given]
    exact List.mem_append_right _ List.mem_cons_self
  have hidden := hides legacyPayload (by rw [listed]; simp) legacyPayload isSecret
  rw [contains, decide_eq_false_iff_not] at hidden
  exact hidden List.infix_rfl

end Varmlen.Cli
