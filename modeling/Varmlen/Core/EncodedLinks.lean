import Varmlen.Foundation.Checks
import Varmlen.Foundation.UrlText
import Varmlen.Core.Import
import Varmlen.Core.Shadowsocks

/-!
# Links that are encoded as a whole

A VMess link, or a Shadowsocks link of the older layout, is base64 after its scheme.  Read as a
URL, it has that base64 for an authority, up to the first slash in it.
-/

namespace Varmlen.Core

open Foundation Foundation.Text Foundation.UrlText Foundation.Checks

/-! ## The base64 of a link -/

/-- The part of a link that has all of it encoded: a VMess link, or a Shadowsocks link without
an open endpoint. -/
def encodedPart (link : String) : Option String :=
  match afterPrefix link "vmess://" with
  | some encoded => some encoded
  | none =>
      (afterPrefix link "ss://").bind fun rest =>
        let main := before (splitLabel rest).1 "?"
        if (rsplitOnce '@' main).isNone then some main else none

/-- The base64 in a text of one link, as a URL parser reads it: without tabs and line breaks,
and without white space around it. -/
def linkPayload (raw : String) : Option String :=
  ((encodedPart (trim raw)).map fun encoded =>
    trim (.ofList (encoded.toList.filter fun char => !isTabOrNewline char))).filter (· != "")

theorem linkPayload_eq_some (given : linkPayload raw = some payload) :
    ∃ main, encodedPart (trim raw) = some main ∧
      payload = trim (.ofList (main.toList.filter fun char => !isTabOrNewline char)) ∧
        payload ≠ "" := by
  rw [linkPayload, Option.filter_eq_some_iff, Option.map_eq_some_iff] at given
  rcases given with ⟨⟨main, encoded, rfl⟩, nonempty⟩
  exact ⟨main, encoded, rfl, by simpa using nonempty⟩

/-- A link with a scheme, a part in base64, and whatever may follow that. -/
structure IsEncodedLink (link scheme : String) (main tail : List Char) : Prop where
  named : scheme = "vmess" ∨ scheme = "ss"
  parts : link.toList = (scheme ++ "://").toList ++ (main ++ tail)
  encoded : ∃ variant decoded,
    main.filter (fun char => !isWhitespace char) = (Base64.encode variant decoded).toList
  ends : IsTail tail

/-! ## Links that are accepted -/

section Accepted

variable {lib : Libraries} {link rest : String} {server : VlessServer}

theorem b64DecodeStr_eq_some {lib : Libraries} (decodes : lib.DecodesBase64)
    {text decoded : String} (read : b64DecodeStr lib text = some decoded) :
    ∃ variant, Base64.encode variant decoded = withoutWhitespace text := by
  rcases List.exists_of_findSome?_eq_some read with ⟨engine, _, accepted⟩
  exact ⟨engine.variant, (decodes _ _ _).1 accepted⟩

theorem afterPrefix_eq_some {text pattern rest : String} :
    afterPrefix text pattern = some rest ↔ text.toList = pattern.toList ++ rest.toList := by
  rw [afterPrefix, Option.map_eq_some_iff]
  constructor
  · rintro ⟨chars, dropped, rfl⟩
    rw [List.dropPrefix?_eq_some_iff] at dropped
    rcases dropped with ⟨front, parts, same⟩
    rw [parts, String.toList_ofList, eq_of_beq same]
  · intro parts
    refine ⟨rest.toList, ?_, String.ofList_toList⟩
    rw [List.dropPrefix?_eq_some_iff]
    exact ⟨pattern.toList, parts, beq_self_eq_true _⟩

/-- Before the label and the query stands the main part of a link. -/
theorem exists_tail (rest : String) :
    ∃ tail, rest.toList = (before (splitLabel rest).1 "?").toList ++ tail ∧ IsTail tail := by
  have main : (before (splitLabel rest).1 "?").toList =
      (rest.toList.takeWhile (· != '#')).takeWhile (· != '?') := by
    rw [before, String.toList_ofList, ← splitLabel_toList]
    exact charsBefore_singleton '?' _
  have marked {stop : Char} (isMark : stop = '?' ∨ stop = '#') (chars more : List Char) :
      chars.dropWhile (· != stop) ≠ [] → IsTail (chars.dropWhile (· != stop) ++ more) := by
    intro nonempty
    have head := List.head?_dropWhile_not (· != stop) chars
    cases cut : chars.dropWhile (· != stop) with
    | nil => exact absurd cut nonempty
    | cons first others =>
        rw [cut] at head
        have same : first = stop := by simpa using head
        exact .inr ⟨first, others ++ more, same ▸ isMark, rfl⟩
  let labelled := rest.toList.dropWhile (· != '#')
  let queried := (rest.toList.takeWhile (· != '#')).dropWhile (· != '?')
  refine ⟨queried ++ labelled, ?_, ?_⟩
  · rw [main, ← List.append_assoc, List.takeWhile_append_dropWhile,
      List.takeWhile_append_dropWhile]
  · by_cases noQuery : queried = []
    · by_cases noLabel : labelled = []
      · rw [noQuery, noLabel]
        exact .inl rfl
      · have ends := marked (.inr rfl) rest.toList [] noLabel
        rw [List.append_nil] at ends
        rwa [noQuery, List.nil_append]
    · exact marked (.inl rfl) _ labelled noQuery

theorem parseVmess_of_parsed (parts : link.toList = "vmess://".toList ++ rest.toList)
    (trimmed : trim link = link) (parsed : parseProxyUri lib link = .ok server) :
    ∃ server, parseVmess lib link = .ok server := by
  have vless : startsWith link "vless://" = false := by
    rw [startsWith, parts]
    rfl
  have trojan : startsWith link "trojan://" = false := by
    rw [startsWith, parts]
    rfl
  have ss : startsWith link "ss://" = false := by
    rw [startsWith, parts]
    rfl
  have vmess : startsWith link "vmess://" = true := by
    rw [startsWith, parts]
    rfl
  rw [parseProxyUri, trimmed] at parsed
  simp only [vless, trojan, ss, vmess, Bool.false_eq_true, if_false, if_true] at parsed
  rcases bind_eq_ok.1 parsed with ⟨read, isRead, _⟩
  exact ⟨read, isRead⟩

theorem parseShadowsocks_of_parsed (parts : link.toList = "ss://".toList ++ rest.toList)
    (trimmed : trim link = link) (parsed : parseProxyUri lib link = .ok server) :
    ∃ server, parseShadowsocks lib link = .ok server := by
  have vless : startsWith link "vless://" = false := by
    rw [startsWith, parts]
    rfl
  have trojan : startsWith link "trojan://" = false := by
    rw [startsWith, parts]
    rfl
  have ss : startsWith link "ss://" = true := by
    rw [startsWith, parts]
    rfl
  rw [parseProxyUri, trimmed] at parsed
  simp only [vless, trojan, ss, Bool.false_eq_true, if_false, if_true] at parsed
  rcases bind_eq_ok.1 parsed with ⟨read, isRead, _⟩
  exact ⟨read, isRead⟩

theorem isSupportedUri_of_opened {scheme : String} (listed : scheme ∈ supportedSchemes)
    (parts : (trim link).toList = scheme.toList ++ rest.toList) :
    isSupportedUri (trim link) = true := by
  rw [isSupportedUri, trim_trim, List.any_eq_true]
  refine ⟨scheme, listed, ?_⟩
  rw [startsWith, parts]
  exact List.isPrefixOf_iff_prefix.2 (List.prefix_append _ _)

/-- The encoded part of an accepted link is the base64 of a text. -/
theorem isEncodedLink_of_parsed (decodes : lib.DecodesBase64) {url main : String}
    (accepted : isSupportedUri (trim url) = true →
      ∃ server, parseProxyUri lib (trim url) = .ok server)
    (given : encodedPart (trim url) = some main) :
    ∃ scheme tail, IsEncodedLink (trim url) scheme main.toList tail := by
  have symbols {decoded : String} (read : b64DecodeStr lib main = some decoded) :
      ∃ variant decoded, main.toList.filter (fun char => !isWhitespace char) =
        (Base64.encode variant decoded).toList := by
    rcases b64DecodeStr_eq_some decodes read with ⟨variant, same⟩
    exact ⟨variant, decoded, by rw [same, withoutWhitespace, String.toList_ofList]⟩
  rw [encodedPart] at given
  split at given
  next encoded vmess =>
    cases given
    have parts := afterPrefix_eq_some.1 vmess
    rcases accepted (isSupportedUri_of_opened (by decide) parts) with ⟨server, parsed⟩
    rcases parseVmess_of_parsed parts (trim_trim url) parsed with ⟨server, parsed⟩
    refine ⟨"vmess", [], .inl rfl, by rw [parts, List.append_nil]; rfl, ?_, .inl rfl⟩
    rw [parseVmess, trim_trim, vmess, Option.getD_some] at parsed
    cases read : b64DecodeStr lib main with
    | none =>
        rw [read] at parsed
        cases parsed
    | some decoded => exact symbols read
  next =>
    rcases Option.bind_eq_some_iff.1 given with ⟨rest, ss, legacy⟩
    rcases Option.ite_none_right_eq_some.1 legacy with ⟨noUser, same⟩
    have parts := afterPrefix_eq_some.1 ss
    rcases accepted (isSupportedUri_of_opened (by decide) parts) with ⟨server, parsed⟩
    rcases parseShadowsocks_of_parsed parts (trim_trim url) parsed with ⟨server, parsed⟩
    rcases exists_tail rest with ⟨tail, cut, ends⟩
    rw [Option.some.inj same] at cut noUser
    refine ⟨"ss", tail, .inr rfl, by rw [parts, cut]; rfl, ?_, ends⟩
    rw [parseShadowsocks_eq, trim_trim, ss, Option.getD_some, Option.some.inj same,
      shadowsocksParts, Option.isNone_iff_eq_none.1 noUser] at parsed
    cases read : b64DecodeStr lib main with
    | none =>
        rw [read] at parsed
        cases parsed
    | some decoded => exact symbols read

end Accepted

/-! ## Where the base64 of a link stands -/

/-- What the symbols of base64 are. -/
theorem symbol_plain : ∀ char ∈ Base64.symbolChars, isPrintable char = true ∧
    isWhitespace char = false ∧ char ∉ ['@', ':', '[', '?', '#', '…'] ∧
      (char ≠ '/' → char ∉ forbiddenHostChars) :=
  forall_mem_of_all (by decide +kernel)

/-- What ends or divides an authority is neither white space nor base64, and nor is the mark of
what a listing leaves out. -/
theorem read_plain {char : Char}
    (isRead : isWhitespace char = true ∨ char ∈ Base64.symbolChars) :
    char ∉ ['@', ':', '[', '?', '#', '…'] := by
  have marks : ∀ mark ∈ ['@', ':', '[', '?', '#', '…'], isWhitespace mark = false :=
    forall_mem_of_all (by decide)
  rcases isRead with white | symbol
  · intro mark
    rw [marks char mark] at white
    cases white
  · exact (symbol_plain char symbol).2.2.1

section Read

variable {raw payload scheme : String} {main tail : List Char}

theorem IsEncodedLink.mem_main {link : String} (isLink : IsEncodedLink link scheme main tail)
    {char : Char} (member : char ∈ main) :
    isWhitespace char = true ∨ char ∈ Base64.symbolChars := by
  rcases isLink.encoded with ⟨variant, decoded, symbols⟩
  cases white : isWhitespace char with
  | true => exact .inl rfl
  | false =>
      right
      apply Base64.mem_symbolChars
      rw [← symbols, List.mem_filter, white]
      exact ⟨member, rfl⟩

/-- The authority of a link is read up to its query or its label. -/
theorem takeWhile_authority {body rest : List Char}
    (unmarked : ∀ char ∈ body, char ≠ '?' ∧ char ≠ '#') (ends : IsTail rest) :
    (body ++ rest).takeWhile (fun char => !authorityEnds.contains char) =
      body.takeWhile (· != '/') := by
  induction body with
  | nil =>
      rcases ends with rfl | ⟨mark, more, rfl | rfl, rfl⟩
      · rfl
      · rfl
      · rfl
  | cons char body ih =>
      rw [List.forall_mem_cons] at unmarked
      by_cases slash : char = '/'
      · rw [slash]
        rfl
      · have kept : char ∉ authorityEnds := by simp [authorityEnds, slash, unmarked.1]
        rw [List.cons_append, List.takeWhile_cons_of_pos (by simpa using kept),
          List.takeWhile_cons_of_pos (by simpa using slash), ih unmarked.2]

/-- The base64 of a link in the text that a URL parser reads, with white space before and after
it in the authority. -/
structure PayloadRead (raw payload scheme : String) (before after : List Char) : Prop where
  named : scheme = "vmess" ∨ scheme = "ss"
  opened : (scheme ++ "://").toList <+: input raw
  authorityEq : authority raw = (before ++ payload.toList ++ after).takeWhile (· != '/')
  white : ∀ char ∈ before ++ after, isWhitespace char = true ∧ isTabOrNewline char = false
  symbols : ∀ char ∈ payload.toList, isWhitespace char = true ∨ char ∈ Base64.symbolChars
  nonempty : payload ≠ ""
  encoded : (∀ char ∈ payload.toList, isWhitespace char = false) →
    ∃ variant decoded, payload = Base64.encode variant decoded

theorem input_of_link {front rest : List Char} (named : scheme = "vmess" ∨ scheme = "ss")
    (parts : raw.toList = front ++ ((scheme ++ "://").toList ++ rest))
    (stripped : ∀ char ∈ front, isC0OrSpace char = true) :
    input raw = (scheme ++ "://").toList ++ cleaned rest := by
  have slash : isC0OrSpace '/' = false := by decide
  rw [input, parts, List.dropWhile_append_of_pos stripped]
  rcases named with rfl | rfl
  · have kept : cleaned ("vmess:/".toList ++ '/' :: rest) = "vmess:/".toList ++ '/' :: _ :=
      cleaned_append_cons slash
    exact kept
  · have kept : cleaned ("ss:/".toList ++ '/' :: rest) = "ss:/".toList ++ '/' :: _ :=
      cleaned_append_cons slash
    exact kept

/-- After the base64 of a link comes white space, then its query or its label. -/
theorem cleaned_tail {back closing : List Char} (ends : IsTail tail)
    (backWhite : ∀ char ∈ back, isWhitespace char = true)
    (closingWhite : ∀ char ∈ closing, isWhitespace char = true) :
    ∃ after rest, cleaned (back ++ (tail ++ closing)) = after ++ rest ∧
      (∀ char ∈ after, isWhitespace char = true ∧ isTabOrNewline char = false) ∧ IsTail rest := by
  rcases ends with rfl | ⟨mark, more, isMark, rfl⟩
  · refine ⟨cleaned (back ++ closing), [], by simp, ?_, .inl rfl⟩
    intro char member
    have kept := List.mem_filter.1 member
    refine ⟨?_, by simpa using kept.2⟩
    rcases List.mem_append.1 (mem_of_mem_cleaned member) with early | late
    · exact backWhite char early
    · exact closingWhite char late
  · have solid : isC0OrSpace mark = false := by
      rcases isMark with rfl | rfl
      · decide
      · decide
    refine ⟨back.filter fun char => !isTabOrNewline char, mark :: cleaned (more ++ closing), ?_, ?_,
      .inr ⟨mark, _, isMark, rfl⟩⟩
    · rw [List.cons_append]
      exact cleaned_append_cons solid
    · intro char member
      have kept := List.mem_filter.1 member
      exact ⟨backWhite char kept.1, by simpa using kept.2⟩

theorem IsEncodedLink.mem_payload {link : String}
    (isLink : IsEncodedLink link scheme main tail)
    (given : payload = trim (.ofList (main.filter fun char => !isTabOrNewline char)))
    {char : Char} (member : char ∈ payload.toList) :
    isWhitespace char = true ∨ char ∈ Base64.symbolChars := by
  rw [given] at member
  have inside := (infix_trim _).subset member
  rw [String.toList_ofList] at inside
  exact isLink.mem_main (List.mem_of_mem_filter inside)

theorem IsEncodedLink.payload_encoded {link : String}
    (isLink : IsEncodedLink link scheme main tail)
    (given : payload = trim (.ofList (main.filter fun char => !isTabOrNewline char)))
    (solid : ∀ char ∈ payload.toList, isWhitespace char = false) :
    ∃ variant decoded, payload = Base64.encode variant decoded := by
  rcases isLink.encoded with ⟨variant, decoded, same⟩
  refine ⟨variant, decoded, ?_⟩
  rw [← String.toList_inj, ← same]
  calc
    payload.toList = payload.toList.filter (!isWhitespace ·) := by
      rw [List.filter_eq_self.2 (by simpa using solid)]
    _ = (main.filter fun char => !isTabOrNewline char).filter (!isWhitespace ·) := by
      rw [given, filter_visible_trim, String.toList_ofList]
    _ = main.filter (!isWhitespace ·) := by
      rw [List.filter_filter]
      apply List.filter_congr
      intro char _
      cases dropped : isTabOrNewline char with
      | false => simp
      | true => simp [(of_isTabOrNewline dropped).1]

/-- The base64 ends with the last of its symbols. -/
theorem IsEncodedLink.cut (isLink : IsEncodedLink (trim raw) scheme main tail)
    (given : payload = trim (.ofList (main.filter fun char => !isTabOrNewline char)))
    (nonempty : payload ≠ "") :
    ∃ front last back, main = front ++ last :: back ∧ isWhitespace last = false ∧
      isC0OrSpace last = false ∧ ∀ char ∈ back, isWhitespace char = true := by
  rcases exists_visible_of_trim (given ▸ nonempty) with ⟨char, member, visible⟩
  rw [String.toList_ofList] at member
  rcases exists_last_visible (List.mem_of_mem_filter member) visible with
    ⟨front, last, back, cut, lastVisible, backWhite⟩
  have lastSymbol : last ∈ Base64.symbolChars := by
    have white := isLink.mem_main (cut ▸ List.mem_append_right _ List.mem_cons_self)
    exact white.resolve_left (by simp [lastVisible])
  have printable := (symbol_plain last lastSymbol).1
  simp only [isPrintable, Bool.and_eq_true, decide_eq_true_eq] at printable
  exact ⟨front, last, back, cut, lastVisible, isC0OrSpace_eq_false lastVisible printable.1,
    backWhite⟩

/-- What a URL parser reads of a link: its scheme, its base64 among white space, and what
follows that. -/
theorem IsEncodedLink.input_eq (isLink : IsEncodedLink (trim raw) scheme main tail)
    (opens : ∀ char ∈ raw.toList.takeWhile isWhitespace, isC0OrSpace char = true)
    (given : payload = trim (.ofList (main.filter fun char => !isTabOrNewline char)))
    (nonempty : payload ≠ "") :
    ∃ before after rest, input raw =
        (scheme ++ "://").toList ++ (before ++ payload.toList ++ after ++ rest) ∧
      (∀ char ∈ before ++ after, isWhitespace char = true ∧ isTabOrNewline char = false) ∧
      IsTail rest := by
  rcases isLink.cut given nonempty with ⟨front, last, back, cut, lastVisible, lastSolid, backWhite⟩
  let before := (front.filter fun char => !isTabOrNewline char).takeWhile isWhitespace
  have filtered : main.filter (fun char => !isTabOrNewline char) =
      (front.filter fun char => !isTabOrNewline char) ++ last ::
        back.filter fun char => !isTabOrNewline char := by
    rw [cut, List.filter_append, List.filter_cons_of_pos (by simp [kept_of_solid lastSolid])]
  have body : before ++ payload.toList =
      (front.filter fun char => !isTabOrNewline char) ++ [last] := by
    have trimmed := trim_toList_last (String.toList_ofList.trans filtered) lastVisible
      fun char member => backWhite char (List.mem_of_mem_filter member)
    rw [given, trimmed, ← List.append_assoc, List.takeWhile_append_dropWhile]
  rcases trim_parts raw with ⟨closing, closingWhite, whole⟩
  rcases cleaned_tail isLink.ends backWhite closingWhite with
    ⟨after, rest, cleanedTail, white, ends⟩
  have parts : raw.toList = raw.toList.takeWhile isWhitespace ++
      ((scheme ++ "://").toList ++ (front ++ last :: (back ++ (tail ++ closing)))) := by
    conv_lhs => rw [whole, isLink.parts, cut]
    simp
  refine ⟨before, after, rest, ?_, ?_, ends⟩
  · rw [input_of_link isLink.named parts opens, cleaned_append_cons lastSolid, cleanedTail, body]
    simp
  · intro char member
    rcases List.mem_append.1 member with opening | closing
    · have kept := List.mem_filter.1 ((List.takeWhile_prefix _).subset opening)
      exact ⟨List.all_eq_true.1 List.all_takeWhile char opening, by simpa using kept.2⟩
    · exact white char closing

/-- Where a link is read with its base64, and nothing but what is stripped before it. -/
theorem IsEncodedLink.read (isLink : IsEncodedLink (trim raw) scheme main tail)
    (opens : ∀ char ∈ raw.toList.takeWhile isWhitespace, isC0OrSpace char = true)
    (given : payload = trim (.ofList (main.filter fun char => !isTabOrNewline char)))
    (nonempty : payload ≠ "") :
    ∃ before after, PayloadRead raw payload scheme before after := by
  rcases isLink.input_eq opens given nonempty with ⟨before, after, rest, inputEq, white, ends⟩
  have symbols : ∀ char ∈ payload.toList, isWhitespace char = true ∨ char ∈ Base64.symbolChars :=
    fun char member => isLink.mem_payload given member
  have unmarked : ∀ char ∈ before ++ payload.toList ++ after, char ≠ '?' ∧ char ≠ '#' := by
    intro char member
    have isRead : isWhitespace char = true ∨ char ∈ Base64.symbolChars := by
      rcases List.mem_append.1 member with early | late
      · rcases List.mem_append.1 early with opening | inside
        · exact .inl (white char (List.mem_append_left _ opening)).1
        · exact symbols char inside
      · exact .inl (white char (List.mem_append_right _ late)).1
    have plain := read_plain isRead
    simp only [List.mem_cons, not_or] at plain
    exact ⟨plain.2.2.2.1, plain.2.2.2.2.1⟩
  have noColon : ':' ∉ scheme.toList := by
    rcases isLink.named with rfl | rfl
    · decide
    · decide
  refine ⟨before, after, isLink.named, ⟨_, inputEq.symm⟩, ?_, white, symbols, nonempty,
    isLink.payload_encoded given⟩
  rw [authority_eq noColon inputEq, takeWhile_authority unmarked ends]

end Read

namespace PayloadRead

variable {raw payload scheme : String} {before after : List Char}
variable (read : PayloadRead raw payload scheme before after)

include read

theorem mem_authority {char : Char} (member : char ∈ authority raw) :
    isWhitespace char = true ∨ char ∈ Base64.symbolChars := by
  rw [read.authorityEq] at member
  have inside := (List.takeWhile_prefix _).subset member
  rw [List.append_assoc, List.mem_append, List.mem_append] at inside
  rcases inside with opening | within | closing
  · exact .inl (read.white char (List.mem_append_left _ opening)).1
  · exact read.symbols char within
  · exact .inl (read.white char (List.mem_append_right _ closing)).1

/-- A space is all that can make the authority of a link no host. -/
theorem forbidden_iff : (authority raw).any forbiddenHostChars.contains = true ↔
    ' ' ∈ authority raw := by
  rw [List.any_eq_true]
  constructor
  · rintro ⟨char, member, forbidden⟩
    have listed : char ∈ forbiddenHostChars := by simpa using forbidden
    have kept := UrlText.mem_authority member
    rcases read.mem_authority member with white | symbol
    · have spaces : ∀ mark ∈ forbiddenHostChars, isWhitespace mark = true →
          isTabOrNewline mark = true ∨ mark = ' ' := forall_mem_of_all (by decide)
      have isSpace := (spaces char listed white).resolve_left (by simp [kept.1])
      rwa [isSpace] at member
    · have noSlash : char ≠ '/' := by
        rintro rfl
        exact kept.2 (by decide)
      exact absurd listed ((symbol_plain char symbol).2.2.2 noSlash)
  · intro space
    exact ⟨' ', space, by decide⟩

theorem schemeOpaque : isOpaqueScheme scheme = true := by
  rcases read.named with rfl | rfl
  · decide
  · decide

theorem head_ne (solid : ∀ char ∈ payload.toList, isWhitespace char = false) :
    payload.toList.head? ≠ some '/' := by
  rcases read.encoded solid with ⟨variant, decoded, rfl⟩
  exact Base64.head?_encode_ne_slash variant decoded

/-- The authority has the base64 in it up to a slash. -/
theorem authority_of_whole (whole : '/' ∉ payload.toList.dropLast) :
    ∃ inside, (payload.toList = inside ∧ authority raw = before ++ inside ++ after) ∨
      (payload.toList = inside ++ ['/'] ∧ authority raw = before ++ inside) := by
  have noSlash : '/' ∉ before ++ after := by
    intro slash
    cases (read.white '/' slash).1
  rw [List.mem_append, not_or] at noSlash
  rw [read.authorityEq]
  by_cases slash : '/' ∈ payload.toList
  · have given : payload.toList ≠ [] := List.ne_nil_of_mem slash
    have parts := List.dropLast_append_getLast given
    have last : payload.toList.getLast given = '/' := by
      rw [← parts, List.mem_append] at slash
      exact (List.mem_singleton.1 (slash.resolve_left whole)).symm
    rw [last] at parts
    refine ⟨payload.toList.dropLast, .inr ⟨parts.symm, ?_⟩⟩
    have regrouped : before ++ payload.toList ++ after =
        (before ++ payload.toList.dropLast) ++ '/' :: after := by
      conv_lhs => rw [← parts]
      simp
    rw [regrouped, takeWhile_ne_append (by simp [noSlash.1, whole])]
  · refine ⟨payload.toList, .inl ⟨rfl, ?_⟩⟩
    rw [takeWhile_ne_eq_self (by simp [noSlash, slash])]

end PayloadRead

end Varmlen.Core
