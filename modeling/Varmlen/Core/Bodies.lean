import Varmlen.Foundation.TextParts
import Varmlen.Core.Decoding
import Varmlen.Core.Import

/-!
# Bodies of subscriptions

A body is JSON, a list of links or such a list in base64.  A list gives the same locations
when it is encoded, whatever white space is put into it.  A byte order mark before a body
is passed over for JSON alone.
-/

namespace Varmlen.Core

open Foundation Foundation.Text

/-- The body has a link in it, white space aside. -/
def hasScheme (text : String) : Bool :=
  supportedSchemes.any (contains (withoutWhitespace text))

theorem decodeBody_of_hasScheme {lib : Libraries} {body : String}
    (plain : hasScheme body = true) : decodeBody lib body = body := by
  rw [decodeBody]
  exact if_pos plain

theorem decodeBody_of_not_hasScheme {lib : Libraries} {body : String}
    (encoded : hasScheme body = false) :
    decodeBody lib body = (decodeAny lib (withoutWhitespace body)).getD body := by
  rw [decodeBody]
  exact if_neg (by simpa [hasScheme] using encoded)

/-- The schemes have no white space in them. -/
theorem hasScheme_of_infix {scheme text : String} (supported : scheme ∈ supportedSchemes)
    (found : scheme.toList <:+: text.toList) : hasScheme text = true := by
  have solid : ∀ scheme ∈ supportedSchemes,
      scheme.toList.filter (fun char => !isWhitespace char) = scheme.toList := by
    decide
  rw [hasScheme, List.any_eq_true]
  refine ⟨scheme, supported, ?_⟩
  rw [contains, decide_eq_true_eq, withoutWhitespace, String.toList_ofList,
    ← solid scheme supported]
  exact found.filter _

theorem parseSubscription_list {lib : Libraries} {body : String}
    (noJson : opensJson (bodyText body) = false) :
    parseSubscription lib body = (lines (decodeBody lib body)).filterMap (parseLine lib) := by
  rw [parseSubscription_eq, if_neg (by simp [noJson])]

/-! ## Base64 -/

/-- White space is put into a text. -/
inductive Spaced : List Char → List Char → Prop where
  | nil : Spaced [] []
  | keep (char : Char) {plain spaced : List Char} (rest : Spaced plain spaced) :
      Spaced (char :: plain) (char :: spaced)
  | insert {char : Char} (white : isWhitespace char = true) {plain spaced : List Char}
      (rest : Spaced plain spaced) : Spaced plain (char :: spaced)

/-- A text without white space is all that is left once the white space is taken out
again. -/
theorem Spaced.filter_eq {plain spaced : List Char} (inserted : Spaced plain spaced)
    (solid : ∀ char ∈ plain, isWhitespace char = false) :
    spaced.filter (fun char => !isWhitespace char) = plain := by
  induction inserted with
  | nil => rfl
  | keep char rest ih =>
      rw [List.forall_mem_cons] at solid
      rw [List.filter_cons_of_pos (by simp [solid.1]), ih solid.2]
  | insert white rest ih => rw [List.filter_cons_of_neg (by simp [white]), ih solid]

/-- A common front. -/
theorem Spaced.after {plain spaced : List Char} (front : List Char)
    (inserted : Spaced plain spaced) : Spaced (front ++ plain) (front ++ spaced) := by
  induction front with
  | nil => exact inserted
  | cons char front ih => exact .keep char ih

theorem Spaced.mem {plain spaced : List Char} {char : Char} (inserted : Spaced plain spaced)
    (member : char ∈ spaced) : char ∈ plain ∨ isWhitespace char = true := by
  induction inserted with
  | nil => cases member
  | keep kept rest ih =>
      rcases List.mem_cons.1 member with rfl | later
      · exact .inl (.head _)
      · exact (ih later).imp_left (List.mem_cons_of_mem kept)
  | insert white rest ih =>
      rcases List.mem_cons.1 member with rfl | later
      · exact .inr white
      · exact ih later

theorem bodyText_subset {body : String} {char : Char} (member : char ∈ (bodyText body).toList) :
    char ∈ body.toList := by
  rw [bodyText, trimStart, trimStartMatches, String.toList_ofList, String.toList_ofList] at member
  exact (List.dropWhile_sublist _).subset ((List.dropWhile_sublist _).subset member)

/-- A body with neither kind of bracket in it is no JSON. -/
theorem opensJson_bodyText_eq_false {body : String}
    (plain : ∀ char ∈ ['\x7b', '['], char ∉ body.toList) : opensJson (bodyText body) = false := by
  have unopened (mark : Char) (bracket : mark ∈ ['\x7b', '[']) :
      startsWith (bodyText body) (String.singleton mark) = false := by
    rw [Bool.eq_false_iff]
    intro opened
    refine plain mark bracket (bodyText_subset ?_)
    rw [startsWith, List.isPrefixOf_iff_prefix] at opened
    exact opened.subset (by simp)
  rw [opensJson, Bool.or_eq_false_iff]
  exact ⟨unopened '\x7b' (by decide), unopened '[' (by decide)⟩

section Encoded

variable {lib : Libraries} (decodes : lib.DecodesBase64) {variant : Base64.Variant}

include decodes

/-- The encoding of a text, with white space put into it, is decoded to the text. -/
theorem decodeBody_spaced {text body : String}
    (spaced : Spaced (Base64.encode variant text).toList body.toList) :
    decodeBody lib body = text := by
  have compact : withoutWhitespace body = Base64.encode variant text := by
    rw [withoutWhitespace, ← String.toList_inj, String.toList_ofList]
    exact spaced.filter_eq fun char member => isWhitespace_eq_false (Base64.mem_encode member)
  have encoded : hasScheme body = false := by
    rw [hasScheme, compact, List.any_eq_false]
    intro scheme supported found
    rw [contains, decide_eq_true_eq] at found
    have colon : ∀ scheme ∈ supportedSchemes, ':' ∈ scheme.toList := by decide
    exact Base64.not_mem_encode (by decide) (by decide)
      (found.subset (colon scheme supported))
  rw [decodeBody_of_not_hasScheme encoded, compact, decodeAny_encode decodes, Option.getD_some]

/-- A list of links gives the same locations plain and in base64. -/
theorem base64_bodies_transparent {text body scheme : String}
    (supported : scheme ∈ supportedSchemes) (linked : contains text scheme = true)
    (noJson : opensJson (bodyText text) = false)
    (spaced : Spaced (Base64.encode variant text).toList body.toList) :
    parseSubscription lib body = parseSubscription lib text := by
  have plain : hasScheme text = true :=
    hasScheme_of_infix supported (by simpa [contains] using linked)
  have encodedNoJson : opensJson (bodyText body) = false := by
    refine opensJson_bodyText_eq_false fun char bracket member => ?_
    have brackets : ∀ char ∈ ['\x7b', '['], Base64.digitOf char = none ∧ char ≠ '=' ∧
        isWhitespace char = false :=
      forall_mem_of_all (by decide)
    rcases brackets char bracket with ⟨noSymbol, noPadding, solid⟩
    rcases spaced.mem member with symbol | white
    · exact Base64.not_mem_encode noSymbol noPadding symbol
    · rw [solid] at white
      cases white
  rw [parseSubscription_list encodedNoJson, parseSubscription_list noJson,
    decodeBody_spaced decodes spaced, decodeBody_of_hasScheme plain]

end Encoded

/-- A line feed in the middle of an encoding. -/
theorem wrapped_body_transparent :
    let lib : Libraries := .ofTables (.ofPlain []) []
    parseSubscription lib "c3M6Ly9h\nOmJAaDox" = parseSubscription lib "ss://a:b@h:1" := by
  have encoded : Base64.encode ⟨false, true⟩ "ss://a:b@h:1" = "c3M6Ly9hOmJAaDox" := by
    decide +kernel
  have spaced : Spaced (Base64.encode ⟨false, true⟩ "ss://a:b@h:1").toList
      "c3M6Ly9h\nOmJAaDox".toList := by
    rw [encoded]
    have wrapped : Spaced "OmJAaDox".toList "\nOmJAaDox".toList :=
      .insert (by decide) (Spaced.nil.after "OmJAaDox".toList)
    exact wrapped.after "c3M6Ly9h".toList
  exact base64_bodies_transparent (decodesBase64_ofTables _ _)
    (show "ss://" ∈ supportedSchemes by decide) (by decide) (by decide) spaced

/-! ## Byte order marks -/

/-- A body with a byte order mark before it. -/
def marked (body : String) : String := .ofList (byteOrderMark :: body.toList)

@[simp] theorem toList_marked (body : String) :
    (marked body).toList = byteOrderMark :: body.toList := String.toList_ofList

/-- Nothing is lost when a mark is put before the body: it is JSON, or a list whose first
line is no link that is accepted, or there is no location in what it encodes. -/
def MarkHarmless (lib : Libraries) (body : String) : Prop :=
  opensJson (bodyText body) = true ∨
  if hasScheme body then ∀ line ∈ (lines body).head?, parseLine lib line = none
  else ∀ decoded ∈ decodeAny lib (withoutWhitespace body), ∀ line ∈ lines decoded,
    parseLine lib line = none

theorem bodyText_marked (body : String) : bodyText (marked body) = bodyText body := by
  rw [bodyText, trimStartMatches, toList_marked, List.dropWhile_cons_of_pos (by simp)]
  rfl

theorem withoutWhitespace_marked (body : String) :
    withoutWhitespace (marked body) = marked (withoutWhitespace body) := by
  rw [withoutWhitespace, toList_marked, List.filter_cons_of_pos (by decide), marked,
    withoutWhitespace, String.toList_ofList]

/-- No scheme starts with a mark. -/
theorem not_prefix_mark {scheme : String} (supported : scheme ∈ supportedSchemes)
    (rest : List Char) : ¬scheme.toList <+: byteOrderMark :: rest := by
  have unmarked : ∀ scheme ∈ supportedSchemes,
      scheme.toList ≠ [] ∧ byteOrderMark ∉ scheme.toList := by
    decide
  intro isPrefix
  rcases List.exists_cons_of_ne_nil (unmarked scheme supported).1 with ⟨first, more, parts⟩
  have isMark : first = byteOrderMark := by
    rw [parts, List.cons_prefix_cons] at isPrefix
    exact isPrefix.1
  refine (unmarked scheme supported).2 ?_
  rw [parts, isMark]
  exact .head _

theorem hasScheme_marked (body : String) : hasScheme (marked body) = hasScheme body := by
  rw [Bool.eq_iff_iff, hasScheme, hasScheme, List.any_eq_true, List.any_eq_true,
    withoutWhitespace_marked]
  refine exists_congr fun scheme => and_congr_right fun supported => ?_
  rw [contains, contains, decide_eq_true_eq, decide_eq_true_eq, toList_marked,
    List.infix_cons_iff, or_iff_right (not_prefix_mark supported _)]

/-- A line is a link only if it has a scheme in it. -/
theorem hasScheme_of_parseLine {lib : Libraries} {text line : String} {server : VlessServer}
    (member : line ∈ lines text) (accepted : parseLine lib line = some server) :
    hasScheme text = true := by
  have supported : isSupportedUri (trim line) = true := by
    by_contra refused
    rw [parseLine] at accepted
    simp [refused] at accepted
  rw [isSupportedUri, List.any_eq_true] at supported
  rcases supported with ⟨scheme, isScheme, starts⟩
  rw [startsWith, List.isPrefixOf_iff_prefix] at starts
  exact hasScheme_of_infix isScheme (starts.isInfix.trans
    ((infix_trim _).trans ((infix_trim line).trans (infix_lines member))))

theorem filterMap_parseLine_eq_nil {lib : Libraries} {text : String}
    (encoded : hasScheme text = false) : (lines text).filterMap (parseLine lib) = [] := by
  rw [List.filterMap_eq_nil_iff]
  intro line member
  by_contra accepted
  rcases Option.ne_none_iff_exists'.1 accepted with ⟨server, given⟩
  rw [hasScheme_of_parseLine member given] at encoded
  cases encoded

/-- The mark is no white space, so the line that it stands in does not start with a
scheme. -/
theorem parseLine_marked {lib : Libraries} {line : String} {rest : List Char}
    (parts : line.toList = byteOrderMark :: rest) : parseLine lib line = none := by
  rcases trim_toList_cons parts (by decide) with ⟨once, trimmed⟩
  rcases trim_toList_cons trimmed (by decide) with ⟨twice, trimmedAgain⟩
  have refused : isSupportedUri (trim line) = false := by
    rw [isSupportedUri, List.any_eq_false]
    intro scheme supported starts
    rw [startsWith, List.isPrefixOf_iff_prefix, trimmedAgain] at starts
    exact not_prefix_mark supported _ starts
  rw [parseLine]
  simp [refused]

section Marked

variable {lib : Libraries} (decodes : lib.DecodesBase64) {body : String}

/-- A mark costs a plain list its first line. -/
theorem parse_marked_plain (plain : hasScheme body = true) :
    (lines (decodeBody lib (marked body))).filterMap (parseLine lib) =
      (lines body).tail.filterMap (parseLine lib) := by
  rcases lines_cons (toList_marked body) (by decide) (by decide) with ⟨line, rest, split, parts⟩
  rw [decodeBody_of_hasScheme ((hasScheme_marked body).trans plain), split,
    List.filterMap_cons_none (parseLine_marked parts)]

include decodes in
/-- A mark costs an encoded list all of its lines. -/
theorem parse_marked_encoded (encoded : hasScheme body = false) :
    (lines (decodeBody lib (marked body))).filterMap (parseLine lib) = [] := by
  have markedEncoded := (hasScheme_marked body).trans encoded
  have undecoded : decodeAny lib (withoutWhitespace (marked body)) = none := by
    rw [withoutWhitespace_marked]
    have listed : byteOrderMark ∈ (marked (withoutWhitespace body)).toList := by simp
    exact decodeAny_eq_none decodes listed (by decide) (by decide)
  rw [decodeBody_of_not_hasScheme markedEncoded, undecoded, Option.getD_none,
    filterMap_parseLine_eq_nil markedEncoded]

end Marked

theorem filterMap_tail_eq_iff {Row Result : Type} (read : Row → Option Result)
    (rows : List Row) :
    rows.tail.filterMap read = rows.filterMap read ↔ ∀ row ∈ rows.head?, read row = none := by
  cases rows with
  | nil => simp
  | cons row rest =>
      cases accepted : read row with
      | none => simp [accepted]
      | some result => simp [accepted]

/-- A body gives the same locations with a mark before it exactly when the mark is
harmless. -/
theorem mark_keeps_locations_iff {lib : Libraries} (decodes : lib.DecodesBase64)
    (body : String) :
    parseSubscription lib (marked body) = parseSubscription lib body ↔
      MarkHarmless lib body := by
  cases json : opensJson (bodyText body) with
  | true =>
      have same : parseSubscription lib (marked body) = parseSubscription lib body := by
        rw [parseSubscription_eq, parseSubscription_eq, bodyText_marked, if_pos json, if_pos json]
      exact ⟨fun _ => .inl json, fun _ => same⟩
  | false =>
      have markedJson : opensJson (bodyText (marked body)) = false := by
        rw [bodyText_marked, json]
      rw [parseSubscription_list markedJson, parseSubscription_list json, MarkHarmless,
        or_iff_right (by simp [json])]
      cases scheme : hasScheme body with
      | true =>
          rw [parse_marked_plain scheme, decodeBody_of_hasScheme scheme, filterMap_tail_eq_iff]
          simp
      | false =>
          rw [parse_marked_encoded decodes scheme, decodeBody_of_not_hasScheme scheme]
          cases decodeAny lib (withoutWhitespace body) with
          | none => simp [filterMap_parseLine_eq_nil scheme]
          | some decoded =>
              rw [Option.getD_some, eq_comm, List.filterMap_eq_nil_iff]
              simp

/-- A list whose first line is a comment loses nothing. -/
theorem commented_list_keeps_locations :
    let lib : Libraries := .ofTables (.ofPlain []) []
    parseSubscription lib (marked "#A\nss://a:b@h:1") =
      parseSubscription lib "#A\nss://a:b@h:1" := by
  intro lib
  rw [mark_keeps_locations_iff (decodesBase64_ofTables _ _), MarkHarmless, if_pos (by decide)]
  right
  intro line first
  have comment : (lines "#A\nss://a:b@h:1").head? = some "#A" := by decide
  rw [comment, Option.mem_some_iff] at first
  rw [← first]
  rfl

theorem marked_list_loses_location :
    let lib : Libraries := .ofTables (.ofPlain []) []
    parseSubscription lib (marked "ss://a:b@h:1") ≠ parseSubscription lib "ss://a:b@h:1" := by
  intro lib same
  have one : (parseSubscription lib "ss://a:b@h:1").length = 1 := by decide +kernel
  have none : (parseSubscription lib (marked "ss://a:b@h:1")).length = 0 := by decide +kernel
  rw [same, one] at none
  cases none

end Varmlen.Core
