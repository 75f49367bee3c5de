import Varmlen.Foundation.UrlText
import Varmlen.Core.Import

/-!
# Reading URLs

What is relied on of the `url` crate's parser: of schemes that are of no special kind it reads
texts as the URL standard says.  The parts of a URL are cut out of it as it is written out.
-/

namespace Varmlen.Core

open Foundation.Text Foundation.UrlText

/-! ## Parts of a URL -/

/-- What a URL has after its scheme. -/
def afterScheme (url : Url) : List Char := url.text.toList.drop (url.scheme.length + 3)

def urlPath (url : Url) : String :=
  .ofList (((afterScheme url).dropWhile fun char => !authorityEnds.contains char).takeWhile
    fun char => char != '?' && char != '#')

def urlQuery (url : Url) : String :=
  .ofList ((((afterScheme url).takeWhile (· != '#')).dropWhile (· != '?')).drop 1)

/-! ## The parser -/

/-- The URLs that a text is read as: where it is listed, and where it is fetched. -/
def readings (urls : UrlParser) (raw : String) : List Url :=
  [urls.parse raw, urls.parse (trim raw)].reduceOption

/-- The text is read as the URL standard says, as far as it has a scheme of no special kind. -/
structure ReadsAsStandard (urls : UrlParser) (raw : String) : Prop where
  /-- A URL starts with a letter. -/
  noScheme : ∀ first, (input raw).head? = some first → first.isAlpha = false →
    urls.parse raw = none
  /-- Without user info and port, all of the authority is the host. -/
  host : ∀ scheme, isOpaqueScheme scheme = true → (scheme ++ "://").toList <+: input raw →
    (∀ char ∈ authority raw, char ∉ ['@', ':', '[']) →
      (urls.parse raw).map (fun url => (url.scheme, url.host)) =
        (opaqueHost (authority raw)).map fun host =>
          (scheme, if host = "" then none else some host)
  /-- A URL is written in ASCII. -/
  ascii : ∀ url ∈ readings urls raw, ∀ text ∈ [url.text, url.username, url.password.getD ""],
    ∀ char ∈ text.toList, char.toNat < 0x80

section Standard

variable {urls : UrlParser} {raw : String}

/-- A text with something before its link that a URL parser keeps is no URL. -/
theorem parse_of_closed (standard : ReadsAsStandard urls raw) {char : Char}
    (member : char ∈ raw.toList.takeWhile isWhitespace) (solid : isC0OrSpace char = false) :
    urls.parse raw = none := by
  rcases trim_parts raw with ⟨closing, _, parts⟩
  rcases input_head parts member solid with ⟨first, inOpening, firstSolid, isFirst⟩
  have white := List.all_eq_true.1 List.all_takeWhile first inOpening
  apply standard.noScheme first isFirst
  have high : 0x85 ≤ first.toNat := by
    rw [isC0OrSpace, decide_eq_false_iff_not] at firstSolid
    simp [isWhitespace] at white
    omega
  rw [Bool.eq_false_iff]
  intro letter
  have low : first.toNat ≤ 0x7a := by
    rcases (Bool.or_eq_true _ _).mp letter with upper | lower
    · have range : first.val ≥ 'A'.val ∧ first.val ≤ 'Z'.val := of_decide_eq_true upper
      exact Nat.le_trans (UInt32.le_iff_toNat_le.1 range.2) (by decide)
    · have below : first.val ≤ 'z'.val :=
        of_decide_eq_true ((Bool.and_eq_true _ _).mp lower).2
      exact UInt32.le_iff_toNat_le.1 below
  omega

/-- JSON is no URL. -/
theorem parse_of_json (standard : ReadsAsStandard urls raw)
    (json : opensJson (trim raw) = true) : urls.parse raw = none := by
  have opened : ∃ first rest, (trim raw).toList = first :: rest ∧
      (first = '\x7b' ∨ first = '[') := by
    rw [opensJson, Bool.or_eq_true] at json
    rcases json with object | array
    · rcases List.isPrefixOf_iff_prefix.1 object with ⟨rest, parts⟩
      exact ⟨'\x7b', rest, parts.symm, .inl rfl⟩
    · rcases List.isPrefixOf_iff_prefix.1 array with ⟨rest, parts⟩
      exact ⟨'[', rest, parts.symm, .inr rfl⟩
  rcases opened with ⟨first, rest, parts, isBracket⟩
  have bracket : isC0OrSpace first = false ∧ first.isAlpha = false := by
    rcases isBracket with rfl | rfl
    · decide
    · decide
  by_cases opens : ∀ char ∈ raw.toList.takeWhile isWhitespace, isC0OrSpace char = true
  · rcases trim_parts raw with ⟨closing, _, whole⟩
    rw [parts, List.cons_append] at whole
    apply standard.noScheme first _ bracket.2
    rw [input_of_solid whole opens bracket.1, List.head?_cons]
  · simp only [not_forall] at opens
    rcases opens with ⟨char, member, solid⟩
    exact parse_of_closed standard member (by simpa using solid)

theorem scheme_eq {raw scheme : String} (isOpaque : isOpaqueScheme scheme = true)
    (opened : (scheme ++ "://").toList <+: input raw) :
    scheme.toList = (input raw).takeWhile (· != ':') := by
  have noColon : ':' ∉ scheme.toList := by
    rw [isOpaqueScheme, Bool.and_eq_true] at isOpaque
    intro colon
    exact absurd (List.all_eq_true.1 isOpaque.2 ':' colon) (by decide)
  rcases opened with ⟨rest, parts⟩
  rw [← parts, String.toList_append, List.append_assoc]
  exact (takeWhile_ne_append noColon _).symm

/-- What a concrete text has to do to be read as the standard says. -/
theorem readsAsStandard_of {urls : UrlParser} {raw : String} (scheme : String)
    (letter : (input raw).head?.any Char.isAlpha = true)
    (named : (input raw).takeWhile (· != ':') = scheme.toList)
    (host : isOpaqueScheme scheme = true →
      (urls.parse raw).map (fun url => (url.scheme, url.host)) =
        (opaqueHost (authority raw)).map fun host =>
          (scheme, if host = "" then none else some host))
    (ascii : ((readings urls raw).all fun url =>
      [url.text, url.username, url.password.getD ""].all fun text =>
        text.toList.all (·.toNat < 0x80)) = true) : ReadsAsStandard urls raw where
  noScheme first isFirst noLetter := by
    rw [isFirst, Option.any_some, noLetter] at letter
    cases letter
  host other isOpaque opened _ := by
    have same := scheme_eq isOpaque opened
    rw [named, String.toList_inj] at same
    rw [same] at isOpaque ⊢
    exact host isOpaque
  ascii url read text inside char member := by
    have texts := List.all_eq_true.1 (List.all_eq_true.1 ascii url read) text inside
    exact of_decide_eq_true (List.all_eq_true.1 texts char member)

end Standard

end Varmlen.Core
