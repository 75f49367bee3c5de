import Varmlen.Foundation.Replacement
import Varmlen.Core.ShareLink
import Varmlen.Cli.Command

/-!
# Descriptions of failed updates

The URL of a subscription carries the account's token, so it is taken out of an error before
the error is kept.  What is taken out is the URL as the user typed it; what errors quote is
the URL as it is written out after parsing.
-/

namespace Varmlen.Cli

open Foundation.Text Varmlen.Core

/-! ## What is to be hidden -/

/-- A text that a subscription is fetched from over HTTP. -/
structure FetchedUrl (urls : UrlParser) (address : String) (url : Url) : Prop where
  nonempty : trim address ≠ ""
  noJson : startsWith (trim address) "\x7b" = false ∧ startsWith (trim address) "[" = false
  noLink : isSupportedUri (trim address) = false
  parsed : urls.parse (trim address) = some url
  scheme : url.scheme = "http" ∨ url.scheme = "https"

/-- Web addresses are written out in visible characters and without angle brackets; others
are escaped. -/
def EscapesUrls (urls : UrlParser) : Prop :=
  ∀ raw url, urls.parse raw = some url → url.scheme = "http" ∨ url.scheme = "https" →
    ∀ char ∈ url.text.toList, isWhitespace char = false ∧ char ≠ '<' ∧ char ≠ '>'

/-- The path and the query of a web address, from the first slash after the host to the
fragment. -/
def pathAndQuery (url : Url) : String :=
  .ofList (((url.text.toList.drop (url.scheme.length + 3)).dropWhile (· != '/')).takeWhile
    (· != '#'))

/-- The description shows neither the URL nor its path and query, unless these say nothing. -/
def HidesUrl (url : Url) (described : String) : Prop :=
  contains described url.text = false ∧
    (pathAndQuery url ≠ "" → pathAndQuery url ≠ "/" →
      contains described (pathAndQuery url) = false)

/-- Whatever a description can show of a secret has the address in it.  A secret of up to
`limit` characters can be shown whole; the mark of a cut, three dots, can complete one that
ends in dots. -/
def Covered (address : String) (limit : Nat) (secret : String) : Prop :=
  ∀ kept dots, secret.toList = kept ++ List.replicate dots '.' → dots ≤ 3 →
    kept.length ≤ (if dots = 0 then limit else 177) → address.toList <:+: kept

/-- What is in a URL, but not in the texts that are put into descriptions. -/
structure Secret (part : List Char) : Prop where
  plain : ∀ char ∈ part, isWhitespace char = false ∧ char ≠ '<' ∧ char ≠ '>'
  marked : ':' ∈ part ∨ '/' ∈ part

namespace Secret

variable {part : List Char}

/-- A text without colons and slashes has no secret in it. -/
theorem not_infix (secret : Secret part) {text : List Char} (unmarked : ':' ∉ text ∧ '/' ∉ text) :
    ¬part <:+: text := by
  intro found
  rcases secret.marked with colon | slash
  · exact unmarked.1 (found.subset colon)
  · exact unmarked.2 (found.subset slash)

theorem dropDots {kept : List Char} {dots : Nat}
    (secret : Secret (kept ++ List.replicate dots '.')) : Secret kept where
  plain char member := secret.plain char (List.mem_append_left _ member)
  marked := by
    have inside {mark : Char} (noDot : mark ≠ '.')
        (member : mark ∈ kept ++ List.replicate dots '.') : mark ∈ kept :=
      (List.mem_append.1 member).resolve_right fun dot => noDot (List.eq_of_mem_replicate dot)
    exact secret.marked.imp (inside (by decide)) (inside (by decide))

theorem countP_eq (secret : Secret part) : part.countP (!isWhitespace ·) = part.length := by
  rw [List.countP_eq_length]
  intro char member
  rw [(secret.plain char member).1, Bool.not_false]

end Secret

/-! ## What a description shows -/

section Shown

variable {error address : String} {part : List Char}

/-- An error without the address, before it is shortened. -/
def redacted (error address : String) : String :=
  trim (replace error address "<subscription>")

theorem replace_toList (nonempty : address ≠ "") (text replacement : String) :
    (replace text address replacement).toList =
      replaceFrom address.toList replacement.toList 0 text.toList := by
  rw [replace]
  split
  next empty => exact absurd (String.toList_eq_nil_iff.1 empty) nonempty
  next => rw [String.toList_ofList]

/-- A secret that is still in the error has no address in it.  It is then the error itself, or
the mark of what was taken out is in it as well. -/
theorem seen_redacted (nonempty : address ≠ "") (secret : Secret part)
    (seen : part <:+: (redacted error address).toList) :
    ¬address.toList <:+: part ∧
      (redacted error address = trim error ∨
        part.length + 14 ≤ (redacted error address).toList.length) := by
  have pattern : address.toList ≠ [] := by simpa using nonempty
  rcases exists_cuts pattern "<subscription>".toList error.toList with ⟨pieces, cuts, replaced⟩
  rw [← replace_toList nonempty] at replaced
  have found : part <:+: ("<subscription>".toList).intercalate pieces :=
    replaced ▸ seen.trans (infix_trim _)
  have outside : ¬part <:+: "subscription".toList := secret.not_infix (by decide)
  rcases exists_piece (fun opening => (secret.plain _ opening).2.1 rfl)
    (fun closing => (secret.plain _ closing).2.2 rfl) outside cuts.nonempty found with
    ⟨piece, member, inPiece⟩
  refine ⟨fun inside => cuts.free piece member (inside.trans inPiece), ?_⟩
  match pieces with
  | [] => exact .inl (absurd rfl cuts.nonempty)
  | [whole] =>
      have same : replace error address "<subscription>" = error := by
        rw [← String.toList_inj, replaced, ← cuts.joined, List.intercalate_singleton,
          List.intercalate_singleton]
      exact .inl (by rw [redacted, same])
  | first :: second :: others =>
      have room : piece.countP (!isWhitespace ·) +
          "<subscription>".toList.countP (!isWhitespace ·) ≤ _ :=
        countP_le_intercalate (!isWhitespace ·) member
      have visible : part.length ≤ piece.countP (!isWhitespace ·) := by
        rw [← secret.countP_eq]
        exact inPiece.sublist.countP_le
      have shown := (redacted error address).toList.countP_le_length (p := (!isWhitespace ·))
      have mark : "<subscription>".toList.countP (!isWhitespace ·) = 14 := by decide
      rw [redacted, countP_trim, replaced] at shown
      exact .inr (by rw [redacted]; omega)

theorem describeError_eq (error address : String) :
    describeError error address =
      if redacted error address = "" then "unknown error"
      else if 180 < (redacted error address).length then
        String.ofList ((redacted error address).toList.take 177) ++ "..."
      else redacted error address := by
  rw [describeError, ← redacted]
  by_cases empty : redacted error address = ""
  · rw [if_pos empty, if_pos empty]
    decide
  · rw [if_neg empty, if_neg empty]

/-- What a description shows of a secret stood in the error, or was cut off at its dots. -/
theorem seen_described (nonempty : address ≠ "") (secret : Secret part)
    (seen : part <:+: (describeError error address).toList) :
    (part <:+: (redacted error address).toList ∧
        (redacted error address).toList.length ≤ 180) ∨
      ∃ kept dots, part = kept ++ List.replicate dots '.' ∧ dots ≤ 3 ∧ kept.length ≤ 177 ∧
        ¬address.toList <:+: kept := by
  rw [describeError_eq] at seen
  split at seen
  next => exact absurd seen (secret.not_infix (by decide))
  next =>
    split at seen
    next =>
      rw [String.toList_append, String.toList_ofList] at seen
      have short := List.length_take_le 177 (redacted error address).toList
      have kept {kept : List Char} (secret : Secret kept)
          (found : kept <:+: (redacted error address).toList.take 177) :
          kept.length ≤ 177 ∧ ¬address.toList <:+: kept :=
        ⟨found.length_le.trans short, (seen_redacted nonempty secret
          (found.trans (List.take_prefix _ _).isInfix)).1⟩
      right
      rcases List.infix_append_iff.1 seen with before | after | ⟨front, back, rfl, ends, starts⟩
      · exact ⟨part, 0, by simp, by decide, kept secret before⟩
      · exact absurd after (secret.not_infix (by decide))
      · have dots : back = List.replicate back.length '.' ∧ back.length ≤ 3 := by
          have run : back <+: List.replicate 3 '.' := starts
          rw [List.prefix_replicate_iff] at run
          exact ⟨run.2, run.1⟩
        rw [dots.1] at secret ⊢
        refine ⟨front, back.length, rfl, dots.2, kept secret.dropDots ends.isInfix⟩
    next whole =>
      exact .inl ⟨seen, by rw [String.length_toList]; omega⟩

theorem redacted_toList (nonempty : address ≠ "")
    (solid : ∀ char ∈ error.toList, isWhitespace char = false) :
    (redacted error address).toList =
      replaceFrom address.toList "<subscription>".toList 0 error.toList := by
  have kept : ∀ char ∈ (replace error address "<subscription>").toList,
      isWhitespace char = false := by
    have mark : ∀ char ∈ "<subscription>".toList, isWhitespace char = false :=
      forall_mem_of_all (by decide)
    intro char member
    rw [replace_toList nonempty] at member
    exact (mem_replaceFrom _ member).elim (mark char) (solid char)
  rw [redacted, trim_eq_self kept, replace_toList nonempty]

/-- A short error that is a secret is shown as it is. -/
theorem describeError_eq_self (nonempty : address ≠ "") (secret : Secret error.toList)
    (free : ¬address.toList <:+: error.toList) (short : error.toList.length ≤ 180) :
    describeError error address = error := by
  have kept : redacted error address = error := by
    rw [← String.toList_inj,
      redacted_toList nonempty fun char member => (secret.plain char member).1,
      replaceFrom_eq_self _ free]
  have given : error ≠ "" := by
    rintro rfl
    exact secret.not_infix (by decide) (List.infix_refl [])
  rw [String.length_toList] at short
  rw [describeError_eq, kept, if_neg given, if_neg (by omega)]

/-- A character that a text neither starts nor ends with. -/
theorem exists_apart (chars : List Char) :
    ∃ stop, isWhitespace stop = false ∧ chars.head? ≠ some stop ∧ chars.getLast? ≠ some stop := by
  generalize chars.head? = first
  generalize chars.getLast? = last
  by_cases firstA : first = some 'a'
  · by_cases lastB : last = some 'b'
    · exact ⟨'c', by decide, by simp [firstA], by simp [lastB]⟩
    · exact ⟨'b', by decide, by simp [firstA], lastB⟩
  · by_cases lastA : last = some 'a'
    · by_cases firstB : first = some 'b'
      · exact ⟨'c', by decide, by simp [firstB], by simp [lastA]⟩
      · exact ⟨'b', by decide, firstB, by simp [lastA]⟩
    · exact ⟨'a', by decide, firstA, lastA⟩

/-- A part of an error without the address can be shown right before the mark of a cut, in an
error that quotes any text. -/
theorem exists_error (nonempty : address ≠ "") {kept quoted : List Char} (secret : Secret kept)
    (quotedSecret : Secret quoted) (short : kept.length ≤ 177) (free : ¬address.toList <:+: kept) :
    ∃ error : String, quoted <:+: error.toList ∧
      kept ++ "...".toList <:+: (describeError error address).toList := by
  have pattern : address.toList ≠ [] := by simpa using nonempty
  rcases exists_apart address.toList with ⟨stop, solid, first, last⟩
  let padding := List.replicate (177 - kept.length) stop
  let tail := List.replicate (address.toList.length + 4) stop
  let error := String.ofList (padding ++ (kept ++ (tail ++ quoted)))
  let rest := replaceFrom address.toList "<subscription>".toList 0 quoted
  have written : error.toList = padding ++ (kept ++ (tail ++ quoted)) := String.toList_ofList
  have visible : ∀ char ∈ error.toList, isWhitespace char = false := by
    intro char member
    rw [written, List.mem_append, List.mem_append, List.mem_append] at member
    rcases member with run | inside | run | inside
    · rwa [List.eq_of_mem_replicate run]
    · exact (secret.plain char inside).1
    · rwa [List.eq_of_mem_replicate run]
    · exact (quotedSecret.plain char inside).1
  have text : (redacted error address).toList = padding ++ kept ++ (tail ++ rest) := by
    rw [redacted_toList nonempty visible, written, replaceFrom_replicate _ first pattern,
      replaceFrom_append_replicate _ free last (Nat.le_add_right _ _),
      replaceFrom_replicate _ first pattern, List.append_assoc]
  have front : (padding ++ kept).length = 177 := by
    rw [List.length_append, List.length_replicate]
    omega
  have long : 180 < (redacted error address).length := by
    rw [← String.length_toList, text, List.length_append, front, List.length_append,
      List.length_replicate]
    omega
  have given : redacted error address ≠ "" := by
    intro empty
    rw [empty] at long
    exact absurd long (by decide)
  refine ⟨error, ?_, ?_⟩
  · rw [written, ← List.append_assoc, ← List.append_assoc]
    exact (List.suffix_append _ quoted).isInfix
  · have shown : (String.ofList (padding ++ kept)).toList = padding ++ kept :=
      String.toList_ofList
    rw [describeError_eq, if_neg given, if_pos long, text, String.toList_append,
      List.take_left' front, shown, List.append_assoc]
    exact (List.suffix_append _ _).isInfix

end Shown

/-! ## When nothing is shown -/

section Hidden

variable {address quoted secret : String}

/-- A secret is hidden in every error that quotes a text exactly when it is covered, up to the
length that it can have in an error that is not cut. -/
theorem hidden_iff {limit : Nat} (large : 177 ≤ limit) (nonempty : address ≠ "")
    (isSecret : Secret secret.toList) (quotedSecret : Secret quoted.toList)
    (uncut : ∀ error, quoted.toList <:+: error.toList →
      secret.toList <:+: (redacted error address).toList →
      (redacted error address).toList.length ≤ 180 → secret.toList.length ≤ limit)
    (reached : ¬address.toList <:+: secret.toList → 177 < secret.toList.length →
      secret.toList.length ≤ limit → ∃ error, quoted.toList <:+: error.toList ∧
        secret.toList <:+: (describeError error address).toList) :
    (∀ error, quoted.toList <:+: error.toList →
      ¬secret.toList <:+: (describeError error address).toList) ↔
        Covered address limit secret := by
  constructor
  · intro hidden kept dots parts few short
    by_contra free
    by_cases cut : kept.length ≤ 177
    · rcases exists_error nonempty (parts ▸ isSecret).dropDots quotedSecret cut free with
        ⟨error, quotes, shown⟩
      refine hidden error quotes (List.IsInfix.trans ?_ shown)
      have within : List.replicate dots '.' <+: List.replicate 3 '.' :=
        List.prefix_replicate_iff.2 ⟨by simpa using few, by simp⟩
      rw [parts]
      exact ((List.prefix_append_right_inj kept).2 within).isInfix
    · have uncutDots : dots = 0 := by
        by_contra some
        rw [if_neg some] at short
        exact cut short
      rw [uncutDots, List.replicate_zero, List.append_nil] at parts
      rw [if_pos uncutDots] at short
      rw [← parts] at free cut short
      rcases reached free (Nat.lt_of_not_le cut) short with ⟨error, quotes, shown⟩
      exact hidden error quotes shown
  · intro covered error quotes seen
    rcases seen_described nonempty isSecret seen with ⟨whole, short⟩ | cut
    · refine (seen_redacted nonempty isSecret whole).1 ?_
      exact covered _ 0 (by simp) (by decide) (uncut error quotes whole short)
    · rcases cut with ⟨kept, dots, parts, few, short, free⟩
      refine free (covered kept dots parts few ?_)
      split
      next => exact short.trans large
      next => exact short

theorem hidden_whole_iff (nonempty : address ≠ "") (isSecret : Secret secret.toList) :
    (∀ error, secret.toList <:+: error.toList →
      ¬secret.toList <:+: (describeError error address).toList) ↔
        Covered address 180 secret := by
  apply hidden_iff (by decide) nonempty isSecret isSecret
  · intro error _ seen short
    exact seen.length_le.trans short
  · intro free _ short
    refine ⟨secret, List.infix_refl _, ?_⟩
    rw [describeError_eq_self nonempty isSecret free short]

/-- Next to a longer text that is quoted, a secret does not have the last characters of an
error. -/
theorem hidden_part_iff (nonempty : address ≠ "") (isSecret : Secret secret.toList)
    (quotedSecret : Secret quoted.toList)
    (longer : secret.toList.length + 4 ≤ quoted.toList.length) :
    (∀ error, quoted.toList <:+: error.toList →
      ¬secret.toList <:+: (describeError error address).toList) ↔
        Covered address 177 secret := by
  apply hidden_iff (by decide) nonempty isSecret quotedSecret
  · intro error quotes seen short
    rcases (seen_redacted nonempty isSecret seen).2 with same | room
    · rw [same] at short
      have kept : quoted.toList.length ≤ (trim error).toList.length := by
        calc
          quoted.toList.length = quoted.toList.countP (!isWhitespace ·) :=
            quotedSecret.countP_eq.symm
          _ ≤ error.toList.countP (!isWhitespace ·) := quotes.sublist.countP_le
          _ = (trim error).toList.countP (!isWhitespace ·) := (countP_trim error).symm
          _ ≤ (trim error).toList.length := List.countP_le_length
      omega
    · omega
  · intro _ long short
    omega

end Hidden

/-! ## The parts of a URL -/

section Urls

variable {urls : UrlParser} {address : String} {url : Url}

theorem FetchedUrl.address_ne (fetched : FetchedUrl urls address url) : address ≠ "" := by
  rintro rfl
  exact fetched.nonempty (by decide)

theorem FetchedUrl.secret (fetched : FetchedUrl urls address url) (escapes : EscapesUrls urls) :
    Secret url.text.toList where
  plain := escapes _ _ fetched.parsed fetched.scheme
  marked := by
    rcases urls.startsWithScheme fetched.parsed with ⟨rest, text⟩
    exact .inl (by rw [text]; simp)

theorem infix_pathAndQuery :
    (pathAndQuery url).toList <:+: url.text.toList.drop (url.scheme.length + 3) := by
  rw [pathAndQuery, String.toList_ofList]
  exact (List.takeWhile_prefix _).isInfix.trans (List.dropWhile_suffix _).isInfix

/-- A path starts with a slash. -/
theorem slash_mem_pathAndQuery (nonempty : pathAndQuery url ≠ "") :
    '/' ∈ (pathAndQuery url).toList := by
  rw [pathAndQuery] at nonempty ⊢
  rw [String.toList_ofList]
  generalize url.text.toList.drop (url.scheme.length + 3) = rest at nonempty ⊢
  have head := List.head?_dropWhile_not (· != '/') rest
  cases path : rest.dropWhile (· != '/') with
  | nil =>
      rw [path] at nonempty
      exact absurd rfl nonempty
  | cons first others =>
      rw [path] at head
      have slash : first = '/' := by simpa using head
      rw [slash, List.takeWhile_cons_of_pos (by decide)]
      exact List.mem_cons_self

theorem FetchedUrl.secret_path (fetched : FetchedUrl urls address url)
    (escapes : EscapesUrls urls) (nonempty : pathAndQuery url ≠ "") :
    Secret (pathAndQuery url).toList where
  plain char member :=
    (fetched.secret escapes).plain char
      (List.mem_of_mem_drop (infix_pathAndQuery.subset member))
  marked := .inr (slash_mem_pathAndQuery nonempty)

theorem FetchedUrl.longer (fetched : FetchedUrl urls address url)
    (nonempty : pathAndQuery url ≠ "") :
    (pathAndQuery url).toList.length + 4 ≤ url.text.toList.length := by
  have within : (pathAndQuery url).toList.length ≤ _ := infix_pathAndQuery.length_le
  have given : 0 < (pathAndQuery url).toList.length :=
    List.length_pos_of_mem (slash_mem_pathAndQuery nonempty)
  rw [List.length_drop] at within
  have scheme : 4 ≤ url.scheme.length := by
    rcases fetched.scheme with http | https
    · rw [http]
      decide
    · rw [https]
      decide
  omega

end Urls

/-- The URL and its path stay out of every error that quotes the URL exactly when both have the
address in them that the user typed, as far as a description can show them. -/
theorem described_hides_iff {urls : UrlParser} {address : String} {url : Url}
    (escapes : EscapesUrls urls) (fetched : FetchedUrl urls address url) :
    (∀ error, contains error url.text = true → HidesUrl url (describeError error address)) ↔
      Covered address 180 url.text ∧
        (pathAndQuery url ≠ "" → pathAndQuery url ≠ "/" →
          Covered address 177 (pathAndQuery url)) := by
  have nonempty := fetched.address_ne
  have secret := fetched.secret escapes
  simp only [HidesUrl, contains, decide_eq_true_eq, decide_eq_false_iff_not]
  rw [← hidden_whole_iff nonempty secret]
  constructor
  · intro hides
    refine ⟨fun error quotes => (hides error quotes).1, fun given long => ?_⟩
    rw [← hidden_part_iff nonempty (fetched.secret_path escapes given) secret
      (fetched.longer given)]
    exact fun error quotes => (hides error quotes).2 given long
  · rintro ⟨hidesText, hidesPath⟩ error quotes
    refine ⟨hidesText error quotes, fun given long => ?_⟩
    have covered := hidesPath given long
    rw [← hidden_part_iff nonempty (fetched.secret_path escapes given) secret
      (fetched.longer given)] at covered
    exact covered error quotes

theorem escapesUrls_ofTable {entries : List (String × Url)}
    {rewritten : ∀ entry ∈ constantEntries ++ entries,
      entry.2.IsRewritten (constantEntries ++ entries)}
    (plain : ∀ entry ∈ constantEntries ++ entries, (entry.2.text.toList.all fun char =>
      isWhitespace char = false ∧ char ≠ '<' ∧ char ≠ '>') = true) :
    EscapesUrls (.ofTable entries rewritten) := by
  intro raw url found _
  exact forall_mem_of_all (plain (raw, url) (mem_of_lookup found))

/-- An address without a path is written out with a slash, and nothing else changes. -/
theorem plain_address_hidden :
    let url := Url.plain "https" "example.com" "/"
    ∀ error, contains error url.text = true →
      HidesUrl url (describeError error "https://example.com") := by
  intro url
  let urls : UrlParser := .ofTable [("https://example.com", url), (url.text, url)] (by decide)
  have escapes : EscapesUrls urls := escapesUrls_ofTable (by decide)
  have fetched : FetchedUrl urls "https://example.com" url :=
    ⟨by decide, by decide, by decide, by decide, by decide⟩
  refine (described_hides_iff escapes fetched).2 ⟨?_, fun _ long => absurd (by decide) long⟩
  intro kept dots parts _ _
  cases dots with
  | zero =>
      rw [List.replicate_zero, List.append_nil] at parts
      rw [← parts]
      decide
  | succ dots =>
      have last := congrArg List.getLast? parts
      rw [List.replicate_succ', ← List.append_assoc, List.getLast?_concat] at last
      exact absurd last (by decide)

def tokenUrl : Url := .plain "https" "example.com" "/sub/TOKEN"

/-- Errors quote the address as it is written out, and the user typed capitals. -/
theorem capitals_token_shown :
    let typed := "HTTPS://Example.com/sub/TOKEN"
    let urls : UrlParser := .ofTable [(typed, tokenUrl), (tokenUrl.text, tokenUrl)] (by decide)
    let error := "request failed: error sending request for url (https://example.com/sub/TOKEN)"
    EscapesUrls urls ∧ FetchedUrl urls typed tokenUrl ∧ contains error tokenUrl.text = true ∧
      contains (describeError error typed) tokenUrl.text = true ∧
      contains (describeError error typed) (pathAndQuery tokenUrl) = true ∧
      ¬HidesUrl tokenUrl (describeError error typed) := by
  intro typed urls error
  have unchanged : describeError error typed = error := by decide +kernel
  have quotes : contains error tokenUrl.text = true := by decide +kernel
  have quotesPath : contains error (pathAndQuery tokenUrl) = true := by decide +kernel
  rw [unchanged]
  refine ⟨escapesUrls_ofTable (by decide),
    ⟨by decide, by decide, by decide, by decide, by decide⟩, quotes, quotes, quotesPath, ?_⟩
  intro hides
  exact absurd (hides.1.symm.trans quotes) (by decide)

end Varmlen.Cli
