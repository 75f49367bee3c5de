import Varmlen.Foundation.Ip
import Varmlen.Foundation.TextParts
import Varmlen.Core.Decoding

/-!
# Shadowsocks links

A Shadowsocks link comes in two layouts: with the credentials encoded and the endpoint in
the open (SIP002), or with all of it encoded.
-/

namespace Varmlen.Core

open Foundation Foundation.Text

/-! ## What a link is made of -/

/-- The characters that enclose the host of a link, or end its part of the link. -/
def hostDelimiters : List Char := ['@', '#', '?', '[', ']']

/-- A host as it stands in a link: a name or an address, in brackets or not. -/
structure LinkHost where
  text : String
  bracketed : Bool
  plain : ∀ char ∈ text.toList, char ∉ hostDelimiters

namespace LinkHost

def written (host : LinkHost) : String :=
  if host.bracketed then "[" ++ host.text ++ "]" else host.text

/-- An address, with brackets around an IPv6 one. -/
def ofIp (address : Ip.IpAddr) : LinkHost where
  text := Ip.toText address
  bracketed :=
    match address with
    | .v4 _ => false
    | .v6 _ => true
  plain := by
    have apart : ∀ char ∈ Ip.addressChars, char ∉ hostDelimiters :=
      forall_mem_of_all (by decide)
    intro char member
    rw [Ip.toText, String.toList_ofList] at member
    exact apart char (Ip.mem_addressChars member)

theorem not_mem_written {host : LinkHost} {char : Char} (delimiter : char ∈ hostDelimiters)
    (noBracket : char ≠ '[' ∧ char ≠ ']') : char ∉ host.written.toList := by
  have outside : char ∉ host.text.toList := fun member => host.plain char member delimiter
  rw [written]
  split
  next => simp [outside, noBracket]
  next => exact outside

theorem trimMatches_written (host : LinkHost) :
    trimMatches ['[', ']'] host.written = host.text := by
  have kept : ∀ char ∈ host.text.toList, char ∉ ['[', ']'] := by
    intro char member bracket
    refine host.plain char member ?_
    revert bracket
    simp only [hostDelimiters, List.mem_cons]
    tauto
  rw [written]
  split
  next => exact trimMatches_eq ['['] [']'] (by simp) (by simp) (by simp) kept
  next => exact trimMatches_eq [] [] (by simp) (by simp) (by simp) kept

end LinkHost

/-- What a Shadowsocks link stands for. -/
structure ShadowsocksEndpoint where
  method : String
  password : String
  host : LinkHost
  port : Nat
  methodPlain : ':' ∉ method.toList
  portSmall : port < 2 ^ 16

/-- A part that may be left out. -/
def optionalPart (mark : String) (part : Option String) : String :=
  part.elim "" (mark ++ ·)

namespace ShadowsocksEndpoint

variable (endpoint : ShadowsocksEndpoint)

def credentials : String := endpoint.method ++ ":" ++ endpoint.password

def hostPort : String := endpoint.host.written ++ ":" ++ toString endpoint.port

/-- Encoded credentials before the endpoint; a slash may follow the port. -/
def sip002Link (variant : Base64.Variant) (slash : Bool) (query label : Option String) :
    String :=
  "ss://" ++ (Base64.encode variant endpoint.credentials ++ "@" ++
    (endpoint.hostPort ++ if slash then "/" else "")) ++
      (optionalPart "?" query ++ optionalPart "#" label)

/-- All of it encoded. -/
def legacyLink (variant : Base64.Variant) (label : Option String) : String :=
  "ss://" ++ Base64.encode variant (endpoint.credentials ++ "@" ++ endpoint.hostPort) ++
    optionalPart "#" label

/-- The link is accepted as the endpoint that it stands for. -/
def ParsedFrom (lib : Libraries) (link : String) : Prop :=
  ∃ server, parseShadowsocks lib link = .ok server ∧
    server.method = some endpoint.method ∧ server.password = some endpoint.password ∧
    server.host = endpoint.host.text ∧ server.port = endpoint.port

end ShadowsocksEndpoint

/-! ## Up to the query and the label -/

/-- A link without its label, and the label. -/
def splitLabel (link : String) : String × Option String :=
  match splitOnce '#' link with
  | some (main, fragment) => (main, some fragment)
  | none => (link, none)

/-- The location with the given label, credentials and endpoint. -/
def shadowsocksServer (lib : Libraries) (fragment : Option String)
    (credentials hostPort : String) : Except ParseError VlessServer :=
  match splitOnce ':' credentials with
  | none => .error .missingCredentials
  | some (method, password) =>
      match rsplitOnce ':' hostPort with
      | none => .error .missingPort
      | some (host, port) => do
          let port ← shadowsocksPort port
          let host := trimMatches ['[', ']'] host
          .ok { VlessServer.base "shadowsocks" host port (labelFrom lib fragment host port) with
            method := some method
            password := some password }

theorem parseShadowsocks_eq (lib : Libraries) (uri : String) :
    parseShadowsocks lib uri =
      (shadowsocksParts lib
        (before (splitLabel ((afterPrefix (trim uri) "ss://").getD "")).1 "?")).bind fun parts =>
          shadowsocksServer lib (splitLabel ((afterPrefix (trim uri) "ss://").getD "")).2
            parts.1 parts.2 := by
  rw [parseShadowsocks, splitLabel]
  generalize (afterPrefix (trim uri) "ss://").getD "" = link
  cases splitOnce '#' link with
  | none =>
      dsimp only
      cases shadowsocksParts lib (before link "?") with
      | error error => rfl
      | ok parts => rfl
  | some split =>
      dsimp only
      cases shadowsocksParts lib (before split.1 "?") with
      | error error => rfl
      | ok parts => rfl

theorem splitLabel_toList (link : String) :
    (splitLabel link).1.toList = link.toList.takeWhile (· != '#') := by
  by_cases labelled : link.toList.contains '#' = true
  · rw [splitLabel, splitOnce, if_pos labelled]
    exact String.toList_ofList
  · rw [splitLabel, splitOnce, if_neg labelled]
    exact (takeWhile_ne_eq_self (by simpa using labelled)).symm

section Tail

/-- The rest of a link after its main part: nothing, or a query or a label. -/
def IsTail (tail : List Char) : Prop :=
  tail = [] ∨ ∃ mark rest, (mark = '?' ∨ mark = '#') ∧ tail = mark :: rest

theorem isTail_label (label : Option String) : IsTail (optionalPart "#" label).toList := by
  cases label with
  | none => exact .inl rfl
  | some label => exact .inr ⟨'#', label.toList, .inr rfl, by simp [optionalPart]⟩

theorem isTail_query (query label : Option String) :
    IsTail (optionalPart "?" query ++ optionalPart "#" label).toList := by
  cases query with
  | none =>
      rw [String.toList_append]
      exact isTail_label label
  | some query => exact .inr ⟨'?', _, .inl rfl, by simp [optionalPart]; rfl⟩

/-- Trimming leaves the main part of a link as it is. -/
theorem trim_link {main tail : String} {front : List Char} {last : Char}
    (ends : main.toList = front ++ [last]) (lastKept : isWhitespace last = false)
    (isTail : IsTail tail.toList) :
    ∃ rest, IsTail rest.toList ∧
      trim ("ss://" ++ main ++ tail) = "ss://" ++ (main ++ rest) := by
  have firstKept : isWhitespace 's' = false := by decide
  rcases isTail with empty | ⟨mark, more, isMark, opened⟩
  · have parts : ("ss://" ++ main ++ tail).toList =
        's' :: ("s://".toList ++ front) ++ last :: [] := by
      simp [ends, empty]
    refine ⟨"", .inl rfl, ?_⟩
    rw [← String.toList_inj, trim_toList_append parts firstKept lastKept]
    simp [ends, trimEnd]
  · have parts : ("ss://" ++ main ++ tail).toList =
        's' :: ("s://".toList ++ main.toList) ++ mark :: more := by
      simp [opened]
    have markKept : isWhitespace mark = false := by
      rcases isMark with rfl | rfl
      · decide
      · decide
    refine ⟨String.singleton mark ++ trimEnd (.ofList more), ?_, ?_⟩
    · exact .inr ⟨mark, _, isMark, by simp; rfl⟩
    · rw [← String.toList_inj, trim_toList_append parts firstKept markKept]
      simp

/-- The main part of a link is what stands before its label and its query. -/
theorem takeWhile_tail {main tail : List Char} (noLabel : '#' ∉ main) (noQuery : '?' ∉ main)
    (isTail : IsTail tail) :
    ((main ++ tail).takeWhile (· != '#')).takeWhile (· != '?') = main := by
  rcases isTail with rfl | ⟨mark, more, rfl | rfl, rfl⟩
  · rw [List.append_nil, takeWhile_ne_eq_self noLabel, takeWhile_ne_eq_self noQuery]
  · rw [List.takeWhile_append_of_pos (passes_of_free noLabel),
      List.takeWhile_cons_of_pos (by decide), takeWhile_ne_append noQuery]
  · rw [takeWhile_ne_append noLabel, takeWhile_ne_eq_self noQuery]

end Tail

/-! ## The layouts -/

variable {lib : Libraries} {endpoint : ShadowsocksEndpoint}

/-- Once its main part is known to give the credentials and the endpoint, only the port can
be refused. -/
theorem parsedFrom_iff {main tail portText : String} {front : List Char} {last : Char}
    (ends : main.toList = front ++ [last]) (lastKept : isWhitespace last = false)
    (isTail : IsTail tail.toList) (noLabel : '#' ∉ main.toList) (noQuery : '?' ∉ main.toList)
    (parts : shadowsocksParts lib main =
      .ok (endpoint.credentials, endpoint.host.written ++ ":" ++ portText))
    (noColon : ':' ∉ portText.toList) :
    endpoint.ParsedFrom lib ("ss://" ++ main ++ tail) ↔
      parseUnsigned (2 ^ 16) portText = some endpoint.port := by
  rcases trim_link ends lastKept isTail with ⟨rest, restIsTail, trimmed⟩
  have mainCut : before (splitLabel (main ++ rest)).1 "?" = main := by
    rw [before, ← String.toList_inj, String.toList_ofList]
    refine (charsBefore_singleton '?' _).trans ?_
    rw [splitLabel_toList, String.toList_append, takeWhile_tail noLabel noQuery restIsTail]
  have credentials : splitOnce ':' endpoint.credentials =
      some (endpoint.method, endpoint.password) :=
    splitOnce_eq (by simp [ShadowsocksEndpoint.credentials]) endpoint.methodPlain
  have hostPort : rsplitOnce ':' (endpoint.host.written ++ ":" ++ portText) =
      some (endpoint.host.written, portText) :=
    rsplitOnce_eq (by simp) noColon
  rw [ShadowsocksEndpoint.ParsedFrom, parseShadowsocks_eq, trimmed, afterPrefix_append,
    Option.getD_some, mainCut, parts]
  change (∃ server, shadowsocksServer lib _ _ _ = _ ∧ _) ↔ _
  rw [shadowsocksServer, credentials]
  dsimp only
  rw [hostPort]
  dsimp only
  rw [shadowsocksPort, LinkHost.trimMatches_written]
  cases parseUnsigned (2 ^ 16) portText with
  | none => simp [bind, Except.bind]
  | some port => simp [bind, Except.bind, VlessServer.base]

/-- A text with a part without white space at its end. -/
theorem exists_last {main tail : List Char} (isSuffix : tail <:+ main) (nonempty : tail ≠ [])
    (kept : ∀ char ∈ tail, isWhitespace char = false) :
    ∃ front last, main = front ++ [last] ∧ isWhitespace last = false := by
  rcases isSuffix with ⟨front, rfl⟩
  refine ⟨front ++ tail.dropLast, tail.getLast nonempty, ?_, kept _ (List.getLast_mem nonempty)⟩
  rw [List.append_assoc, List.dropLast_append_getLast]

/-- The port as it is written, with the slash after it. -/
def portText (port : Nat) (slash : Bool) : String :=
  toString port ++ if slash then "/" else ""

theorem mem_portText {port : Nat} {slash : Bool} {char : Char}
    (member : char ∈ (portText port slash).toList) : char.isDigit = true ∨ char = '/' := by
  rw [portText, String.toList_append, List.mem_append] at member
  rcases member with digit | ending
  · exact .inl (isDigit_of_mem_toString digit)
  · cases slash with
    | false => cases ending
    | true => exact .inr (by simpa using ending)

theorem portText_ne_nil (port : Nat) (slash : Bool) : (portText port slash).toList ≠ [] := by
  rw [portText, String.toList_append, toList_toString]
  simp

/-- The port is read as long as nothing follows it. -/
theorem parseUnsigned_portText {bound port : Nat} (small : port < bound) (slash : Bool) :
    parseUnsigned bound (portText port slash) = some port ↔ slash = false := by
  cases slash with
  | false =>
      have plain : portText port false = toString port := by
        rw [portText]
        exact String.append_empty
      rw [plain, parseUnsigned_toString small]
      simp
  | true =>
      have slashed : '/' ∈ (portText port true).toList := by simp [portText]
      have refused : parseUnsigned bound (portText port true) = none :=
        parseUnsigned_eq_none slashed (by decide) (by decide)
      simp [refused]

theorem kept_portText {port : Nat} {slash : Bool} :
    ∀ char ∈ (portText port slash).toList, isWhitespace char = false := by
  intro char member
  rcases mem_portText member with digit | rfl
  · rw [Char.isDigit, Bool.and_eq_true, decide_eq_true_eq, decide_eq_true_eq] at digit
    have low : 48 ≤ char.toNat := digit.1
    have high : char.toNat ≤ 57 := digit.2
    simp [isWhitespace]
    omega
  · decide

theorem not_mem_portText {port : Nat} {slash : Bool} {char : Char}
    (noDigit : char.isDigit = false) (noSlash : char ≠ '/') :
    char ∉ (portText port slash).toList := by
  intro member
  rcases mem_portText member with digit | isSlash
  · rw [noDigit] at digit
    cases digit
  · exact noSlash isSlash

/-- The endpoint as it is written, with the slash after it. -/
def ShadowsocksEndpoint.openHostPort (endpoint : ShadowsocksEndpoint) (slash : Bool) : String :=
  endpoint.host.written ++ ":" ++ portText endpoint.port slash

theorem not_mem_openHostPort {slash : Bool} {char : Char} (mark : char ∈ ['@', '#', '?']) :
    char ∉ (endpoint.openHostPort slash).toList := by
  have marks : ∀ mark ∈ ['@', '#', '?'], mark ∈ hostDelimiters ∧ (mark ≠ '[' ∧ mark ≠ ']') ∧
      mark ≠ ':' ∧ mark.isDigit = false ∧ mark ≠ '/' :=
    forall_mem_of_all (by decide)
  rcases marks char mark with ⟨delimiter, noBracket, noColon, noDigit, noSlash⟩
  have host : char ∉ endpoint.host.written.toList :=
    LinkHost.not_mem_written delimiter noBracket
  have port : char ∉ (portText endpoint.port slash).toList := not_mem_portText noDigit noSlash
  simp [ShadowsocksEndpoint.openHostPort, host, port, noColon]

section Layouts

variable (decodes : lib.DecodesBase64) (variant : Base64.Variant)

include decodes

theorem parsedFrom_sip002Link (slash : Bool) (query label : Option String) :
    endpoint.ParsedFrom lib (endpoint.sip002Link variant slash query label) ↔
      slash = false := by
  let encoded := Base64.encode variant endpoint.credentials
  let hostPort := endpoint.openHostPort slash
  have link : endpoint.sip002Link variant slash query label =
      "ss://" ++ (encoded ++ "@" ++ hostPort) ++
        (optionalPart "?" query ++ optionalPart "#" label) := by
    simp only [ShadowsocksEndpoint.sip002Link, ShadowsocksEndpoint.hostPort,
      ShadowsocksEndpoint.openHostPort, portText, encoded, hostPort, String.append_assoc]
  have split : rsplitOnce '@' (encoded ++ "@" ++ hostPort) = some (encoded, hostPort) :=
    rsplitOnce_eq (by simp) (not_mem_openHostPort (by decide))
  have parts : shadowsocksParts lib (encoded ++ "@" ++ hostPort) =
      .ok (endpoint.credentials, hostPort) := by
    rw [shadowsocksParts, split]
    dsimp only
    rw [b64DecodeStr_encode decodes, Option.getD_some]
  have noMark {mark : Char} (isMark : mark ∈ ['#', '?']) :
      mark ∉ (encoded ++ "@" ++ hostPort).toList := by
    have marks : ∀ mark ∈ ['#', '?'], Base64.digitOf mark = none ∧ mark ≠ '=' ∧ mark ≠ '@' ∧
        mark ∈ ['@', '#', '?'] :=
      forall_mem_of_all (by decide)
    rcases marks mark isMark with ⟨noSymbol, noPadding, noAt, listed⟩
    have outside : mark ∉ encoded.toList := Base64.not_mem_encode noSymbol noPadding
    have after : mark ∉ hostPort.toList := not_mem_openHostPort listed
    simp [outside, after, noAt]
  have isSuffix : (portText endpoint.port slash).toList <:+ (encoded ++ "@" ++ hostPort).toList :=
    ⟨(encoded ++ "@" ++ (endpoint.host.written ++ ":")).toList, by
      simp [hostPort, ShadowsocksEndpoint.openHostPort]⟩
  rcases exists_last isSuffix (portText_ne_nil _ _) kept_portText with
    ⟨front, last, ends, lastKept⟩
  rw [link, parsedFrom_iff ends lastKept (isTail_query query label) (noMark (by decide))
    (noMark (by decide)) parts (not_mem_portText (by decide) (by decide)),
    parseUnsigned_portText endpoint.portSmall]

theorem parsedFrom_legacyLink (label : Option String) :
    endpoint.ParsedFrom lib (endpoint.legacyLink variant label) := by
  let plain := endpoint.credentials ++ "@" ++ endpoint.openHostPort false
  let encoded := Base64.encode variant plain
  have link : endpoint.legacyLink variant label =
      "ss://" ++ encoded ++ optionalPart "#" label := by
    simp only [ShadowsocksEndpoint.legacyLink, ShadowsocksEndpoint.hostPort,
      ShadowsocksEndpoint.openHostPort, portText, encoded, plain, Bool.false_eq_true, if_false,
      String.append_empty]
  have outside {char : Char} (noSymbol : Base64.digitOf char = none) (noPadding : char ≠ '=') :
      char ∉ encoded.toList := Base64.not_mem_encode noSymbol noPadding
  have split : rsplitOnce '@' plain =
      some (endpoint.credentials, endpoint.openHostPort false) :=
    rsplitOnce_eq (by simp [plain]) (not_mem_openHostPort (by decide))
  have parts : shadowsocksParts lib encoded =
      .ok (endpoint.credentials, endpoint.openHostPort false) := by
    rw [shadowsocksParts, rsplitOnce_eq_none (outside (by decide) (by decide))]
    dsimp only
    rw [b64DecodeStr_encode decodes]
    dsimp only
    rw [split]
  have nonempty : encoded.toList ≠ [] := by
    intro empty
    have nothing := congrArg String.toList
      (Base64.eq_empty_of_encode (String.toList_eq_nil_iff.1 empty))
    simp [plain] at nothing
  have kept : ∀ char ∈ encoded.toList, isWhitespace char = false :=
    fun char member => isWhitespace_eq_false (Base64.mem_encode member)
  rcases exists_last (List.suffix_refl _) nonempty kept with ⟨front, last, ends, lastKept⟩
  rw [link, parsedFrom_iff ends lastKept (isTail_label label) (outside (by decide) (by decide))
    (outside (by decide) (by decide)) parts (not_mem_portText (by decide) (by decide)),
    parseUnsigned_portText endpoint.portSmall]

/-- A link in either layout is accepted as what it encodes, unless a slash follows the
port. -/
theorem shadowsocks_links_parsed_iff (endpoint : ShadowsocksEndpoint) (slash : Bool)
    (query label : Option String) :
    (endpoint.ParsedFrom lib (endpoint.sip002Link variant slash query label) ↔
      slash = false) ∧
    endpoint.ParsedFrom lib (endpoint.legacyLink variant label) :=
  ⟨parsedFrom_sip002Link decodes variant slash query label,
    parsedFrom_legacyLink decodes variant label⟩

end Layouts

/-- An endpoint with a password that has the separators of a link in it. -/
def sampleEndpoint : ShadowsocksEndpoint where
  method := "aes-256-gcm"
  password := "p:1@2"
  host := .ofIp (.v6 ⟨0x2001, 0xdb8, 0, 0, 0, 0, 0, 1⟩)
  port := 443
  methodPlain := by decide
  portSmall := by decide

theorem sampleEndpoint_parsed :
    sampleEndpoint.ParsedFrom (.ofTables (.ofPlain []) [])
      (sampleEndpoint.sip002Link ⟨true, false⟩ false (some "plugin=a@b") (some "A")) :=
  (shadowsocks_links_parsed_iff (decodesBase64_ofTables _ _) ⟨true, false⟩ sampleEndpoint false
    (some "plugin=a@b") (some "A")).1.2 rfl

theorem sampleEndpoint_slash_refused :
    sampleEndpoint.sip002Link ⟨false, true⟩ true none none =
      "ss://YWVzLTI1Ni1nY206cDoxQDI=@[2001:db8::1]:443/" ∧
    ¬sampleEndpoint.ParsedFrom (.ofTables (.ofPlain []) [])
      (sampleEndpoint.sip002Link ⟨false, true⟩ true none none) := by
  refine ⟨by decide +kernel, ?_⟩
  rw [parsedFrom_sip002Link (decodesBase64_ofTables _ _)]
  decide

end Varmlen.Core
