import Mathlib.Data.List.Infix

/-!
# Text operations

The operations on strings that the program uses, on the characters of the string,
so that they evaluate.  What needs the Unicode tables is a parameter.
-/

namespace Foundation.Text

/-- ASCII letters in lower case, everything else as it is. -/
def toAsciiLowercase (text : String) : String :=
  String.ofList (text.toList.map Char.toLower)

def eqIgnoreAsciiCase (left right : String) : Bool :=
  toAsciiLowercase left == toAsciiLowercase right

def startsWith (text pattern : String) : Bool :=
  pattern.toList.isPrefixOf text.toList

def endsWith (text pattern : String) : Bool :=
  pattern.toList.isSuffixOf text.toList

/-- The text after `pattern`, if it starts with it. -/
def afterPrefix (text pattern : String) : Option String :=
  (List.dropPrefix? text.toList pattern.toList).map fun rest => String.ofList rest

theorem afterPrefix_append (pattern rest : String) :
    afterPrefix (pattern ++ rest) pattern = some rest := by
  rw [afterPrefix, String.toList_append,
    List.dropPrefix?_eq_some_iff.2 ⟨_, rfl, beq_self_eq_true _⟩, Option.map_some, String.ofList_toList]

/-- The parts of a text between the occurrences of `separator`. -/
def split (separator : Char) (text : String) : List String :=
  (text.toList.splitOn separator).map String.ofList

theorem split_ne_nil (separator : Char) (text : String) : split separator text ≠ [] := by
  intro empty
  exact List.splitOnP_ne_nil _ _ (List.map_eq_nil_iff.1 empty)

/-- Characters with the Unicode property `White_Space`. -/
def isWhitespace (char : Char) : Bool :=
  let code := char.toNat
  (9 ≤ code && code ≤ 13) || code == 0x20 || code == 0x85 || code == 0xa0 ||
    code == 0x1680 || (0x2000 ≤ code && code ≤ 0x200a) || code == 0x2028 ||
    code == 0x2029 || code == 0x202f || code == 0x205f || code == 0x3000

/-- The text without white space at either end. -/
def trim (text : String) : String :=
  String.ofList
    (((text.toList.dropWhile isWhitespace).reverse.dropWhile isWhitespace).reverse)

def trimEnd (text : String) : String :=
  String.ofList ((text.toList.reverse.dropWhile isWhitespace).reverse)

def trimStart (text : String) : String :=
  String.ofList (text.toList.dropWhile isWhitespace)

/-- The text without the given character at its start. -/
def trimStartMatches (char : Char) (text : String) : String :=
  String.ofList (text.toList.dropWhile (· == char))

/-- The text without the given character at its end. -/
def trimEndMatches (char : Char) (text : String) : String :=
  String.ofList ((text.toList.reverse.dropWhile (· == char)).reverse)

/-- The text without the given characters at either end. -/
def trimMatches (chars : List Char) (text : String) : String :=
  String.ofList
    (((text.toList.dropWhile chars.contains).reverse.dropWhile chars.contains).reverse)

/-- The text without its white space. -/
def withoutWhitespace (text : String) : String :=
  String.ofList (text.toList.filter fun char => !isWhitespace char)

/-- The words between the white space of a text. -/
def splitWhitespace (text : String) : List String :=
  ((text.toList.splitOnP isWhitespace).filter fun word => !word.isEmpty).map String.ofList

/-- The parts before and after the first separator. -/
def splitOnce (separator : Char) (text : String) : Option (String × String) :=
  let chars := text.toList
  if chars.contains separator then
    some (String.ofList (chars.takeWhile (· != separator)),
      String.ofList ((chars.dropWhile (· != separator)).drop 1))
  else none

/-- The parts before and after the last separator. -/
def rsplitOnce (separator : Char) (text : String) : Option (String × String) :=
  let chars := text.toList.reverse
  if chars.contains separator then
    some (String.ofList ((chars.dropWhile (· != separator)).drop 1).reverse,
      String.ofList (chars.takeWhile (· != separator)).reverse)
  else none

/-- The characters before the first occurrence of a pattern. -/
def charsBefore (pattern : List Char) : List Char → List Char
  | [] => []
  | char :: rest =>
      if pattern.isPrefixOf (char :: rest) then [] else char :: charsBefore pattern rest

/-- The text before the first occurrence of `pattern`, all of it when there is none. -/
def before (text pattern : String) : String :=
  String.ofList (charsBefore pattern.toList text.toList)

/-- A line that ended with a line feed, without the carriage return before it. -/
def withoutCarriageReturn (line : String) : String :=
  if endsWith line "\r" then String.ofList line.toList.dropLast else line

/-- The lines of a text; nothing follows a line feed at its end. -/
def lines (text : String) : List String :=
  let parts := split '\n' text
  parts.dropLast.map withoutCarriageReturn ++
    (parts.getLast?.filter fun last => last != "").toList

/-- The text has an occurrence of `pattern`. -/
def contains (text pattern : String) : Bool :=
  decide (pattern.toList <:+: text.toList)

/-- Replace the occurrences of a non-empty pattern from left to right, after passing
over the next `skip` characters. -/
def replaceFrom (pattern replacement : List Char) : (skip : Nat) → List Char → List Char
  | _, [] => []
  | skip + 1, _ :: rest => replaceFrom pattern replacement skip rest
  | 0, char :: rest =>
      if pattern.isPrefixOf (char :: rest) then
        replacement ++ replaceFrom pattern replacement (pattern.length - 1) rest
      else char :: replaceFrom pattern replacement 0 rest

/-- Replace every occurrence of `pattern`; an empty one occurs before and after each
character. -/
def replace (text pattern replacement : String) : String :=
  match pattern.toList with
  | [] =>
      String.ofList (replacement.toList ++
        text.toList.flatMap fun char => char :: replacement.toList)
  | chars => String.ofList (replaceFrom chars replacement.toList 0 text.toList)

/-- The parts of the standard library's text handling that follow the Unicode
tables. -/
structure Unicode where
  isAlphanumeric : Char → Bool
  toLowercase : String → String
  /-- A text as `{:?}` shows it, quoted and escaped. -/
  debug : String → String

/-- What the tables say of ASCII texts without characters to escape. -/
def Unicode.ascii : Unicode where
  isAlphanumeric := Char.isAlphanum
  toLowercase := toAsciiLowercase
  debug text := "\"" ++ text ++ "\""

/-- Read an unsigned decimal number below `bound`, with an optional plus sign. -/
def parseUnsigned (bound : Nat) (text : String) : Option Nat :=
  let digits :=
    match text.toList with
    | '+' :: rest => rest
    | chars => chars
  if digits.isEmpty ∨ !digits.all Char.isDigit then none
  else
    let value := digits.foldl (fun value digit => value * 10 + (digit.toNat - 48)) 0
    if value < bound then some value else none

end Foundation.Text
