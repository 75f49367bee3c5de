import Varmlen.Foundation.Json

/-!
# JSON as text

How a value is written out, compact or over several lines.  Reading one is left to a
parameter.
-/

namespace Foundation.Json

/-- Parse a JSON text, or say what is wrong with it. -/
abbrev JsonReader := String → Except String Value

/-- What stands between the parts of an array or object. -/
structure Layout where
  /-- The break before a part at a level of nesting. -/
  newline : Nat → String
  colon : String

def Layout.compact : Layout where
  newline _ := ""
  colon := ":"

/-- One part on a line, indented by two spaces for each level. -/
def Layout.pretty : Layout where
  newline level := "\n" ++ String.join (List.replicate level "  ")
  colon := ": "

/-- A character as it stands in a string literal. -/
def escapeChar (char : Char) : String :=
  if char = '"' then "\\\""
  else if char = '\\' then "\\\\"
  else if char = '\n' then "\\n"
  else if char = '\r' then "\\r"
  else if char = '\t' then "\\t"
  else if char.toNat = 8 then "\\b"
  else if char.toNat = 12 then "\\f"
  else if char.toNat < 32 then
    String.ofList ['\\', 'u', '0', '0', Nat.digitChar (char.toNat / 16),
      Nat.digitChar (char.toNat % 16)]
  else char.toString

def writeString (text : String) : String :=
  "\"" ++ String.join (text.toList.map escapeChar) ++ "\""

/-- The parts of an array or object between its brackets. -/
def bracketed (layout : Layout) (level : Nat) (opening closing : String)
    (parts : List String) : String :=
  if parts.isEmpty then opening ++ closing
  else
    opening ++ layout.newline (level + 1) ++
      String.intercalate ("," ++ layout.newline (level + 1)) parts ++
      layout.newline level ++ closing

namespace Value

mutual

def write (layout : Layout) (level : Nat) : Value → String
  | .null => "null"
  | .bool value => if value then "true" else "false"
  | .number (.int value) => toString value
  | .number (.float literal) => literal
  | .string value => writeString value
  | .array items => bracketed layout level "[" "]" (writeItems layout (level + 1) items)
  | .object fields =>
      bracketed layout level "\x7b" "\x7d" (writeFields layout (level + 1) fields)

def writeItems (layout : Layout) (level : Nat) : List Value → List String
  | [] => []
  | value :: rest => write layout level value :: writeItems layout level rest

def writeFields (layout : Layout) (level : Nat) : List (String × Value) → List String
  | [] => []
  | (key, value) :: rest =>
      (writeString key ++ layout.colon ++ write layout level value) ::
        writeFields layout level rest

end

/-- `serde_json::to_string`. -/
def toText (value : Value) : String := value.write .compact 0

/-- `serde_json::to_string_pretty`. -/
def toPrettyText (value : Value) : String := value.write .pretty 0

end Value

end Foundation.Json
