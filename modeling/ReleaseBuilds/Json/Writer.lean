import ReleaseBuilds.Json.Basic
import ReleaseBuilds.Text.Quoted

/-!
# Writing JSON text

The compact text of a value, without space between tokens. Only quotes, backslashes and control
characters are escaped, the latter by a letter where there is one. An ill-formed value is written as
half of a surrogate pair, whatever it was.
-/

namespace ReleaseBuilds.Json

/-- A control character as four hexadecimal digits. -/
def writeUnit (n : Nat) : String :=
  let digits := Nat.toDigits 16 n
  String.ofList ('\\' :: 'u' :: List.replicate (4 - digits.length) '0' ++ digits)

def writeChar (c : Char) : String :=
  if c == '"' then "\\\""
  else if c == '\\' then "\\\\"
  else if c == '\x08' then "\\b"
  else if c == '\x0c' then "\\f"
  else if c == '\n' then "\\n"
  else if c == '\r' then "\\r"
  else if c == '\t' then "\\t"
  else if c.toNat < 0x20 then writeUnit c.toNat
  else c.toString

def writeText (s : String) : String :=
  s.toList.foldl (fun out c => out ++ writeChar c) "\"" ++ "\""

/-- An integer in decimal digits, a decimal as its digits with a point if there are places, and an
exponent. -/
def writeNumber : Number → String
  | .integer n => toString n
  | .decimal negative digits places exponent =>
    let (whole, fraction) := Number.split digits places
    (if negative then "-" else "") ++ String.ofList whole ++
      (if fraction.isEmpty then "" else "." ++ String.ofList fraction) ++ "e" ++ toString exponent

mutual

def toText : Json → String
  | .null => "null"
  | .bool b => if b then "true" else "false"
  | .number n => writeNumber n
  | .text s => writeText s
  | .illFormed => "\"\\ud800\""
  | .array items => "[" ++ itemsText items ++ "]"
  | .object members => "\x7b" ++ membersText members ++ "\x7d"

/-- Items with commas between them. -/
def itemsText : List Json → String
  | [] => ""
  | [item] => item.toText
  | item :: rest => item.toText ++ "," ++ itemsText rest

/-- Members with commas between them. -/
def membersText : List (String × Json) → String
  | [] => ""
  | [(name, value)] => writeText name ++ ":" ++ value.toText
  | (name, value) :: rest => writeText name ++ ":" ++ value.toText ++ "," ++ membersText rest

end

end ReleaseBuilds.Json
