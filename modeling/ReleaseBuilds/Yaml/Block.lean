import ReleaseBuilds.Json.Writer
import ReleaseBuilds.Text.Blank
import ReleaseBuilds.Text.Search

/-!
# The block style of YAML

A value as the lines of a YAML document. Members stand below their key and two blanks deeper,
items begin with a dash in the column of their key. A text is written without quotes where that is
safe, and one of several lines as a literal block.
-/

namespace ReleaseBuilds.Yaml

/-- Words that without quotes would not be read as text. -/
def reserved : List String :=
  ["~", "null", "true", "false", "yes", "no", "on", "off", "y", "n"]

/-- Characters with which a text without quotes cannot begin. -/
def indicators : List Char := "-?:,[]\x7b\x7d#&*!|>'\"%@`".toList

/-- A text can be written without quotes: it cannot be taken for another value, and no part of it
looks like a key or like a comment. -/
def isPlain (s : String) : Bool :=
  let cs := s.toList
  let isFirst := fun c => !indicators.contains c && !Text.isBlank c
  let isLast := fun c => c != ':' && !Text.isBlank c
  cs.head?.any isFirst && cs.getLast?.any isLast &&
    cs.all (fun c => 0x20 ≤ c.toNat && c.toNat != 0x7F) &&
    !Text.occursIn ": " s && !Text.occursIn " #" s &&
    !reserved.contains (Text.lowerAscii s) && (Decimal.float? s).isNone

/-- A text between single quotes, in which a quote is written twice. -/
def singleQuoted (s : String) : String :=
  String.ofList ('\'' :: s.toList.flatMap (fun c => if c == '\'' then [c, c] else [c]) ++ ['\''])

/-- Two blanks in front of a line, unless it is empty. -/
def indent (line : String) : String := if line.isEmpty then line else "  " ++ line

/-- Where a value stands relative to its key or its dash. -/
inductive Layout where
  /-- On the same line. -/
  | inline (text : String)
  /-- Lines of text, below and deeper. -/
  | literal (lines : List String)
  /-- Members, below and deeper. -/
  | members (lines : List String)
  /-- Items, below and in the same column. -/
  | items (lines : List String)
deriving DecidableEq, Repr

namespace Layout

/-- Lines of text can be written as they are if the first one shows where the block begins and the
last one where it ends. -/
def isLiteral (lines : List String) : Bool :=
  let starts := fun (l : String) => l.toList.head?.any fun c => !Text.isBlank c
  lines.head?.any starts && lines.getLast?.any (fun l => !l.isEmpty) &&
    lines.all fun l => l.toList.all fun c => 0x20 ≤ c.toNat && c.toNat != 0x7F

def ofText (s : String) : Layout :=
  let lines := s.splitOn "\n"
  if isPlain s then .inline s
  else if s.toList.all fun c => 0x20 ≤ c.toNat && c.toNat != 0x7F then .inline (singleQuoted s)
  else if isLiteral lines then .literal lines
  else .inline (Json.writeText s)

/-- A number with a point in it unless it is an integer. -/
def numberText (n : Json.Number) : String :=
  match n with
  | .integer i => toString i
  | .decimal .. => if n.toFloat.isFinite then Decimal.pointedText n.toFloat else Json.writeNumber n

def underKey (key : String) : Layout → List String
  | .inline text => [key ++ ": " ++ text]
  | .literal lines => (key ++ ": |-") :: lines.map indent
  | .members lines => (key ++ ":") :: lines.map indent
  | .items lines => (key ++ ":") :: lines

def underDash : Layout → List String
  | .inline text => ["- " ++ text]
  | .literal lines => "- |-" :: lines.map indent
  | .members lines | .items lines =>
    match lines with
    | [] => ["-"]
    | first :: rest => ("- " ++ first) :: rest.map indent

/-- A whole document. -/
def lines : Layout → List String
  | .inline text => [text]
  | .literal lines => "|-" :: lines.map indent
  | .members lines | .items lines => lines

mutual

def ofJson : Json → Layout
  | .null => .inline "null"
  | .bool b => .inline (if b then "true" else "false")
  | .number n => .inline (numberText n)
  | .text s => ofText s
  | .illFormed => .inline (Json.toText .illFormed)
  | .array [] => .inline "[]"
  | .array (item :: rest) => .items (itemLines (item :: rest))
  | .object [] => .inline "\x7b\x7d"
  | .object (member :: rest) => .members (memberLines (member :: rest))

def itemLines : List Json → List String
  | [] => []
  | item :: rest => (ofJson item).underDash ++ itemLines rest

def memberLines : List (String × Json) → List String
  | [] => []
  | (key, value) :: rest =>
    (ofJson value).underKey (if isPlain key then key else Json.writeText key) ++ memberLines rest

end

end Layout

/-- The lines of the document that holds a value. -/
def linesOf (j : Json) : List String := (Layout.ofJson j).lines

end ReleaseBuilds.Yaml
