import ReleaseBuilds.Json.Basic
import ReleaseBuilds.Text.Units

/-!
# Reading JSON text

A strict reader: no comments, no trailing commas, no leading zeros, no control characters in texts,
and nothing but space around the one value. Nesting and the size of numbers are not limited. An
escape may stand for half of a surrogate pair without its other half; the value is then there, but
ill-formed.
-/

namespace ReleaseBuilds.Json

/-- The four characters that may stand between tokens. -/
def isSpace (c : Char) : Bool := c == ' ' || c == '\n' || c == '\r' || c == '\t'

def skipSpace (cs : List Char) : List Char := cs.dropWhile isSpace

def hexValue? (c : Char) : Option Nat :=
  if '0' ≤ c && c ≤ '9' then some (c.toNat - '0'.toNat)
  else if 'a' ≤ c && c ≤ 'f' then some (c.toNat - 'a'.toNat + 10)
  else if 'A' ≤ c && c ≤ 'F' then some (c.toNat - 'A'.toNat + 10)
  else none

/-- The value of four hexadecimal digits. -/
def unit? (a b c d : Char) : Option Nat := do
  some ((((← hexValue? a) * 16 + (← hexValue? b)) * 16 + (← hexValue? c)) * 16 + (← hexValue? d))

/-- The character that stands for itself or for another after a backslash. -/
def unescape? (c : Char) : Option Char :=
  match c with
  | '"' => some '"'
  | '\\' => some '\\'
  | '/' => some '/'
  | 'b' => some '\x08'
  | 'f' => some '\x0c'
  | 'n' => some '\n'
  | 'r' => some '\r'
  | 't' => some '\t'
  | _ => none

/-- The units of a text after its opening quote; `seen` holds the units so far in reverse. -/
def readUnits (seen : List Nat) : List Char → Option (List Nat × List Char)
  | [] => none
  | '"' :: rest => some (seen.reverse, rest)
  | '\\' :: 'u' :: a :: b :: c :: d :: rest =>
    match unit? a b c d with
    | none => none
    | some n => readUnits (n :: seen) rest
  | '\\' :: c :: rest =>
    match unescape? c with
    | none => none
    | some d => readUnits (d.toNat :: seen) rest
  | c :: rest => if c.toNat < 0x20 then none else readUnits (c.toNat :: seen) rest

/-- A text after its opening quote; nothing stands for an ill-formed one. -/
def readText (cs : List Char) : Option (Option String × List Char) :=
  (readUnits [] cs).map fun (units, rest) => (Text.ofUnits? [] units, rest)

/-- The object of the members that were read. -/
def ofReadMembers (members : List (Option String × Json)) : Json :=
  match members.mapM fun m => m.1.map fun name => (name, m.2) with
  | some members => .object members
  | none => .illFormed

/-- Digits and what follows them; at least one digit is needed. -/
def readDigits (cs : List Char) : Option (List Char × List Char) :=
  let digits := cs.takeWhile Char.isDigit
  if digits.isEmpty then none else some (digits, cs.drop digits.length)

/-- The digits after a point, if a point follows. -/
def readPlaces : List Char → Option (Option (List Char) × List Char)
  | '.' :: cs => (readDigits cs).map fun (digits, rest) => (some digits, rest)
  | cs => some (none, cs)

/-- The exponent, if the mark of one follows. -/
def readExponent : List Char → Option (Option Int × List Char)
  | [] => some (none, [])
  | c :: cs =>
    if c == 'e' || c == 'E' then
      let signed := fun (negative : Bool) (ds : List Char) =>
        (readDigits ds).map fun (digits, rest) =>
          let n : Int := ((Decimal.digits? digits).getD 0 : Nat)
          (some (if negative then -n else n), rest)
      match cs with
      | '+' :: ds => signed false ds
      | '-' :: ds => signed true ds
      | ds => signed false ds
    else some (none, c :: cs)

/-- A number after its sign. A leading zero stands alone before point and exponent. -/
def readUnsigned (negative : Bool) (cs : List Char) : Option (Number × List Char) := do
  let (whole, cs) ← match cs with
    | '0' :: cs => some (['0'], cs)
    | cs => readDigits cs
  let (places, cs) ← readPlaces cs
  let (power, cs) ← readExponent cs
  let digits := (Decimal.digits? (whole ++ places.getD [])).getD 0
  match places, power with
  | none, none =>
    if negative && digits == 0 then some (.decimal true 0 0 0, cs)
    else some (.integer (if negative then -(digits : Int) else digits), cs)
  | _, _ => some (.decimal negative digits (places.getD []).length (power.getD 0), cs)

/-- A number, with or without a sign. -/
def readNumber : List Char → Option (Number × List Char)
  | '-' :: cs => readUnsigned true cs
  | cs => readUnsigned false cs

mutual

/-- One value after space. Each step down uses one unit of `fuel`. -/
def readValue : Nat → List Char → Option (Json × List Char)
  | 0, _ => none
  | fuel + 1, cs =>
    match skipSpace cs with
    | 'n' :: 'u' :: 'l' :: 'l' :: rest => some (.null, rest)
    | 't' :: 'r' :: 'u' :: 'e' :: rest => some (.bool true, rest)
    | 'f' :: 'a' :: 'l' :: 's' :: 'e' :: rest => some (.bool false, rest)
    | '"' :: rest => (readText rest).map fun (s, rest) => (s.elim .illFormed .text, rest)
    | '[' :: rest =>
      match skipSpace rest with
      | ']' :: rest => some (.array [], rest)
      | _ => (readItems fuel rest).map fun (items, rest) => (.array items, rest)
    | '{' :: rest =>
      match skipSpace rest with
      | '}' :: rest => some (.object [], rest)
      | _ => (readMembers fuel rest).map fun (members, rest) => (ofReadMembers members, rest)
    | rest => (readNumber rest).map fun (n, rest) => (.number n, rest)

/-- The values of an array up to its closing bracket; there is at least one. -/
def readItems : Nat → List Char → Option (List Json × List Char)
  | 0, _ => none
  | fuel + 1, cs =>
    match readValue fuel cs with
    | none => none
    | some (item, rest) =>
      match skipSpace rest with
      | ',' :: rest => (readItems fuel rest).map fun (items, rest) => (item :: items, rest)
      | ']' :: rest => some ([item], rest)
      | _ => none

/-- The members of an object up to its closing brace; there is at least one. -/
def readMembers : Nat → List Char → Option (List (Option String × Json) × List Char)
  | 0, _ => none
  | fuel + 1, cs =>
    match skipSpace cs with
    | '"' :: rest =>
      match readText rest with
      | none => none
      | some (name, rest) =>
        match skipSpace rest with
        | ':' :: rest =>
          match readValue fuel rest with
          | none => none
          | some (value, rest) =>
            match skipSpace rest with
            | ',' :: rest =>
              (readMembers fuel rest).map fun (members, rest) => ((name, value) :: members, rest)
            | '}' :: rest => some ([(name, value)], rest)
            | _ => none
        | _ => none
    | _ => none

end

/-- The value of a whole text. Every step down is preceded by a character read or by one about to be
read, so twice the length of the text is enough fuel. -/
def ofText? (s : String) : Option Json :=
  let cs := s.toList
  match readValue (2 * cs.length + 2) cs with
  | none => none
  | some (value, rest) => if (skipSpace rest).isEmpty then some value else none

end ReleaseBuilds.Json
