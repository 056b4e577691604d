import ReleaseBuilds.Text.Hidden

/-!
# Quoted characters and texts

The form in which diagnostics show a single character (in single quotes) or a whole text (in double
quotes). Characters without a mark of their own are written by their code point, so that the shown
form never depends on how a terminal renders them.
-/

namespace ReleaseBuilds.Text

/-- Digits of `n` in base sixteen, lower case and without leading zeros. -/
def hexDigits (n : Nat) : String := String.ofList (Nat.toDigits 16 n)

/-- One character inside the given kind of quotes. The other kind of quote needs no escape. -/
def escapeChar (quote c : Char) : String :=
  if c == '\x00' then "\\0"
  else if c == '\t' then "\\t"
  else if c == '\r' then "\\r"
  else if c == '\n' then "\\n"
  else if c == '\\' || c == quote then String.ofList ['\\', c]
  else if isHidden c then "\\u\x7b" ++ hexDigits c.toNat ++ "\x7d"
  else c.toString

/-- A character in single quotes. -/
def quotedChar (c : Char) : String := "'" ++ escapeChar '\'' c ++ "'"

/-- A text in double quotes. -/
def quoted (s : String) : String :=
  "\"" ++ s.toList.foldl (fun shown c => shown ++ escapeChar '"' c) "" ++ "\""

end ReleaseBuilds.Text
