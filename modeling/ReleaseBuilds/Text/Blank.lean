/-!
# Blank characters

The characters with the Unicode property `White_Space`, and texts without them at their ends.
Settings, tags and timestamps that people write are read with surrounding blanks removed; nothing
here touches blanks inside a text.
-/

namespace ReleaseBuilds.Text

/-- The twenty-five characters with the property `White_Space`. -/
def isBlank (c : Char) : Bool :=
  let n := c.toNat
  (9 ≤ n && n ≤ 13) || n == 0x20 || n == 0x85 || n == 0xA0 || n == 0x1680 ||
    (0x2000 ≤ n && n ≤ 0x200A) || n == 0x2028 || n == 0x2029 || n == 0x202F || n == 0x205F ||
    n == 0x3000

/-- Leading blanks removed. -/
def skipBlanks (cs : List Char) : List Char := cs.dropWhile isBlank

/-- Blanks removed at both ends. -/
def trimChars (cs : List Char) : List Char := (skipBlanks (skipBlanks cs).reverse).reverse

/-- Blanks removed at both ends. -/
def trim (s : String) : String := String.ofList (trimChars s.toList)

/-- A letter from `A` to `Z` in lower case, any other character as it is. -/
def lowerAscii (s : String) : String := String.ofList (s.toList.map Char.toLower)

/-- Equality up to the case of the letters from `A` to `Z`. -/
def sameIgnoringCase (s t : String) : Bool := lowerAscii s == lowerAscii t

end ReleaseBuilds.Text
