/-!
# Searching texts

Whether a text stands somewhere inside another one.
-/

namespace ReleaseBuilds.Text

/-- The pattern begins at some place of the characters, possibly at their end. -/
def occursAt (pattern : List Char) : List Char → Bool
  | [] => pattern.isEmpty
  | c :: cs => pattern.isPrefixOf (c :: cs) || occursAt pattern cs

def occursIn (pattern s : String) : Bool := occursAt pattern.toList s.toList

end ReleaseBuilds.Text
