import ReleaseBuilds.Version.Requirement
import ReleaseBuilds.ErrorList

/-!
# Release filters

Which releases are built. A filter judges tags by a version requirement; releases on a deny list are
dropped after it. A filter that cannot be built is replaced by one that keeps nothing, so that a
mistake in it never builds everything.
-/

namespace ReleaseBuilds

/-- The filter that a repository asks for: the name of a kind of filter and its argument. -/
structure FilterSpec where
  kind : String
  argument : String
deriving DecidableEq, Repr

inductive FilterError where
  | unknownKind (kind : String)
  | invalidConstraint (constraint : String) (reason : Version.ReadError)
  | invalidVersion (tag : String) (reason : Version.ReadError)
deriving DecidableEq, Repr

def FilterError.message : FilterError → String
  | .unknownKind kind => "unknown version filter implementation '" ++ kind ++ "'"
  | .invalidConstraint constraint reason =>
    "invalid version constraint '" ++ constraint ++ "': " ++ reason.message
  | .invalidVersion tag reason =>
    "tag '" ++ tag ++ "' is not a semantic version: " ++ reason.message

inductive Filter where
  | nothing
  | requirement (r : Version.Requirement)
deriving DecidableEq, Repr

namespace Filter

/-- The filter for a version constraint, which may have blanks around it. -/
def ofConstraint (constraint : String) : Except FilterError Filter :=
  match Version.Requirement.ofChars (Text.trimChars constraint.toList) with
  | .ok r => .ok (.requirement r)
  | .error e => .error (.invalidConstraint constraint e)

/-- The only kind of filter is `semver`. -/
def ofSpec (spec : FilterSpec) : Except FilterError Filter :=
  if spec.kind == "semver" then ofConstraint spec.argument else .error (.unknownKind spec.kind)

/-- Whether a tag passes; a filter by requirement must be able to read the tag. -/
def admits (f : Filter) (tag : String) : Except FilterError Bool :=
  match f with
  | .nothing => .ok false
  | .requirement r =>
    match Version.ofTag tag with
    | .ok version => .ok (r.holds version)
    | .error e => .error (.invalidVersion tag e)

/-- The error that a filter, if one is set, has on a tag. -/
def errorOn (f : Option Filter) (tag : String) : Option FilterError :=
  f.bind fun f =>
    match f.admits tag with
    | .ok _ => none
    | .error e => some e

/-- A tag is kept if the filter, when one is set, admits it and the deny list does not name it. -/
def keeps (f : Option Filter) (omitted : List String) (tag : String) : Bool :=
  (f.all fun f =>
    match f.admits tag with
    | .ok admitted => admitted
    | .error _ => false) && !omitted.contains tag

/-- The items that are kept, in order, and the errors on the tags that could not be read. -/
def apply {α : Type} (f : Option Filter) (omitted : List String) (tagOf : α → String)
    (items : List α) : List α × ErrorList FilterError :=
  (items.filter fun item => keeps f omitted (tagOf item),
    ⟨items.filterMap fun item => errorOn f (tagOf item)⟩)

end Filter

end ReleaseBuilds
