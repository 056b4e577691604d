import ReleaseBuilds.Repository.Encoding

/-!
# Failures of the store

Why a repository could not be loaded or its status could not be saved.
-/

namespace ReleaseBuilds

inductive StoreError where
  | missingNamespace (name : String)
  /-- Any other failure; there is a code if the cluster gave an answer. -/
  | api (code : Option Nat)
deriving DecidableEq, Repr

/-- The text of an error; an unexpected answer of the cluster speaks for itself. -/
def StoreError.message? : StoreError → Option String
  | .missingNamespace name => some ("repository '" ++ name ++ "' has no namespace")
  | .api _ => none

end ReleaseBuilds
