import ReleaseBuilds.Github.RateLimit

/-!
# Failures of GitHub

Why a question to GitHub has no answer that can be used, and how each failure reads.
-/

namespace ReleaseBuilds

/-- Why GitHub gave no answer that can be used. -/
inductive GithubError where
  | rateLimited (quota : RateLimit)
  | unauthorized
  | status (code : Nat) (url : String)
  /-- The request could not be sent or the connection broke. -/
  | request (url : String)
  /-- The answer is not of the expected form. -/
  | decode (url : String)
  | noReleases (owner repo : String)
  | cancelled
deriving DecidableEq, Repr

namespace GithubError

/-- The quota, if it is what failed. -/
def quota? : GithubError → Option RateLimit
  | .rateLimited quota => some quota
  | _ => none

/-- The text of an error, as far as it is ours to give: a failed connection and a malformed answer
are described by those who noticed them. -/
def message? : GithubError → Option String
  | .rateLimited quota => some quota.message
  | .unauthorized =>
    some "unauthorized. either token is invalid, expired or missing the correct scope"
  | .status code url => some ("got status code " ++ toString code ++ " from " ++ url)
  | .noReleases owner repo => some ("no releases found for " ++ owner ++ "/" ++ repo)
  | .cancelled => some "request cancelled"
  | .request _ | .decode _ => none

end GithubError

end ReleaseBuilds
