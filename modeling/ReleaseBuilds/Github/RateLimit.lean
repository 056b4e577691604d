import ReleaseBuilds.Time.Rfc3339
import ReleaseBuilds.Text.Blank
import ReleaseBuilds.Decimal.Reader

/-!
# Quotas

GitHub answers a limited number of requests per hour and says in the headers of every answer how
many are left and when the count starts anew.
-/

namespace ReleaseBuilds

/-- Headers of an answer in the order of their arrival. -/
abbrev Headers := List (String × String)

/-- Visible ASCII characters, spaces and tabs. -/
def Headers.isReadable (value : String) : Bool :=
  value.toList.all fun c => c == '\t' || ' ' ≤ c && c ≤ '~'

/-- The value of the first header with a name, in which case does not count; none if it cannot be
read as text. -/
def Headers.get? (headers : Headers) (name : String) : Option String :=
  ((headers.find? fun h => Text.sameIgnoringCase h.1 name).map Prod.snd).filter Headers.isReadable

/-- What GitHub says about the quota. -/
structure RateLimit where
  limit : Nat
  remaining : Int
  reset : Instant
deriving DecidableEq, Repr

namespace RateLimit

/-- The quota from the headers of an answer; all three of them must be there and be readable. -/
def ofHeaders? (headers : Headers) : Option RateLimit := do
  let limit ← (headers.get? "x-ratelimit-limit").bind fun s => Decimal.nat? UInt64.size (Text.trim s)
  let remaining ←
    (headers.get? "x-ratelimit-remaining").bind fun s => Decimal.int? (UInt64.size / 2) (Text.trim s)
  let reset ← (headers.get? "x-ratelimit-reset").bind fun s => Decimal.int? (UInt64.size / 2) (Text.trim s)
  return { limit, remaining, reset := ← Instant.of? reset 0 }

/-- No request is left. -/
def isExhausted (r : RateLimit) : Bool := r.remaining ≤ 0

/-- The time until the count starts anew; none once that has happened. -/
def untilReset (r : RateLimit) (now : Instant) : Delay := (now.delayUntil? r.reset).getD .zero

def message (r : RateLimit) : String :=
  "rate limit exceeded. limit: " ++ toString r.limit ++ ", remaining: " ++ toString r.remaining ++
    ", reset at: " ++ r.reset.toMessageText

end RateLimit

end ReleaseBuilds
