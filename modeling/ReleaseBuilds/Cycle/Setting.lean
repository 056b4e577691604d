import ReleaseBuilds.Cycle.Findings
import ReleaseBuilds.Requeue.Policy
import ReleaseBuilds.Requeue.Jitter

/-!
# The setting of a cycle

What a cycle is given besides the repository: how the controller is configured, and the moment at
which the cycle takes place. A cycle works with one reading of the clock: time that passes between
two conditions or two requests of a cycle is not accounted for. The delays after which a repository
comes up again are computed from the two.
-/

namespace ReleaseBuilds

/-- How a controller schedules its cycles. -/
structure Controller where
  policy : Policy := .plain
  /-- The regular delay between two cycles of a repository. -/
  interval : Delay := .ofSeconds 3600
  /-- By how many percent the regular delay varies. -/
  percent : Float := 20.0

/-- The outcome of looking up the artifacts of a release. -/
abbrev Lookup := Except GithubError Finding

/-- How lookups that run side by side end: those for the two kinds of artifacts of one release, and
those for all releases. -/
structure Arrival where
  /-- The kind of which the lookup ends first, for the release at each place. -/
  first : Nat → ArtifactType := fun _ => .assets
  /-- The outcomes for the releases, in the order in which they arrive. -/
  order : List Lookup → List Lookup
  perm : ∀ outcomes, (order outcomes).Perm outcomes

/-- Lookups end in the order in which they began. -/
def Arrival.inOrder : Arrival where
  order := id
  perm := fun _ => .refl _

/-- The moment at which a cycle takes place. -/
structure Moment where
  /-- The only reading of the clock in the cycle: every condition and every record bears it. -/
  now : Instant
  draws : Draws
  /-- The controller is about to stop: questions to GitHub are cancelled. -/
  cancelled : Bool := false
  arrival : Arrival := .inOrder

namespace Controller

/-- No repository comes up again sooner. -/
def leastDelay : Delay := .ofSeconds 60

/-- Up to how many minutes are added after the quota did not suffice for the releases. -/
def releasesMinutes : Nat := 10

/-- Up to how many minutes are added after the quota did not suffice for the artifacts. -/
def artifactsMinutes : Nat := 60

/-- Up to how many minutes are added after no run could be created. -/
def creationMinutes : Nat := 120

/-- The least backoff, in minutes, after no run could be created. -/
def leastBackoff : Nat := 5

/-- The delay of which one must be chosen when nothing says how long to wait. -/
def fallback : Delay := .ofSeconds 3600

/-- The delay after an error that ended a cycle at its very beginning. -/
def errorDelay : Delay := .ofSeconds 60

variable (c : Controller) (m : Moment)

/-- The regular delay, spread a little. -/
def regularDelay : Delay :=
  Jitter.spreadShare m.draws (c.policy.requeue m.now c.interval) c.percent

/-- The delay after the pipelines could not be found. -/
def pipelinesDelay : Delay :=
  Jitter.addShare m.draws (c.policy.requeue m.now c.interval) c.percent

/-- The delay until a quota starts anew, and a few minutes more. -/
def quotaDelay (quota : RateLimit) (minutes : Nat) : Delay :=
  Jitter.addMinutes m.draws (c.policy.requeue m.now (quota.untilReset m.now)) minutes

/-- The delay after no run could be created, given how often runs were created before. -/
def creationDelay (attempts : Nat) : Delay :=
  Jitter.addMinutes m.draws (c.policy.requeue m.now (Jitter.backoff attempts leastBackoff))
    creationMinutes

/-- The delay after a repository could not be loaded. -/
def retryDelay (draws : Draws) : Delay := Jitter.addShare draws errorDelay c.percent

end Controller

/-- The longer of two delays, or the fallback if there is none. -/
def Delay.maxOrFallback (d e : Delay) : Delay :=
  if d.nanos == 0 && e.nanos == 0 then Controller.fallback else d.max e

end ReleaseBuilds
