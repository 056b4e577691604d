import ReleaseBuilds.Proofs.Instants
import ReleaseBuilds.Proofs.Records

/-!
# Histories

Rounds of one repository one after the other, each of which knows what the one before it saved. The
specification, the controller and all answers may change from round to round. The log of a history
says of every exchange when it took place, and in the turn of which release and kind.
-/

namespace ReleaseBuilds.Cycle

open Dialogue

/-- Rounds in their order, from what is known at their start to what the last one saves. -/
inductive Rounds (ns name : String) :
    Repository.Status → List (Round ns name) → Repository.Status → Prop
  | nil (s : Repository.Status) : Rounds ns name s [] s
  | cons {rest : List (Round ns name)} {s' : Repository.Status} (round : Round ns name)
      (hrest : Rounds ns name round.status rest s') :
      Rounds ns name round.repository.known (round :: rest) s'

/-- An exchange, the reading of the clock in its round, and the pair of the turn in which it took
place. -/
structure Entry where
  now : Instant
  pair? : Option (String × ArtifactType) := none
  exchange : Exchanged

/-- A run was created for the pair. -/
def Entry.Creates (entry : Entry) (pair : String × ArtifactType) (run : RunState) : Prop :=
  entry.pair? = some pair ∧ ∃ request, entry.exchange = ⟨.createRun request, .ok run⟩

/-- A run was requested for the pair, whatever came of it. -/
def Entry.Requests (entry : Entry) (pair : String × ArtifactType) : Prop :=
  entry.pair? = some pair ∧ ∃ request answer, entry.exchange = ⟨.createRun request, answer⟩

theorem Entry.Creates.requests {entry : Entry} {pair : String × ArtifactType} {run : RunState}
    (hcreates : entry.Creates pair run) : entry.Requests pair := by
  obtain ⟨hpair, request, hexchange⟩ := hcreates
  exact ⟨hpair, request, .ok run, hexchange⟩

def Turn.log {m : Moment} {subject : Subject} (turn : Turn m subject) : List Entry :=
  turn.exchanges.map fun x => ⟨m.now, some turn.pair, x⟩

namespace Round

variable {ns name : String} (round : Round ns name)

/-- The exchanges before the first turn. -/
def openingLog : List Entry :=
  (⟨.load ns name, .ok (some round.repository)⟩ :: round.opening).map fun x => ⟨round.now, none, x⟩

/-- The exchange after the last turn. -/
def closingLog : List Entry :=
  [⟨round.now, none, ⟨.saveStatus { round.repository with status := some round.status },
    round.saved⟩⟩]

def log : List Entry := round.openingLog ++ (round.turns.flatMap Turn.log ++ round.closingLog)

/-- No run is requested outside the turns. -/
theorem pair?_of_mem_openingLog {entry : Entry} (hentry : entry ∈ round.openingLog) :
    entry.pair? = none := by
  obtain ⟨_, -, rfl⟩ := List.mem_map.mp hentry
  rfl

theorem pair?_of_mem_closingLog {entry : Entry} (hentry : entry ∈ round.closingLog) :
    entry.pair? = none := by
  rw [List.mem_singleton.mp hentry]

theorem now_of_mem_log {entry : Entry} (hentry : entry ∈ round.log) : entry.now = round.now := by
  simp only [log, openingLog, closingLog, Turn.log, List.mem_append, List.mem_map, List.mem_flatMap,
    List.mem_singleton] at hentry
  rcases hentry with ⟨_, -, rfl⟩ | ⟨_, -, _, -, rfl⟩ | rfl <;> rfl

end Round

/-- The clock does not go back from one round to the next. -/
def ClockAdvances {ns name : String} (rounds : List (Round ns name)) : Prop :=
  rounds.Pairwise fun earlier later => earlier.now ≤ later.now

/-- If the clock does not go back between rounds, it does not go back in their log. -/
theorem ClockAdvances.pairwise_log {ns name : String} {rounds : List (Round ns name)}
    (hclock : ClockAdvances rounds) :
    (rounds.flatMap Round.log).Pairwise fun earlier later => earlier.now ≤ later.now := by
  rw [List.pairwise_flatMap]
  constructor
  · intro round _
    apply List.pairwise_of_forall_mem_list
    intro earlier hearlier later hlater
    rw [round.now_of_mem_log hearlier, round.now_of_mem_log hlater]
    exact Instant.le_refl _
  · apply hclock.imp
    intro round next hle earlier hearlier later hlater
    rw [round.now_of_mem_log hearlier, next.now_of_mem_log hlater]
    exact hle

/-! ## Taking histories apart -/

/-- An entry of a joined log lies in one of its parts. -/
theorem exists_split_of_flatMap {α β : Type} {f : α → List β} {items : List α}
    {before after : List β} {x : β} (hsplit : items.flatMap f = before ++ x :: after) :
    ∃ earlier item later pre post, items = earlier ++ item :: later ∧ f item = pre ++ x :: post ∧
      after = post ++ later.flatMap f := by
  induction items generalizing before with
  | nil => simp at hsplit
  | cons item rest ih =>
      rw [List.flatMap_cons] at hsplit
      rcases split_append hsplit with ⟨between, hitem, rfl⟩ | ⟨between, -, hrest⟩
      · exact ⟨[], item, rest, before, between, rfl, hitem, rfl⟩
      · obtain ⟨earlier, found, later, pre, post, rfl, hfound, rfl⟩ := ih hrest
        exact ⟨item :: earlier, found, later, pre, post, rfl, hfound, rfl⟩

/-- After a turn the others go on from where it ended. -/
theorem Turns.after {m : Moment} {subject : Subject} {pairs : List (String × ArtifactType)}
    {s s' : Repository.Status} {earlier later : List (Turn m subject)} {turn : Turn m subject}
    (hturns : Turns m subject pairs s (earlier ++ turn :: later) s') :
    ∃ rest, Turns m subject rest turn.after later s' := by
  generalize hall : earlier ++ turn :: later = turns at hturns
  induction hturns generalizing earlier with
  | nil => simp at hall
  | pass _ _ ih => exact ih hall
  | take first hrest ih =>
      cases earlier with
      | nil =>
          obtain ⟨rfl, rfl⟩ := List.cons.inj hall
          exact ⟨_, hrest⟩
      | cons _ others => exact ih (List.cons.inj hall).2

/-- After a round the others go on from what it saved. -/
theorem Rounds.after {ns name : String} {s s' : Repository.Status}
    {earlier later : List (Round ns name)} {round : Round ns name}
    (hrounds : Rounds ns name s (earlier ++ round :: later) s') :
    Rounds ns name round.status later s' := by
  generalize hall : earlier ++ round :: later = rounds at hrounds
  induction hrounds generalizing earlier with
  | nil => simp at hall
  | cons first hrest ih =>
      cases earlier with
      | nil =>
          obtain ⟨rfl, rfl⟩ := List.cons.inj hall
          exact hrest
      | cons _ others => exact ih (List.cons.inj hall).2

/-! ## A history of two runs -/

/-- The first cycle of a repository with one release, in which a run is created. -/
def creatingRound (created : Instant) : Round "ci" "app" :=
  .single created none (begin created {}) (.done _) (.created rfl .unrecorded { name := "build-1" })

section Repeating

variable {created now : Instant} {run : RunState}

theorem ends_cleanup_repeating (hyoung : isExpired now run = false) :
    Ends (cleanup (.plain now) (singleSubject (some (creatingRound created).status))
        (begin now (creatingRound created).status))
      [lookedUp "ci" "build-1" (.ok run)] (begin now (creatingRound created).status) := by
  refine ends_cleanup_iff.mpr ⟨[(⟨"v1", .assets, firstRecord created⟩, .ok run)], rfl, rfl, ?_⟩
  simp [isStale, hyoung, Moment.plain, Repository.Status.dropRuns]

/-- The next cycle, in which the run is over and another one is created. -/
def repeatingRound (hyoung : isExpired now run = false)
    (hover : isInFlight now (firstRecord created) run = false) : Round "ci" "app" :=
  .single now (some (creatingRound created).status) _ (ends_cleanup_repeating hyoung)
    (.created rfl (.ended (firstRecord created) run hover) { name := "build-2" })

variable (hyoung : isExpired now run = false)
  (hover : isInFlight now (firstRecord created) run = false)

theorem rounds_repeating :
    Rounds "ci" "app" {} [creatingRound created, repeatingRound hyoung hover]
      (repeatingRound hyoung hover).status :=
  Rounds.cons (creatingRound created) (Rounds.cons (repeatingRound hyoung hover) (.nil _))

end Repeating

/-- A run that was started and completed at noon. -/
def completedRun : RunState :=
  { name := "build-1", startTime := some noon, completionTime := some noon }

end ReleaseBuilds.Cycle
