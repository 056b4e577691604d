import ReleaseBuilds.Proofs.Stages
import ReleaseBuilds.Proofs.Status

/-!
# Turns

Every release and kind that lacks its artifact takes a turn, in which at most one run is
requested. The turns of a cycle say for which pair a request is made; their exchanges, one after
the other, are those of scheduling.
-/

namespace ReleaseBuilds.Cycle

open Dialogue

/-- The previous run of a pair is looked up, if there is a record of it, and is not in flight. -/
inductive Settled (now : Instant) (ns : String) :
    Option Repository.RunRecord → List Exchanged → Prop
  | unrecorded : Settled now ns none []
  | failed (record : Repository.RunRecord) (error : RunnerError) :
      Settled now ns (some record) [lookedUp ns record.name (.error error)]
  | ended (record : Repository.RunRecord) (run : RunState)
      (hover : isInFlight now record run = false) :
      Settled now ns (some record) [lookedUp ns record.name (.ok run)]

/-- How the turn of a release and a kind goes: what is asked, the outcome, and the status
afterwards. -/
inductive Attempt (m : Moment) (subject : Subject) (s : Repository.Status) (tag : String)
    (t : ArtifactType) :
    List Exchanged → Except RunnerError RunOutcome → Repository.Status → Prop
  | notConfigured (hbuild : RunRequest.build? subject.spec subject.ns tag t = none) :
      Attempt m subject s tag t [] (.ok .notConfigured) s
  | inFlight {request : RunRequest} {record : Repository.RunRecord} {run : RunState}
      (hbuild : RunRequest.build? subject.spec subject.ns tag t = some request)
      (hrecord : s.run? tag t = some record) (hflight : isInFlight m.now record run = true) :
      Attempt m subject s tag t [lookedUp subject.ns record.name (.ok run)] (.ok .inFlight) s
  | failed {request : RunRequest} {looked : List Exchanged}
      (hbuild : RunRequest.build? subject.spec subject.ns tag t = some request)
      (hsettled : Settled m.now subject.ns (s.run? tag t) looked) (error : RunnerError) :
      Attempt m subject s tag t (looked ++ [⟨.createRun request, .error error⟩]) (.error error) s
  | created {request : RunRequest} {looked : List Exchanged}
      (hbuild : RunRequest.build? subject.spec subject.ns tag t = some request)
      (hsettled : Settled m.now subject.ns (s.run? tag t) looked) (run : RunState) :
      Attempt m subject s tag t
        (looked ++ [⟨.createRun request, .ok run⟩,
          told subject.reference
            (.runScheduled run.name (Repository.countAfter (s.run? tag t)).toNat tag)])
        (.ok .created) (s.recordRun tag t run.name (run.createdAt.getD m.now))

theorem ends_previousInFlight_iff {now : Instant} {ns : String}
    {record : Option Repository.RunRecord} {inFlight : Bool} {exchanges : List Exchanged} :
    Ends (previousInFlight now ns record) exchanges inFlight ↔
      if inFlight then
        ∃ r run, record = some r ∧ isInFlight now r run = true ∧
          exchanges = [lookedUp ns r.name (.ok run)]
      else Settled now ns record exchanges := by
  cases record with
  | none =>
      cases inFlight with
      | true => simp [previousInFlight]
      | false =>
          simp only [previousInFlight, monad_pure, ends_done_iff]
          constructor
          · rintro ⟨rfl, -⟩
            exact .unrecorded
          · rintro ⟨⟩
            exact ⟨rfl, trivial⟩
  | some record =>
      simp only [previousInFlight, monad_bind, monad_pure, ends_bind_iff, ends_findRun_iff]
      constructor
      · rintro ⟨_, _, answer, rfl, rfl, hsecond⟩
        cases answer with
        | error error =>
            obtain ⟨rfl, rfl⟩ := ends_done_iff.mp hsecond
            exact .failed record error
        | ok run =>
            obtain ⟨rfl, rfl⟩ := ends_done_iff.mp hsecond
            split
            next hflight => exact ⟨record, run, rfl, hflight, rfl⟩
            next hover => exact .ended record run (by simpa using hover)
      · cases inFlight with
        | true =>
            rintro ⟨r, run, hrecord, hflight, rfl⟩
            cases hrecord
            exact ⟨_, [], .ok run, rfl, rfl, ends_done_iff.mpr ⟨rfl, hflight.symm⟩⟩
        | false =>
            intro hsettled
            cases hsettled with
            | failed _ error => exact ⟨_, [], .error error, rfl, rfl, .done _⟩
            | ended _ run hover =>
                exact ⟨_, [], .ok run, rfl, rfl, ends_done_iff.mpr ⟨rfl, hover.symm⟩⟩

theorem ends_recordCreated_iff {now : Instant} {subject : Subject} {s s' : Repository.Status}
    {tag : String} {t : ArtifactType} {run : RunState} {exchanges : List Exchanged} :
    Ends (recordCreated now subject s tag t run) exchanges s' ↔
      exchanges = [told subject.reference
          (.runScheduled run.name (Repository.countAfter (s.run? tag t)).toNat tag)] ∧
        s' = s.recordRun tag t run.name (run.createdAt.getD now) := by
  have hcount : ((s.recordRun tag t run.name (run.createdAt.getD now)).run? tag t).elim 1
      (fun record => record.runsCreated.toNat) =
      (Repository.countAfter (s.run? tag t)).toNat := by
    simp [Repository.Status.run?_recordRun]
  simp only [recordCreated, hcount, monad_bind, monad_pure, ends_bind_iff, ends_publish_iff,
    ends_done_iff]
  constructor
  · rintro ⟨_, _, _, rfl, rfl, rfl, rfl⟩
    exact ⟨rfl, rfl⟩
  · rintro ⟨rfl, rfl⟩
    exact ⟨_, [], (), rfl, rfl, rfl, rfl⟩

theorem ends_createRun_iff {request : RunRequest} {answer : Except RunnerError RunState}
    {exchanges : List Exchanged} :
    Ends (createRun request) exchanges answer ↔ exchanges = [⟨.createRun request, answer⟩] :=
  ends_question_iff

/-- Scheduling a pair goes in one of four ways. -/
theorem ends_schedule_iff {m : Moment} {subject : Subject} {s s' : Repository.Status} {tag : String}
    {t : ArtifactType} {outcome : Except RunnerError RunOutcome} {exchanges : List Exchanged} :
    Ends (schedule m subject s tag t) exchanges (outcome, s') ↔
      Attempt m subject s tag t exchanges outcome s' := by
  rw [schedule]
  -- whether there is anything to request is settled before anything is asked
  split
  next hbuild =>
    constructor
    · intro hends
      obtain ⟨rfl, hvalue⟩ := ends_done_iff.mp hends
      cases hvalue
      exact .notConfigured hbuild
    · intro hattempt
      cases hattempt with
      | notConfigured => exact .done _
      | inFlight hsome => simp [hbuild] at hsome
      | failed hsome => simp [hbuild] at hsome
      | created hsome => simp [hbuild] at hsome
  next request hbuild =>
    simp only [monad_bind, monad_pure, ends_bind_iff, ends_previousInFlight_iff]
    constructor
    · rintro ⟨looked, rest, inFlight, rfl, hlooked, hrest⟩
      -- a run in flight ends the turn, otherwise the request is made and answered
      cases inFlight with
      | true =>
          obtain ⟨record, run, hrecord, hflight, rfl⟩ := hlooked
          obtain ⟨rfl, hvalue⟩ := ends_done_iff.mp hrest
          cases hvalue
          exact .inFlight hbuild hrecord hflight
      | false =>
          simp only [Bool.false_eq_true, ↓reduceIte, ends_bind_iff,
            ends_createRun_iff] at hlooked hrest
          obtain ⟨_, _, answer, rfl, rfl, hrest⟩ := hrest
          cases answer with
          | error error =>
              obtain ⟨rfl, hvalue⟩ := ends_done_iff.mp hrest
              cases hvalue
              exact .failed hbuild hlooked error
          | ok run =>
              simp only [ends_bind_iff, ends_recordCreated_iff, ends_done_iff] at hrest
              obtain ⟨_, _, _, rfl, ⟨rfl, rfl⟩, rfl, hvalue⟩ := hrest
              cases hvalue
              exact .created hbuild hlooked run
    · intro hattempt
      cases hattempt with
      | notConfigured hnone => simp [hbuild] at hnone
      | inFlight _ hrecord hflight =>
          exact ⟨_, [], true, rfl, ⟨_, _, hrecord, hflight, rfl⟩, .done _⟩
      | failed hsome hsettled error =>
          obtain rfl : request = _ := Option.some.inj (hbuild.symm.trans hsome)
          refine ⟨_, _, false, rfl, hsettled, ?_⟩
          simp only [Bool.false_eq_true, ↓reduceIte, ends_bind_iff, ends_createRun_iff]
          exact ⟨_, [], .error error, rfl, rfl, .done _⟩
      | created hsome hsettled run =>
          obtain rfl : request = _ := Option.some.inj (hbuild.symm.trans hsome)
          refine ⟨_, _, false, rfl, hsettled, ?_⟩
          simp only [Bool.false_eq_true, ↓reduceIte, ends_bind_iff, ends_createRun_iff]
          refine ⟨_, _, .ok run, rfl, rfl, ?_⟩
          simp only [ends_bind_iff, ends_recordCreated_iff, ends_done_iff]
          exact ⟨_, [], _, rfl, ⟨rfl, rfl⟩, rfl, rfl⟩

/-- The turn of a release and a kind of artifact that it lacks. -/
structure Turn (m : Moment) (subject : Subject) where
  tag : String
  type : ArtifactType
  before : Repository.Status
  exchanges : List Exchanged
  outcome : Except RunnerError RunOutcome
  after : Repository.Status
  lacking : (before.release tag).isMissing type = true
  attempt : Attempt m subject before tag type exchanges outcome after

/-- The turns of pairs in their order. A pair that lacks nothing is passed over. -/
inductive Turns (m : Moment) (subject : Subject) :
    List (String × ArtifactType) → Repository.Status → List (Turn m subject) →
      Repository.Status → Prop
  | nil (s : Repository.Status) : Turns m subject [] s [] s
  | pass {tag : String} {t : ArtifactType} {rest : List (String × ArtifactType)}
      {s s' : Repository.Status} {turns : List (Turn m subject)}
      (hpresent : (s.release tag).isMissing t = false) (hrest : Turns m subject rest s turns s') :
      Turns m subject ((tag, t) :: rest) s turns s'
  | take {rest : List (String × ArtifactType)} {s' : Repository.Status}
      {turns : List (Turn m subject)} (turn : Turn m subject)
      (hrest : Turns m subject rest turn.after turns s') :
      Turns m subject ((turn.tag, turn.type) :: rest) turn.before (turn :: turns) s'

theorem ends_scheduleAll_iff {m : Moment} {subject : Subject} {pairs : List (String × ArtifactType)}
    {s s' : Repository.Status} {outcomes : List (Except RunnerError RunOutcome)}
    {exchanges : List Exchanged} :
    Ends (scheduleAll m subject pairs s) exchanges (outcomes, s') ↔
      ∃ turns : List (Turn m subject), Turns m subject pairs s turns s' ∧
        exchanges = turns.flatMap Turn.exchanges ∧ outcomes = turns.map Turn.outcome := by
  induction pairs generalizing s s' outcomes exchanges with
  | nil =>
      simp only [scheduleAll, monad_pure, ends_done_iff, Prod.mk.injEq]
      constructor
      · rintro ⟨rfl, rfl, rfl⟩
        exact ⟨[], .nil s', rfl, rfl⟩
      · rintro ⟨turns, hturns, rfl, rfl⟩
        cases hturns
        exact ⟨rfl, rfl, rfl⟩
  | cons pair rest ih =>
      obtain ⟨tag, t⟩ := pair
      simp only [scheduleAll, monad_bind, monad_pure]
      split
      next hmissing =>
        simp only [ends_bind_iff, ends_done_iff, Prod.exists, ends_schedule_iff, ih, Prod.mk.injEq]
        constructor
        · rintro ⟨first, _, outcome, middle, rfl, hattempt, second, _, _, _, rfl,
            ⟨turns, hturns, rfl, rfl⟩, rfl, rfl, rfl⟩
          -- the pair lacks its artifact, so what was asked first is its turn
          let turn : Turn m subject := ⟨tag, t, s, first, outcome, middle, hmissing, hattempt⟩
          exact ⟨turn :: turns, .take turn hturns, by simp [turn], rfl⟩
        · rintro ⟨turns, hturns, rfl, rfl⟩
          cases hturns with
          | pass hpresent => simp [hmissing] at hpresent
          | take turn hrest =>
              exact ⟨turn.exchanges, _, turn.outcome, turn.after, rfl, turn.attempt, _, [], _, s',
                (List.append_nil _).symm, ⟨_, hrest, rfl, rfl⟩, rfl, rfl, rfl⟩
      next hpresent =>
        rw [ih]
        constructor
        · rintro ⟨turns, hturns, rfl, rfl⟩
          exact ⟨turns, .pass (by simpa using hpresent) hturns, rfl, rfl⟩
        · rintro ⟨turns, hturns, rfl, rfl⟩
          cases hturns with
          | pass _ hrest => exact ⟨turns, hrest, rfl, rfl⟩
          | take turn => exact absurd turn.lacking hpresent

theorem mem_pairs_iff {tags : List String} {tag : String} {t : ArtifactType} :
    (tag, t) ∈ pairs tags ↔ tag ∈ tags := by
  simp only [pairs, List.mem_flatMap, List.mem_map, Prod.mk.injEq]
  constructor
  · rintro ⟨_, htag, _, _, rfl, rfl⟩
    exact htag
  · intro htag
    exact ⟨tag, htag, t, by cases t <;> simp [ArtifactType.all], rfl, rfl⟩

section Turns

variable {m : Moment} {subject : Subject} {s s' : Repository.Status} {tag : String}
  {t : ArtifactType} {exchanges : List Exchanged} {outcome : Except RunnerError RunOutcome}
  {pairs : List (String × ArtifactType)} {turns : List (Turn m subject)}

/-- A turn leaves the flags of all releases as they were. -/
theorem Attempt.missing (hattempt : Attempt m subject s tag t exchanges outcome s')
    (other : String) : (s'.release other).missing = (s.release other).missing := by
  cases hattempt with
  | notConfigured => rfl
  | inFlight => rfl
  | failed => rfl
  | created => exact Repository.Status.missing_recordRun ..

/-- Looking up the previous run requests nothing. -/
theorem Settled.call_eq {now : Instant} {ns : String} {record : Option Repository.RunRecord}
    {looked : List Exchanged} (hsettled : Settled now ns record looked) {x : Exchanged}
    (hx : x ∈ looked) :
    ∃ r answer, record = some r ∧ x = lookedUp ns r.name answer := by
  cases hsettled with
  | unrecorded => simp at hx
  | failed r error => exact ⟨r, .error error, rfl, by simpa using hx⟩
  | ended r run => exact ⟨r, .ok run, rfl, by simpa using hx⟩

theorem Settled.filterMap_eq_nil {now : Instant} {ns : String}
    {record : Option Repository.RunRecord} {looked : List Exchanged} {α : Type}
    {f : Exchanged → Option α} (hsettled : Settled now ns record looked)
    (hf : ∀ name answer, f (lookedUp ns name answer) = none) : looked.filterMap f = [] := by
  apply List.filterMap_eq_nil_iff.mpr
  intro x hx
  obtain ⟨_, _, -, rfl⟩ := hsettled.call_eq hx
  exact hf ..

/-- What can be asked in the turn of a release and a kind. -/
inductive Asks (subject : Subject) (tag : String) (t : ArtifactType) : Exchanged → Prop
  | run (name : String) (answer : Except RunnerError RunState) :
      Asks subject tag t (lookedUp subject.ns name answer)
  | request {request : RunRequest} (answer : Except RunnerError RunState)
      (hbuild : RunRequest.build? subject.spec subject.ns tag t = some request) :
      Asks subject tag t ⟨.createRun request, answer⟩
  | notice (run : String) (count : Nat) :
      Asks subject tag t (told subject.reference (.runScheduled run count tag))

theorem Attempt.asks (hattempt : Attempt m subject s tag t exchanges outcome s') {x : Exchanged}
    (hx : x ∈ exchanges) : Asks subject tag t x := by
  cases hattempt with
  | notConfigured => exact absurd hx List.not_mem_nil
  | inFlight =>
      obtain rfl := List.mem_singleton.mp hx
      exact .run _ _
  | failed hbuild hsettled error =>
      rcases List.mem_append.mp hx with hx | hx
      · obtain ⟨_, _, -, rfl⟩ := hsettled.call_eq hx
        exact .run _ _
      · obtain rfl := List.mem_singleton.mp hx
        exact .request _ hbuild
  | created hbuild hsettled run =>
      simp only [List.mem_append, List.mem_cons, List.not_mem_nil, or_false] at hx
      rcases hx with hx | rfl | rfl
      · obtain ⟨_, _, -, rfl⟩ := hsettled.call_eq hx
        exact .run _ _
      · exact .request _ hbuild
      · exact .notice _ _

/-- A turn only makes the request that the spec asks for. -/
theorem Attempt.build?_of_mem (hattempt : Attempt m subject s tag t exchanges outcome s')
    {request : RunRequest} {answer : Except RunnerError RunState}
    (hmem : (⟨.createRun request, answer⟩ : Exchanged) ∈ exchanges) :
    RunRequest.build? subject.spec subject.ns tag t = some request := by
  generalize hx : (⟨.createRun request, answer⟩ : Exchanged) = x at hmem
  cases hattempt.asks hmem with
  | run => cases hx
  | request _ hbuild =>
      cases hx
      exact hbuild
  | notice => cases hx

/-- Turns are only taken by the given pairs. -/
theorem Turns.pair_mem (hturns : Turns m subject pairs s turns s') {turn : Turn m subject}
    (hturn : turn ∈ turns) : (turn.tag, turn.type) ∈ pairs := by
  induction hturns with
  | nil => simp at hturn
  | pass _ _ ih => exact List.mem_cons_of_mem _ (ih hturn)
  | take first _ ih =>
      rcases List.mem_cons.mp hturn with rfl | hturn
      · exact List.mem_cons_self
      · exact List.mem_cons_of_mem _ (ih hturn)

/-- A property that every turn keeps holds before every turn and at the end. -/
theorem Turns.invariant {P : Repository.Status → Prop} (hturns : Turns m subject pairs s turns s')
    (hstart : P s) (hstep : ∀ turn ∈ turns, P turn.before → P turn.after) :
    P s' ∧ ∀ turn ∈ turns, P turn.before := by
  induction hturns with
  | nil => exact ⟨hstart, by simp⟩
  | pass _ _ ih => exact ih hstart hstep
  | take first _ ih =>
      obtain ⟨hend, hrest⟩ := ih (hstep first List.mem_cons_self hstart)
        fun turn hturn => hstep turn (List.mem_cons_of_mem _ hturn)
      exact ⟨hend, List.forall_mem_cons.mpr ⟨hstart, hrest⟩⟩

/-- Every turn finds the flags as they were before the first turn. -/
theorem Turns.missing (hturns : Turns m subject pairs s turns s') {turn : Turn m subject}
    (hturn : turn ∈ turns) (other : String) :
    (turn.before.release other).missing = (s.release other).missing := by
  have hkept := hturns.invariant
    (P := fun now => (now.release other).missing = (s.release other).missing) rfl ?_
  · exact hkept.2 turn hturn
  · intro turn _ hbefore
    rw [turn.attempt.missing, hbefore]

end Turns

end ReleaseBuilds.Cycle
