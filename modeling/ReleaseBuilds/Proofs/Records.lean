import ReleaseBuilds.Proofs.Round

/-!
# What becomes of the records of runs

In a round a record is dropped by the cleanup or replaced in a turn of its own release and kind,
and by nothing else. A record that is gone at the first turn was found stale by a lookup in the
same round.
-/

namespace ReleaseBuilds.Cycle

open Dialogue

/-- Those of the pairs that are flagged as lacking their artifact, in their order. -/
def lackingPairs (s : Repository.Status) (pairs : List (String × ArtifactType)) :
    List (String × ArtifactType) :=
  pairs.filter fun pair => (s.release pair.1).isMissing pair.2

section Turns

variable {m : Moment} {subject : Subject} {s s' : Repository.Status} {tag : String}
  {t : ArtifactType} {exchanges : List Exchanged} {outcome : Except RunnerError RunOutcome}
  {pairs : List (String × ArtifactType)} {turns : List (Turn m subject)}

/-- The release and the kind of artifact whose turn it is. -/
def Turn.pair (turn : Turn m subject) : String × ArtifactType := (turn.tag, turn.type)

/-- A run is requested in the turn, whatever comes of it. -/
def Turn.Requests (turn : Turn m subject) : Prop :=
  ∃ request answer, (⟨.createRun request, answer⟩ : Exchanged) ∈ turn.exchanges

/-- A turn leaves the records of all other releases and kinds as they were. -/
theorem Attempt.run?_of_ne (hattempt : Attempt m subject s tag t exchanges outcome s')
    {other : String} {u : ArtifactType} (hne : (tag, t) ≠ (other, u)) :
    s'.run? other u = s.run? other u := by
  cases hattempt with
  | notConfigured => rfl
  | inFlight => rfl
  | failed => rfl
  | created =>
      rw [Repository.Status.run?_recordRun, if_neg]
      rintro ⟨rfl, rfl⟩
      exact hne rfl

theorem lackingPairs_congr
    (hflags : ∀ tag, (s'.release tag).missing = (s.release tag).missing) :
    lackingPairs s' pairs = lackingPairs s pairs := by
  apply List.filter_congr
  intro pair _
  rw [Repository.ReleaseStatus.isMissing, hflags, Repository.ReleaseStatus.isMissing]

/-- The pairs that are flagged before all turns take the turns, in their order, and no others. -/
theorem Turns.map_pair_eq (hturns : Turns m subject pairs s turns s') :
    turns.map Turn.pair = lackingPairs s pairs := by
  induction hturns with
  | nil => rfl
  | pass hpresent _ ih =>
      rw [ih, lackingPairs, lackingPairs, List.filter_cons_of_neg (by simp [hpresent])]
  | @take rest _ _ turn _ ih =>
      -- the flags are the same for the turns after the first one
      have hfirst : lackingPairs turn.before (turn.pair :: rest) =
          turn.pair :: lackingPairs turn.before rest := List.filter_cons_of_pos turn.lacking
      rw [List.map_cons, ih, lackingPairs_congr turn.attempt.missing]
      exact hfirst.symm

/-- A pair that is flagged as lacking takes a turn. -/
theorem Turns.exists_turn (hturns : Turns m subject pairs s turns s') (hpair : (tag, t) ∈ pairs)
    (hmissing : (s.release tag).isMissing t = true) : ∃ turn ∈ turns, turn.pair = (tag, t) := by
  have hmem : (tag, t) ∈ turns.map Turn.pair := by
    rw [hturns.map_pair_eq]
    exact List.mem_filter.mpr ⟨hpair, hmissing⟩
  exact List.mem_map.mp hmem

/-- Turns are taken in the order of the pairs, each as often as it is listed at most. -/
theorem Turns.map_pair_sublist (hturns : Turns m subject pairs s turns s') :
    (turns.map Turn.pair).Sublist pairs := by
  rw [hturns.map_pair_eq]
  exact List.filter_sublist

/-- A pair is listed as often as its tag. -/
theorem count_pairs (tags : List String) : (Cycle.pairs tags).count (tag, t) = tags.count tag := by
  induction tags with
  | nil => rfl
  | cons first rest ih =>
      have hfirst : (ArtifactType.all.map fun u => (first, u)).count (tag, t) =
          if first == tag then 1 else 0 := by
        cases t <;> by_cases heq : first = tag <;> simp [ArtifactType.all, heq]
      rw [Cycle.pairs, List.flatMap_cons, List.count_append, hfirst, List.count_cons, Nat.add_comm]
      exact congrArg (· + _) ih

/-- The first turn of a release and a kind finds the record that was there before all turns. -/
theorem Turns.exists_first (hturns : Turns m subject pairs s turns s')
    (hturn : ∃ turn ∈ turns, turn.pair = (tag, t)) :
    ∃ turn ∈ turns, turn.pair = (tag, t) ∧ turn.before.run? tag t = s.run? tag t := by
  induction hturns with
  | nil => simp at hturn
  | pass _ _ ih => exact ih hturn
  | take first _ ih =>
      by_cases hfirst : first.pair = (tag, t)
      · exact ⟨first, List.mem_cons_self, hfirst, rfl⟩
      · -- the turn of another pair leaves the record to the turns after it
        obtain ⟨turn, hmem, hpair⟩ := hturn
        rcases List.mem_cons.mp hmem with rfl | hmem
        · exact absurd hpair hfirst
        · obtain ⟨turn, hmem, hpair, hrecord⟩ := ih ⟨turn, hmem, hpair⟩
          refine ⟨turn, List.mem_cons_of_mem _ hmem, hpair, ?_⟩
          rw [hrecord, first.attempt.run?_of_ne hfirst]

end Turns

/-! ## Rounds -/

/-- What a cycle observes before scheduling says nothing about releases. -/
theorem releases_reported_narrowed (m : Moment) (spec : Repository.Spec)
    (cleaned : Repository.Status) (errors : List GithubError) :
    (reported m (narrowed m spec cleaned) errors).releases = cleaned.releases := by
  have hnarrowed : (narrowed m spec cleaned).releases = cleaned.releases := by
    unfold narrowed
    cases (builtFilter spec).2 <;> rfl
  unfold reported
  split
  next => exact hnarrowed
  next => exact hnarrowed

/-- The records are the same before the lookups of artifacts and when scheduling begins. -/
theorem run?_flagged (m : Moment) (spec : Repository.Spec) (cleaned : Repository.Status)
    (lookups : List Lookup) (tag : String) (t : ArtifactType) :
    (flagged m spec cleaned lookups).run? tag t = cleaned.run? tag t := by
  rw [flagged, Repository.Status.run?_takeUp, Repository.Status.run?, Repository.Status.release,
    releases_reported_narrowed]
  rfl

/-- A record that the cleanup drops was found stale. -/
theorem run?_of_ends_cleanup {m : Moment} {subject : Subject} {s cleaned : Repository.Status}
    {exchanges : List Exchanged} (hends : Ends (cleanup m subject s) exchanges cleaned)
    (tag : String) (t : ArtifactType) :
    cleaned.run? tag t = s.run? tag t ∨ cleaned.run? tag t = none ∧
      ∃ record answer, s.run? tag t = some record ∧ isStale m.now answer = true ∧
        lookedUp subject.ns record.name answer ∈ exchanges := by
  obtain ⟨answers, hruns, rfl, rfl⟩ := ends_cleanup_iff.mp hends
  rw [Repository.Status.run?_dropRuns]
  split
  next hdropped =>
    obtain ⟨run, hmem, rfl, rfl⟩ := hdropped
    obtain ⟨answer, hanswer, rfl⟩ := List.mem_map.mp hmem
    obtain ⟨hanswer, hstale⟩ := List.mem_filter.mp hanswer
    have hrecord := (Repository.Status.mem_recordedRuns_iff s).mp
      (hruns ▸ List.mem_map_of_mem hanswer)
    exact .inr ⟨rfl, answer.1.record, answer.2, hrecord, hstale,
      List.mem_map.mpr ⟨answer, hanswer, rfl⟩⟩
  next => exact .inl rfl

/-- Every record is looked up by the cleanup, and dropped if it is found stale. -/
theorem run?_cleanup_of_isStale {m : Moment} {subject : Subject} {s cleaned : Repository.Status}
    {exchanges : List Exchanged} (hends : Ends (cleanup m subject s) exchanges cleaned)
    {tag : String} {t : ArtifactType} {record : Repository.RunRecord}
    (hrecord : s.run? tag t = some record) :
    ∃ answer, lookedUp subject.ns record.name answer ∈ exchanges ∧
      (isStale m.now answer = true → cleaned.run? tag t = none) := by
  obtain ⟨answers, hruns, rfl, rfl⟩ := ends_cleanup_iff.mp hends
  have hlisted := (Repository.Status.mem_recordedRuns_iff s (r := ⟨tag, t, record⟩)).mpr hrecord
  rw [← hruns] at hlisted
  obtain ⟨answer, hanswer, hrun⟩ := List.mem_map.mp hlisted
  refine ⟨answer.2, List.mem_map.mpr ⟨answer, hanswer, by rw [hrun]⟩, fun hstale => ?_⟩
  rw [Repository.Status.run?_dropRuns, if_pos]
  exact ⟨_, List.mem_map.mpr ⟨answer, List.mem_filter.mpr ⟨hanswer, hstale⟩, hrun⟩, rfl, rfl⟩

/-- What a round does to the records, from the first turn to the last. -/
structure Round.Records {ns name : String} (round : Round ns name)
    (first last : Repository.Status) : Prop where
  turns : ∃ pairs, Turns round.moment round.subject pairs first round.turns last
  /-- What is gone before the first turn was found stale. -/
  kept_or_stale : ∀ tag t, first.run? tag t = round.repository.known.run? tag t ∨
    first.run? tag t = none ∧ ∃ record answer, round.repository.known.run? tag t = some record ∧
      isStale round.now answer = true ∧ lookedUp ns record.name answer ∈ round.opening
  /-- If there are turns, what is found stale before them is gone. -/
  stale_dropped : round.turns ≠ [] → ∀ tag t record,
    round.repository.known.run? tag t = some record →
      ∃ answer, lookedUp ns record.name answer ∈ round.opening ∧
        (isStale round.now answer = true → first.run? tag t = none)
  saved : ∀ tag t, round.status.run? tag t = last.run? tag t

theorem Round.exists_records {ns name : String} (round : Round ns name) :
    ∃ first last, round.Records first last := by
  obtain ⟨c, m, repository, account, opening, delay, status, saved, hcourse⟩ := round
  -- a cycle that ends early takes no turns, and only its cleanup, if there is one, drops records
  cases hcourse with
  | pipelinesUnavailable =>
      refine ⟨repository.known, repository.known, ⟨[], .nil _⟩, fun _ _ => .inl rfl, ?_,
        fun _ _ => rfl⟩
      exact fun h => absurd rfl h
  | @releasesNotFetched checks cleaning cleaned _ hcleaning =>
      refine ⟨cleaned, cleaned, ⟨[], .nil _⟩, fun tag t => ?_, fun h => absurd rfl h,
        fun _ _ => rfl⟩
      rcases run?_of_ends_cleanup hcleaning tag t with
        hkept | ⟨hnone, record, answer, hrecord, hstale, hmem⟩
      · exact .inl hkept
      · exact .inr ⟨hnone, record, answer, hrecord, hstale,
          List.mem_append_left _ (List.mem_append_right _ hmem)⟩
  | @built checks cleaning looking cleaned last releases lookups turns _ hcleaning _ hturns =>
      refine ⟨_, last, ⟨_, hturns⟩, fun tag t => ?_, fun _ tag t record hrecord => ?_,
        fun _ _ => rfl⟩
      · rw [run?_flagged]
        rcases run?_of_ends_cleanup hcleaning tag t with
          hkept | ⟨hnone, record, answer, hrecord, hstale, hmem⟩
        · exact .inl hkept
        · exact .inr ⟨hnone, record, answer, hrecord, hstale,
            List.mem_append_left _ (List.mem_append_right _ hmem)⟩
      · obtain ⟨answer, hmem, hdropped⟩ := run?_cleanup_of_isStale hcleaning hrecord
        refine ⟨answer, List.mem_append_left _ (List.mem_append_right _ hmem), fun hstale => ?_⟩
        rw [run?_flagged]
        exact hdropped hstale

end ReleaseBuilds.Cycle
