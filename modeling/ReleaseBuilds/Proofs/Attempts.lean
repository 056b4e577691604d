import Mathlib.Order.Nat
import ReleaseBuilds.Proofs.Decision
import ReleaseBuilds.Proofs.Isolation

/-!
# Which attempts are counted

How long a repository waits after failed creations depends on the highest count of runs that is on
record for the releases of the cycle. All their records are looked at. Those of pairs that take no
turn, because their artifact is there or was never looked for, count like those of the others.
-/

namespace ReleaseBuilds.Cycle

open Dialogue

open Repository (attemptsOf)

/-! ## The highest count of several pairs -/

/-- The highest count of runs that the record of any of the pairs shows. -/
def highestOf (s : Repository.Status) (pairs : List (String × ArtifactType)) : Nat :=
  (pairs.map fun pair => attemptsOf (s.run? pair.1 pair.2)).foldl Nat.max 0

section Highest

variable {s s' : Repository.Status} {pairs : List (String × ArtifactType)} {n : Nat}

theorem foldl_max_le_iff {counts : List Nat} {start : Nat} :
    counts.foldl Nat.max start ≤ n ↔ start ≤ n ∧ ∀ count ∈ counts, count ≤ n := by
  induction counts generalizing start with
  | nil => simp
  | cons first rest ih =>
      rw [List.foldl_cons, ih, List.forall_mem_cons, ← and_assoc]
      exact and_congr_left fun _ => Nat.max_le

theorem highestOf_le_iff :
    highestOf s pairs ≤ n ↔ ∀ pair ∈ pairs, attemptsOf (s.run? pair.1 pair.2) ≤ n := by
  rw [highestOf, foldl_max_le_iff, List.forall_mem_map]
  exact and_iff_right (Nat.zero_le _)

theorem highestOf_congr (hrecords : ∀ pair ∈ pairs, s'.run? pair.1 pair.2 = s.run? pair.1 pair.2) :
    highestOf s' pairs = highestOf s pairs := by
  rw [highestOf, highestOf, List.map_congr_left]
  intro pair hpair
  rw [hrecords pair hpair]

/-- The highest count is that of the pairs with a property or that of the others. -/
theorem highestOf_filter (p : String × ArtifactType → Bool) :
    highestOf s pairs =
      max (highestOf s (pairs.filter p)) (highestOf s (pairs.filter fun pair => !p pair)) := by
  apply eq_of_forall_ge_iff
  intro n
  simp only [Nat.max_le, highestOf_le_iff, List.mem_filter, Bool.not_eq_true']
  constructor
  · intro hall
    exact ⟨fun pair hpair => hall pair hpair.1, fun pair hpair => hall pair hpair.1⟩
  · rintro ⟨hwith, hwithout⟩ pair hpair
    cases hp : p pair with
    | true => exact hwith pair ⟨hpair, hp⟩
    | false => exact hwithout pair ⟨hpair, hp⟩

/-- The counts of a release are bounded as those of its two kinds are. -/
theorem forall_values_le_iff {r : Repository.ReleaseStatus} :
    (∀ record ∈ (r.runs.getD {}).values, record.runsCreated.toNat ≤ n) ↔
      ∀ t, attemptsOf (r.run? t) ≤ n := by
  have hrun (t : ArtifactType) : r.run? t = (r.runs.getD {}).get? t := by
    rw [Repository.ReleaseStatus.run?]
    cases r.runs with
    | none => exact (PerArtifact.get?_empty t).symm
    | some runs => rfl
  constructor
  · intro hvalues t
    cases hrecord : r.run? t with
    | none => exact Nat.zero_le _
    | some record =>
        rw [hrun] at hrecord
        exact hvalues record (List.mem_map.mpr ⟨_, PerArtifact.mem_toList_iff.mpr hrecord, rfl⟩)
  · intro hkinds record hmem
    obtain ⟨⟨t, found⟩, hfound, rfl⟩ := List.mem_map.mp hmem
    have hle := hkinds t
    rw [hrun, PerArtifact.mem_toList_iff.mp hfound] at hle
    exact hle

theorem mostAttempts_eq (s : Repository.Status) (tags : List String) :
    mostAttempts s tags = highestOf s (Cycle.pairs tags) := by
  apply eq_of_forall_ge_iff
  intro n
  rw [highestOf_le_iff]
  refine foldl_max_le_iff.trans ?_
  constructor
  · rintro ⟨-, hcounts⟩ ⟨tag, t⟩ hpair
    refine forall_values_le_iff.mp (fun record hrecord => ?_) t
    exact hcounts _ (List.mem_flatMap.mpr
      ⟨tag, mem_pairs_iff.mp hpair, List.mem_map.mpr ⟨record, hrecord, rfl⟩⟩)
  · intro hpairs
    refine ⟨Nat.zero_le _, fun count hcount => ?_⟩
    obtain ⟨tag, htag, hcount⟩ := List.mem_flatMap.mp hcount
    obtain ⟨record, hrecord, rfl⟩ := List.mem_map.mp hcount
    exact forall_values_le_iff.mpr (fun t => hpairs (tag, t) (mem_pairs_iff.mpr htag)) record hrecord

end Highest

/-! ## Pairs that take a turn and pairs that do not -/

/-- Those of the pairs that are not flagged as lacking their artifact. -/
def passedOverPairs (s : Repository.Status) (pairs : List (String × ArtifactType)) :
    List (String × ArtifactType) :=
  pairs.filter fun pair => !(s.release pair.1).isMissing pair.2

/-- After the turns the highest count is that of the pairs that took them, or the one that was there
before among the pairs that were passed over. -/
theorem Turns.mostAttempts_eq {m : Moment} {subject : Subject} {tags : List String}
    {s s' : Repository.Status} {turns : List (Turn m subject)}
    (hturns : Turns m subject (pairs tags) s turns s') :
    mostAttempts s' tags =
      max (highestOf s' (lackingPairs s (pairs tags)))
        (highestOf s (passedOverPairs s (pairs tags))) := by
  have hpassed : highestOf s' (passedOverPairs s (pairs tags)) =
      highestOf s (passedOverPairs s (pairs tags)) := by
    apply highestOf_congr
    intro pair hpair
    apply hturns.run?_of_notMem
    -- a pair that takes a turn is flagged
    rw [hturns.map_pair_eq, lackingPairs, List.mem_filter]
    rintro ⟨-, hmissing⟩
    have hpresent := (List.mem_filter.mp hpair).2
    rw [hmissing] at hpresent
    cases hpresent
  rw [Cycle.mostAttempts_eq, highestOf_filter fun pair => (s.release pair.1).isMissing pair.2,
    ← hpassed]
  rfl

/-- With any world scheduling ends, and the count that decides about the delay is the higher one of
two: what is on record for the pairs that took a turn, and what was on record for those that were
passed over. It is the count of the attempted pairs exactly if no pair that was passed over shows
more. -/
theorem mostAttempts_eq_attempted_iff {σ : Type} (m : Moment) (subject : Subject)
    (tags : List String) (s : Repository.Status) (world : World Call Call.Answer σ) (start : σ) :
    ∃ outcomes s' exchanges last,
      (scheduleAll m subject (pairs tags) s).hold world start = ((outcomes, s'), exchanges, last) ∧
        mostAttempts s' tags =
          max (highestOf s' (lackingPairs s (pairs tags)))
            (highestOf s (passedOverPairs s (pairs tags))) ∧
        (mostAttempts s' tags = highestOf s' (lackingPairs s (pairs tags)) ↔
          ∀ pair ∈ passedOverPairs s (pairs tags),
            attemptsOf (s.run? pair.1 pair.2) ≤ highestOf s' (lackingPairs s (pairs tags))) := by
  have hends := ends_hold world (scheduleAll m subject (pairs tags) s) start
  obtain ⟨turns, hturns, -, -⟩ := ends_scheduleAll_iff.mp hends
  have hmost := hturns.mostAttempts_eq
  refine ⟨_, _, _, _, rfl, hmost, ?_⟩
  rw [hmost, ← highestOf_le_iff]
  omega

/-! ## A record that is left over -/

/-- Half an hour before noon. -/
def halfPastEleven : Instant :=
  { noon with second := 1717241400, inRange := by decide, leap := by decide }

/-- A fifth run for the image of a release. -/
def fifthImage : Repository.RunRecord := ⟨"image-5", halfPastEleven, ⟨5, by decide⟩⟩

/-- A release without assets, on record with five runs for its image. -/
def leftoverStatus : Repository.Status :=
  { releases := TextMap.empty.insert "v1"
      { missing := { assets := some true }, runs := some { container := some fifthImage } } }

theorem ends_cleanup_leftover :
    Ends (cleanup (.plain noon) (singleSubject (some leftoverStatus))
        (begin noon (Repository.single (some leftoverStatus)).known))
      [lookedUp "ci" "image-5" (.ok { name := "image-5", createdAt := some halfPastEleven })]
      (begin noon leftoverStatus) := by
  refine ends_cleanup_iff.mpr ⟨[(⟨"v1", .container, fifthImage⟩,
    .ok { name := "image-5", createdAt := some halfPastEleven })], rfl, rfl, ?_⟩
  decide +kernel

/-- A round in which the first run for the assets of this release is refused. -/
def leftoverRound : Round "ci" "app" :=
  .single noon (some leftoverStatus) _ ends_cleanup_leftover
    (.failed rfl .unrecorded .createUnauthorized)

/-- No run is on record for the only pair that takes a turn, and the repository waits for over an
hour, as after five attempts, instead of the five minutes that go with none. -/
theorem mostAttempts_leftoverRound :
    leftoverRound.turns.map Turn.pair = [("v1", .assets)] ∧
      highestOf leftoverRound.status (leftoverRound.turns.map Turn.pair) = 0 ∧
      mostAttempts leftoverRound.status ["v1"] = 5 ∧
      leftoverRound.requeueAfter = .ofSeconds 3840 ∧
      leftoverRound.controller.creationDelay leftoverRound.moment 0 = .ofSeconds 300 := by
  decide +kernel

end ReleaseBuilds.Cycle
