import Mathlib.Data.List.Perm.Subperm
import ReleaseBuilds.Proofs.Stages

/-!
# Lookups of artifacts

A release is looked up once for each kind that is looked after, whichever lookup ends first. The
outcome is what these lookups found, or the error of one of them; so a cycle has failures exactly if
one of its lookups failed.
-/

namespace ReleaseBuilds.Cycle

open Dialogue

/-- The lookup of one kind of artifact for a release, and whether an artifact was found. -/
structure ArtifactLookup where
  release : Release
  type : ArtifactType
  found : Except GithubError Bool

/-- The lookup of an artifact that an exchange is, if it is one. -/
def artifactLookup? : Exchanged → Option ArtifactLookup
  | ⟨.fetchAssets query _, answer⟩ =>
    some ⟨query.release, .assets, answer.map fun items => !items.isEmpty⟩
  | ⟨.fetchPackages query _, answer⟩ =>
    some ⟨query.release, .container, answer.map fun items => !items.isEmpty⟩
  | _ => none

/-- A lookup of artifacts is one of assets or of packages. -/
theorem eq_of_artifactLookup? {x : Exchanged} {lookup : ArtifactLookup}
    (hlookup : artifactLookup? x = some lookup) :
    (∃ query cancelled answer, x = ⟨.fetchAssets query cancelled, answer⟩) ∨
      ∃ query cancelled answer, x = ⟨.fetchPackages query cancelled, answer⟩ := by
  obtain ⟨call, answer⟩ := x
  cases call with
  | fetchAssets query cancelled => exact .inl ⟨query, cancelled, answer, rfl⟩
  | fetchPackages query cancelled => exact .inr ⟨query, cancelled, answer, rfl⟩
  | _ => cases hlookup

/-- The lookups of artifacts among some exchanges, in their order. -/
def artifactLookups (exchanges : List Exchanged) : List ArtifactLookup :=
  exchanges.filterMap artifactLookup?

/-- The exchanges are the given lookups and nothing else. -/
def AreLookups (exchanges : List Exchanged) (lookups : List ArtifactLookup) : Prop :=
  exchanges.map artifactLookup? = lookups.map some

namespace AreLookups

variable {first second : List Exchanged} {earlier later : List ArtifactLookup}

theorem append (hfirst : AreLookups first earlier) (hsecond : AreLookups second later) :
    AreLookups (first ++ second) (earlier ++ later) := by
  unfold AreLookups at *
  rw [List.map_append, List.map_append, hfirst, hsecond]

theorem artifactLookups_eq (hfirst : AreLookups first earlier) :
    artifactLookups first = earlier := by
  calc
    artifactLookups first = (first.map artifactLookup?).filterMap id := by
      rw [List.filterMap_map]
      rfl
    _ = (earlier.map some).filterMap id := by rw [hfirst]
    _ = earlier := by
      rw [List.filterMap_map]
      exact List.filterMap_some

theorem exists_of_mem (hfirst : AreLookups first earlier) {x : Exchanged} (hx : x ∈ first) :
    ∃ lookup ∈ earlier, artifactLookup? x = some lookup := by
  have hmem : artifactLookup? x ∈ first.map artifactLookup? := List.mem_map_of_mem hx
  rw [hfirst] at hmem
  obtain ⟨lookup, hlookup, heq⟩ := List.mem_map.mp hmem
  exact ⟨lookup, hlookup, heq.symm⟩

end AreLookups

theorem mem_artifactLookups_iff {exchanges : List Exchanged} {lookup : ArtifactLookup} :
    lookup ∈ artifactLookups exchanges ↔ ∃ x ∈ exchanges, artifactLookup? x = some lookup :=
  List.mem_filterMap

theorem mem_artifactLookups_flatMap_iff {α : Type} {items : List α} {f : α → List Exchanged}
    {lookup : ArtifactLookup} :
    lookup ∈ artifactLookups (items.flatMap f) ↔
      ∃ item ∈ items, lookup ∈ artifactLookups (f item) := by
  rw [artifactLookups, List.filterMap_flatMap, List.mem_flatMap]
  rfl

/-- Both kinds in the order in which their lookups end. -/
def endingOrder : ArtifactType → List ArtifactType
  | .assets => [.assets, .container]
  | .container => [.container, .assets]

theorem mem_endingOrder (first t : ArtifactType) : t ∈ endingOrder first := by
  cases first <;> cases t <;> simp [endingOrder]

theorem endingOrder_perm (first other : ArtifactType) :
    (endingOrder first).Perm (endingOrder other) := by
  cases first <;> cases other <;> simp [endingOrder, List.Perm.swap]

section Release

variable {m : Moment} {spec : Repository.Spec} {release : Release} {exchanges : List Exchanged}

theorem areLookups_of_ends_fetchAssets {query : ArtifactQuery} (cancelled : Bool)
    (asked : List Exchanged) (answer : Except GithubError (List Asset))
    (hasked : Ends (fetchAssets query cancelled) asked answer) :
    AreLookups asked [⟨query.release, .assets, answer.map fun found => !found.isEmpty⟩] := by
  obtain rfl := ends_fetchAssets_iff.mp hasked
  rfl

theorem areLookups_of_ends_fetchPackages {query : ArtifactQuery} (cancelled : Bool)
    (asked : List Exchanged) (answer : Except GithubError (List Package))
    (hasked : Ends (fetchPackages query cancelled) asked answer) :
    AreLookups asked [⟨query.release, .container, answer.map fun found => !found.isEmpty⟩] := by
  obtain rfl := ends_fetchPackages_iff.mp hasked
  rfl

/-- A kind that is looked after is looked up once. Its answer is handed on, or it is an error of
which the group takes note. -/
theorem lookup_of_ends_lookUpKind {α : Type} {t : ArtifactType}
    {fetch : Bool → Talk (Except GithubError (List α))} {group group' : TaskGroup GithubError}
    {items : List α}
    (hfetch : ∀ cancelled asked answer, Ends (fetch cancelled) asked answer →
      AreLookups asked [⟨release, t, answer.map fun found => !found.isEmpty⟩])
    (hends : Ends (lookUpKind spec t fetch group) exchanges (items, group')) :
    ∃ answer, AreLookups exchanges (if spec.isConfigured t then [⟨release, t, answer⟩] else []) ∧
      (group'.finish = .ok () → group.finish = .ok () ∧ answer = .ok (!items.isEmpty)) ∧
        ∀ e, group'.finish = .error e →
          group.finish = .error e ∨ spec.isConfigured t = true ∧ answer = .error e := by
  rw [ends_lookUpKind_iff] at hends
  by_cases hconfigured : spec.isConfigured t = true
  · rw [if_pos hconfigured] at hends
    obtain ⟨answer, hanswer, rfl, rfl⟩ := hends
    refine ⟨answer.map fun found => !found.isEmpty, ?_, ?_, fun e he => ?_⟩
    · rw [if_pos hconfigured]
      exact hfetch _ _ _ hanswer
    · intro hok
      cases answer with
      | ok found => exact ⟨hok, rfl⟩
      | error e => cases hok
    · cases answer with
      | ok found => exact .inl he
      | error failure =>
          have hkept : group.firstError.getD failure = e :=
            TaskGroup.finish_fail_eq_error_iff.mp he
          cases hgroup : group.firstError with
          | none =>
              obtain rfl : failure = e := by simpa [hgroup] using hkept
              exact .inr ⟨hconfigured, rfl⟩
          | some first =>
              obtain rfl : first = e := by simpa [hgroup] using hkept
              exact .inl (TaskGroup.finish_eq_error_iff.mpr hgroup)
  · rw [if_neg hconfigured] at hends
    obtain ⟨rfl, rfl, rfl⟩ := hends
    refine ⟨.ok false, ?_, fun hok => ⟨hok, rfl⟩, fun e he => .inl he⟩
    rw [if_neg hconfigured]
    rfl

/-- Two kinds that are looked up in a group, the one ending after the other. A group that ends well
has the answers of both, and one that does not has the error of one of them. -/
theorem lookups_of_ends_both {α β : Type} {t u : ArtifactType} (hne : u ≠ t)
    {fetch : Bool → Talk (Except GithubError (List α))}
    {fetch' : Bool → Talk (Except GithubError (List β))}
    {group middle group' : TaskGroup GithubError} {items : List α} {items' : List β}
    {earlier later : List Exchanged}
    (hfetch : ∀ cancelled asked answer, Ends (fetch cancelled) asked answer →
      AreLookups asked [⟨release, t, answer.map fun found => !found.isEmpty⟩])
    (hfetch' : ∀ cancelled asked answer, Ends (fetch' cancelled) asked answer →
      AreLookups asked [⟨release, u, answer.map fun found => !found.isEmpty⟩])
    (hgroup : group.finish = .ok ())
    (hearlier : Ends (lookUpKind spec t fetch group) earlier (items, middle))
    (hlater : Ends (lookUpKind spec u fetch' middle) later (items', group')) :
    ∃ answers : ArtifactType → Except GithubError Bool,
      AreLookups (earlier ++ later) (([t, u].filter spec.isConfigured).map
        fun t => ⟨release, t, answers t⟩) ∧
      (group'.finish = .ok () →
        answers t = .ok (!items.isEmpty) ∧ answers u = .ok (!items'.isEmpty)) ∧
      ∀ e, group'.finish = .error e → ∃ t, spec.isConfigured t = true ∧ answers t = .error e := by
  obtain ⟨answer, hasked, hok, herror⟩ := lookup_of_ends_lookUpKind hfetch hearlier
  obtain ⟨answer', hasked', hok', herror'⟩ := lookup_of_ends_lookUpKind hfetch' hlater
  refine ⟨fun v => if v = t then answer else answer', ?_, ?_, ?_⟩
  · have hboth := hasked.append hasked'
    cases hconfigured : spec.isConfigured t <;> cases hconfigured' : spec.isConfigured u <;>
      simpa [hconfigured, hconfigured', hne] using hboth
  · intro hfinish
    obtain ⟨hmiddle, hanswer'⟩ := hok' hfinish
    exact ⟨(if_pos rfl).trans (hok hmiddle).2, (if_neg hne).trans hanswer'⟩
  · intro e he
    rcases herror' e he with hmiddle | ⟨hconfigured, hanswer'⟩
    · rcases herror e hmiddle with hfirst | ⟨hconfigured, hanswer⟩
      · cases hgroup.symm.trans hfirst
      · exact ⟨t, hconfigured, (if_pos rfl).trans hanswer⟩
    · exact ⟨u, hconfigured, (if_neg hne).trans hanswer'⟩

/-- The lookups of a release in the order in which they end. If its group ends well they answered
what was found, and else one of them failed with the error of the group. -/
theorem lookups_of_ends_sideBySide {first : ArtifactType} {assets : List Asset}
    {packages : List Package} {group group' : TaskGroup GithubError}
    (hgroup : group.finish = .ok ())
    (hends : Ends (sideBySide first
      (lookUpKind spec .assets (fetchAssets ⟨spec.owner, spec.repo, release⟩))
      (lookUpKind spec .container (fetchPackages ⟨spec.owner, spec.repo, release⟩)) group)
      exchanges (assets, packages, group')) :
    ∃ answers : ArtifactType → Except GithubError Bool,
      AreLookups exchanges (((endingOrder first).filter spec.isConfigured).map
          fun t => ⟨release, t, answers t⟩) ∧
        (group'.finish = .ok () →
          ∀ t, answers t = .ok (Finding.has ⟨release, assets, packages⟩ t)) ∧
        ∀ e, group'.finish = .error e → ∃ t, spec.isConfigured t = true ∧ answers t = .error e := by
  cases first with
  | assets =>
      obtain ⟨earlier, later, middle, rfl, hassets, hpackages⟩ :=
        ends_sideBySide_assets_iff.mp hends
      obtain ⟨answers, hasked, hok, herror⟩ := lookups_of_ends_both (by decide)
        areLookups_of_ends_fetchAssets areLookups_of_ends_fetchPackages hgroup hassets hpackages
      refine ⟨answers, hasked, fun hfinish t => ?_, herror⟩
      cases t with
      | assets => exact (hok hfinish).1
      | container => exact (hok hfinish).2
  | container =>
      obtain ⟨earlier, later, middle, rfl, hpackages, hassets⟩ :=
        ends_sideBySide_container_iff.mp hends
      obtain ⟨answers, hasked, hok, herror⟩ := lookups_of_ends_both (by decide)
        areLookups_of_ends_fetchPackages areLookups_of_ends_fetchAssets hgroup hpackages hassets
      refine ⟨answers, hasked, fun hfinish t => ?_, herror⟩
      cases t with
      | assets => exact (hok hfinish).2
      | container => exact (hok hfinish).1

/-- The lookups of a release are one for each kind that is looked after. A finding holds what they
answered, and the error of a release without a finding is one of their answers. -/
theorem lookups_of_ends_lookUp {first : ArtifactType} {outcome : Lookup}
    (hends : Ends (lookUp m spec first release) exchanges outcome) :
    ∃ answers : ArtifactType → Except GithubError Bool,
      AreLookups exchanges (((endingOrder first).filter spec.isConfigured).map
          fun t => ⟨release, t, answers t⟩) ∧
        (∀ finding, outcome = .ok finding → finding.release = release ∧
          ∀ t, spec.isConfigured t = true → answers t = .ok (finding.has t)) ∧
        ∀ e, outcome = .error e → ∃ t, spec.isConfigured t = true ∧ answers t = .error e := by
  obtain ⟨assets, packages, group, hside, rfl⟩ := ends_lookUp_iff.mp hends
  obtain ⟨answers, hasked, hok, herror⟩ := lookups_of_ends_sideBySide rfl hside
  refine ⟨answers, hasked, ?_⟩
  cases hfinish : group.finish with
  | ok =>
      constructor
      · intro finding hfinding
        cases hfinding
        exact ⟨rfl, fun t _ => hok hfinish t⟩
      · intro e he
        cases he
  | error failure =>
      constructor
      · intro finding hfinding
        cases hfinding
      · intro e he
        cases he
        exact herror failure hfinish

/-- If the exchanges are the lookups of all kinds that are looked after, so are their lookups. -/
theorem AreLookups.mem_artifactLookups_iff {first : ArtifactType}
    {answers : ArtifactType → Except GithubError Bool}
    (hasked : AreLookups exchanges (((endingOrder first).filter spec.isConfigured).map
      fun t => ⟨release, t, answers t⟩)) {lookup : ArtifactLookup} :
    lookup ∈ artifactLookups exchanges ↔
      ∃ t, spec.isConfigured t = true ∧ lookup = ⟨release, t, answers t⟩ := by
  rw [hasked.artifactLookups_eq, List.mem_map]
  constructor
  · rintro ⟨t, ht, rfl⟩
    exact ⟨t, (List.mem_filter.mp ht).2, rfl⟩
  · rintro ⟨t, hconfigured, rfl⟩
    exact ⟨t, List.mem_filter.mpr ⟨mem_endingOrder first t, hconfigured⟩, rfl⟩

end Release

section Releases

variable {m : Moment} {spec : Repository.Spec} {releases : List Release} {outcomes : List Lookup}
  {exchanges : List Exchanged}

/-- Looking up artifacts consists of lookups for the given releases. -/
theorem lookup_of_mem_lookUpAll (hends : Ends (lookUpAll m spec releases) exchanges outcomes)
    {x : Exchanged} (hx : x ∈ exchanges) :
    ∃ lookup, artifactLookup? x = some lookup ∧ lookup.release ∈ releases := by
  obtain ⟨talks, rfl, htalks, rfl, -⟩ := exists_talks_of_ends_lookUpAll hends
  obtain ⟨talk, htalk, hx⟩ := List.mem_flatMap.mp hx
  obtain ⟨_, hends_talk⟩ := htalks talk htalk
  obtain ⟨answers, hasked, -, -⟩ := lookups_of_ends_lookUp hends_talk
  obtain ⟨lookup, hlookup, hxlookup⟩ := hasked.exists_of_mem hx
  refine ⟨lookup, hxlookup, ?_⟩
  rw [← hasked.artifactLookups_eq] at hlookup
  obtain ⟨t, -, rfl⟩ := hasked.mem_artifactLookups_iff.mp hlookup
  exact List.mem_map_of_mem htalk

/-- What was found for a release is what the lookups of all its kinds answered. -/
theorem lookups_of_finding (hends : Ends (lookUpAll m spec releases) exchanges outcomes)
    {finding : Finding} (hfinding : finding ∈ ErrorList.values outcomes) :
    finding.release ∈ releases ∧ ∀ t, spec.isConfigured t = true →
      ⟨finding.release, t, .ok (finding.has t)⟩ ∈ artifactLookups exchanges := by
  obtain ⟨talks, rfl, htalks, rfl, rfl⟩ := exists_talks_of_ends_lookUpAll hends
  have houtcome := (m.arrival.perm _).mem_iff.mp (ErrorList.mem_values_iff.mp hfinding)
  obtain ⟨talk, htalk, hok⟩ := List.mem_map.mp houtcome
  obtain ⟨_, hends_talk⟩ := htalks talk htalk
  obtain ⟨answers, hasked, hfound, -⟩ := lookups_of_ends_lookUp hends_talk
  obtain ⟨hrelease, hanswers⟩ := hfound finding hok
  refine ⟨hrelease ▸ List.mem_map_of_mem htalk, fun t ht => ?_⟩
  rw [mem_artifactLookups_flatMap_iff]
  refine ⟨talk, htalk, hasked.mem_artifactLookups_iff.mpr ⟨t, ht, ?_⟩⟩
  rw [hrelease, hanswers t ht]

/-- Of each release that is looked up there is at most one finding. -/
theorem findings_subperm (hends : Ends (lookUpAll m spec releases) exchanges outcomes) :
    ((ErrorList.values outcomes).map Finding.release).Subperm releases := by
  obtain ⟨talks, rfl, htalks, -, rfl⟩ := exists_talks_of_ends_lookUpAll hends
  have hsublist : ((ErrorList.values (talks.map fun talk => talk.2.2)).map
      Finding.release).Sublist (talks.map Prod.fst) := by
    clear hends
    induction talks with
    | nil => exact .slnil
    | cons talk rest ih =>
        obtain ⟨htalk, hrest⟩ := List.forall_mem_cons.mp htalks
        obtain ⟨_, hends_talk⟩ := htalk
        obtain ⟨_, -, hfound, -⟩ := lookups_of_ends_lookUp hends_talk
        rw [List.map_cons, List.map_cons, ErrorList.values, List.filterMap_cons]
        cases hresult : talk.2.2 with
        | error e => exact (ih hrest).cons talk.1
        | ok finding =>
            rw [← (hfound finding hresult).1]
            exact (ih hrest).cons_cons finding.release
  -- the order in which the lookups end does not matter for how often a release is found
  exact (((m.arrival.perm _).filterMap _).map _).subperm.trans hsublist.subperm

/-- A release has an outcome: something is found for it, or one of its lookups failed. -/
theorem finding_or_failure (hends : Ends (lookUpAll m spec releases) exchanges outcomes)
    {release : Release} (hrelease : release ∈ releases) :
    (∃ finding ∈ ErrorList.values outcomes, finding.release = release) ∨
      ∃ lookup ∈ artifactLookups exchanges, ∃ e, lookup.found = .error e := by
  obtain ⟨talks, rfl, htalks, rfl, rfl⟩ := exists_talks_of_ends_lookUpAll hends
  obtain ⟨talk, htalk, rfl⟩ := List.mem_map.mp hrelease
  obtain ⟨_, hends_talk⟩ := htalks talk htalk
  obtain ⟨answers, hasked, hfound, hfailed⟩ := lookups_of_ends_lookUp hends_talk
  cases hresult : talk.2.2 with
  | ok finding =>
      refine .inl ⟨finding, ErrorList.mem_values_iff.mpr ?_, (hfound finding hresult).1⟩
      exact (m.arrival.perm _).mem_iff.mpr (List.mem_map.mpr ⟨talk, htalk, hresult⟩)
  | error e =>
      obtain ⟨t, hconfigured, hanswer⟩ := hfailed e hresult
      refine .inr ⟨⟨talk.1, t, answers t⟩, ?_, e, hanswer⟩
      rw [mem_artifactLookups_flatMap_iff]
      exact ⟨talk, htalk, hasked.mem_artifactLookups_iff.mpr ⟨t, hconfigured, rfl⟩⟩

/-- There are failures exactly if some lookup failed. -/
theorem failures_ne_nil_iff (hends : Ends (lookUpAll m spec releases) exchanges outcomes) :
    (ErrorList.ofOutcomes outcomes).toList ≠ [] ↔
      ∃ lookup ∈ artifactLookups exchanges, ∃ e, lookup.found = .error e := by
  obtain ⟨talks, rfl, htalks, rfl, rfl⟩ := exists_talks_of_ends_lookUpAll hends
  constructor
  · intro hfailures
    obtain ⟨e, he⟩ := List.exists_mem_of_ne_nil _ hfailures
    have houtcome := (m.arrival.perm _).mem_iff.mp (ErrorList.mem_ofOutcomes_iff.mp he)
    obtain ⟨talk, htalk, hresult⟩ := List.mem_map.mp houtcome
    obtain ⟨_, hends_talk⟩ := htalks talk htalk
    obtain ⟨answers, hasked, -, hfailed⟩ := lookups_of_ends_lookUp hends_talk
    obtain ⟨t, hconfigured, hanswer⟩ := hfailed e hresult
    refine ⟨⟨talk.1, t, answers t⟩, ?_, e, hanswer⟩
    rw [mem_artifactLookups_flatMap_iff]
    exact ⟨talk, htalk, hasked.mem_artifactLookups_iff.mpr ⟨t, hconfigured, rfl⟩⟩
  · rintro ⟨lookup, hlookup, e, he⟩
    obtain ⟨talk, htalk, hlookup⟩ := mem_artifactLookups_flatMap_iff.mp hlookup
    obtain ⟨_, hends_talk⟩ := htalks talk htalk
    obtain ⟨answers, hasked, hfound, -⟩ := lookups_of_ends_lookUp hends_talk
    obtain ⟨t, hconfigured, rfl⟩ := hasked.mem_artifactLookups_iff.mp hlookup
    cases hresult : talk.2.2 with
    | ok finding =>
        -- a finding would have taken over the answer, which is an error
        have hanswer := (hfound finding hresult).2 t hconfigured
        cases hanswer.symm.trans he
    | error failure =>
        have houtcome : Except.error failure ∈ talks.map fun talk => talk.2.2 :=
          List.mem_map.mpr ⟨talk, htalk, hresult⟩
        exact List.ne_nil_of_mem
          (ErrorList.mem_ofOutcomes_iff.mpr ((m.arrival.perm _).mem_iff.mpr houtcome))

end Releases

end ReleaseBuilds.Cycle
