import ReleaseBuilds.Proofs.Lookups
import ReleaseBuilds.Proofs.Round

/-!
# The first failure in a task group

Whatever order the members of a group end in, and whenever the surrounding task is cancelled, the
group ends with the error of the member that failed first. By the time a failure has cancelled the
token, that error is kept; so a member that only gives up because of the token cannot hide why the
token was cancelled.
-/

namespace ReleaseBuilds

namespace TaskGroup

/-- What can happen to a group: a member ends, or the surrounding task is cancelled. -/
inductive Event (ι ε α : Type) where
  | ended (member : ι) (result : Except ε α)
  | parentCancelled
deriving DecidableEq

variable {ι ε α : Type}

/-- The error of a member that fails. -/
def Event.failure? : Event ι ε α → Option ε
  | .ended _ (.error e) => some e
  | _ => none

/-- What is handed on when a member ends: its value if it has one. -/
def Event.yield? : Event ι ε α → Option (ι × Option α)
  | .ended member (.ok a) => some (member, some a)
  | .ended member (.error _) => some (member, none)
  | .parentCancelled => none

/-- The group after an event. -/
def happen (g : TaskGroup ε) : Event ι ε α → TaskGroup ε
  | .ended _ result => (g.finishMember result).2
  | .parentCancelled => g.cancelParent

/-- The group after some events in their order. -/
def after (g : TaskGroup ε) (history : List (Event ι ε α)) : TaskGroup ε := history.foldl happen g

/-- What the members that end are given for their results. -/
def yields (g : TaskGroup ε) : List (Event ι ε α) → List (ι × Option α)
  | [] => []
  | .ended member result :: rest =>
    let (value, g) := g.finishMember result
    (member, value) :: g.yields rest
  | .parentCancelled :: rest => g.cancelParent.yields rest

/-- The error is that of the member that fails first. -/
def FailsFirst (history : List (Event ι ε α)) (e : ε) : Prop :=
  ∃ before member later, history = before ++ .ended member (.error e) :: later ∧
    ∀ other f, .ended other (.error f) ∉ before

/-- Members fail with a cancellation only after they could see that the token is cancelled. -/
def CancelsAfterSeeing (IsCancellation : ε → Prop) (g : TaskGroup ε)
    (history : List (Event ι ε α)) : Prop :=
  ∀ before member e later, history = before ++ .ended member (.error e) :: later →
    IsCancellation e → ∃ seen unseen, before = seen ++ unseen ∧ (g.after seen).isCancelled = true

variable {g : TaskGroup ε} {history earlier later : List (Event ι ε α)} {event : Event ι ε α}

@[simp] theorem after_nil : g.after ([] : List (Event ι ε α)) = g := rfl

@[simp] theorem after_cons : g.after (event :: history) = (g.happen event).after history := rfl

theorem after_append : g.after (earlier ++ later) = (g.after earlier).after later :=
  List.foldl_append

/-- Events of which each fits how things stand with the token when it happens. -/
inductive Unfolds (Fits : Bool → Event ι ε α → Prop) : TaskGroup ε → List (Event ι ε α) → Prop where
  | nil (g : TaskGroup ε) : Unfolds Fits g []
  | cons {g : TaskGroup ε} {event : Event ι ε α} {rest : List (Event ι ε α)}
      (hfits : Fits g.isCancelled event) (hrest : Unfolds Fits (g.happen event) rest) :
      Unfolds Fits g (event :: rest)

namespace Unfolds

variable {Fits Fits' : Bool → Event ι ε α → Prop}

theorem append (hearlier : Unfolds Fits g earlier) (hlater : Unfolds Fits (g.after earlier) later) :
    Unfolds Fits g (earlier ++ later) := by
  induction hearlier with
  | nil => exact hlater
  | cons hfits _ ih => exact .cons hfits (ih hlater)

theorem imp (h : Unfolds Fits g history) (himp : ∀ cancelled event, Fits cancelled event →
    Fits' cancelled event) : Unfolds Fits' g history := by
  induction h with
  | nil => exact .nil _
  | cons hfits _ ih => exact .cons (himp _ _ hfits) ih

theorem fits (h : Unfolds Fits g (earlier ++ event :: later)) :
    Fits (g.after earlier).isCancelled event := by
  induction earlier generalizing g with
  | nil =>
      cases h with
      | cons hfits _ => exact hfits
  | cons first rest ih =>
      cases h with
      | cons _ hrest => exact ih hrest

theorem cancelsAfterSeeing {IsCancellation : ε → Prop} (h : Unfolds Fits g history)
    (hfits : ∀ cancelled member e, Fits cancelled (.ended member (.error e)) → IsCancellation e →
      cancelled = true) : CancelsAfterSeeing IsCancellation g history := by
  rintro before member e later rfl hcancellation
  exact ⟨before, [], by simp, hfits _ _ _ h.fits hcancellation⟩

end Unfolds

theorem firstError_fail (g : TaskGroup ε) (e : ε) :
    (g.fail e).firstError = g.firstError.or (some e) := by
  cases h : g.firstError <;> simp [fail, h]

/-- What holds of a group throughout: its error is the first one that has happened, it is kept as
soon as the token is cancelled by a member, and the surrounding task is left alone. -/
structure Shows (parentCancelled : Bool) (history : List (Event ι ε α)) (g : TaskGroup ε) :
    Prop where
  firstError : g.firstError = history.findSome? Event.failure?
  token : g.isCancelled = true ↔ g.firstError.isSome = true ∨ g.parentCancelled = true
  parent : g.parentCancelled = true ↔ parentCancelled = true ∨ .parentCancelled ∈ history

namespace Shows

variable {parentCancelled : Bool}

theorem start (parentCancelled : Bool) :
    Shows parentCancelled ([] : List (Event ι ε α)) (start parentCancelled) :=
  ⟨rfl, by simp [TaskGroup.start], by simp [TaskGroup.start]⟩

theorem happen (h : Shows parentCancelled history g) (event : Event ι ε α) :
    Shows parentCancelled (history ++ [event]) (g.happen event) := by
  cases event with
  | parentCancelled =>
      refine ⟨?_, by simp [TaskGroup.happen, cancelParent],
        by simp [TaskGroup.happen, cancelParent]⟩
      simp [TaskGroup.happen, cancelParent, Event.failure?, h.firstError]
  | ended member result =>
      cases result with
      | ok a =>
          refine ⟨?_, h.token, by simpa [TaskGroup.happen, finishMember] using h.parent⟩
          simpa [TaskGroup.happen, finishMember, Event.failure?] using h.firstError
      | error e =>
          refine ⟨?_, ?_, by simpa [TaskGroup.happen, finishMember, fail] using h.parent⟩
          · simp [TaskGroup.happen, finishMember, firstError_fail, Event.failure?, h.firstError]
          · simp [TaskGroup.happen, finishMember, fail]

theorem after (h : Shows parentCancelled earlier g) (later : List (Event ι ε α)) :
    Shows parentCancelled (earlier ++ later) (g.after later) := by
  induction later generalizing g earlier with
  | nil => simpa using h
  | cons event rest ih => simpa using ih (h.happen event)

end Shows

theorem shows_after (parentCancelled : Bool) (history : List (Event ι ε α)) :
    Shows parentCancelled history ((start parentCancelled).after history) := by
  simpa using (Shows.start parentCancelled).after history

theorem failure?_eq_some_iff {e : ε} :
    event.failure? = some e ↔ ∃ member, event = .ended member (.error e) := by
  cases event with
  | parentCancelled => simp [Event.failure?]
  | ended member result => cases result <;> simp [Event.failure?]

theorem failure?_eq_none_iff :
    event.failure? = none ↔ ∀ member e, event ≠ .ended member (.error e) := by
  cases event with
  | parentCancelled => simp [Event.failure?]
  | ended member result => cases result <;> simp [Event.failure?]

theorem findSome?_failure?_eq_some_iff {e : ε} :
    history.findSome? Event.failure? = some e ↔ FailsFirst history e := by
  rw [List.findSome?_eq_some_iff]
  simp only [failure?_eq_some_iff, failure?_eq_none_iff]
  constructor
  · rintro ⟨before, _, later, rfl, ⟨member, rfl⟩, hbefore⟩
    exact ⟨before, member, later, rfl, fun other f hmem => hbefore _ hmem other f rfl⟩
  · rintro ⟨before, member, later, rfl, hbefore⟩
    exact ⟨before, _, later, rfl, ⟨member, rfl⟩,
      fun _ hmem other f heq => hbefore other f (heq ▸ hmem)⟩

theorem findSome?_failure?_eq_none_iff :
    history.findSome? Event.failure? = none ↔ ∀ member e, .ended member (.error e) ∉ history := by
  rw [List.findSome?_eq_none_iff]
  simp only [failure?_eq_none_iff]
  constructor
  · intro h member e hmem
    exact h _ hmem member e rfl
  · intro h event hmem member e heq
    exact h member e (heq ▸ hmem)

theorem yields_eq : g.yields history = history.filterMap Event.yield? := by
  induction history generalizing g with
  | nil => rfl
  | cons event rest ih =>
      cases event with
      | parentCancelled => exact ih
      | ended member result =>
          cases result with
          | ok a => exact congrArg _ ih
          | error e => exact congrArg _ ih

/-- What a group owes to all that has happened to it. -/
structure Accounts (parentCancelled : Bool) (history : List (Event ι ε α)) (g : TaskGroup ε) :
    Prop where
  /-- The group ends well if no member failed, -/
  ok : g.finish = .ok () ↔ ∀ member e, .ended member (.error e) ∉ history
  /-- and else with the error of the member that failed first. -/
  error : ∀ e, g.finish = .error e ↔ FailsFirst history e
  /-- The token is cancelled by a failure or with the surrounding task, -/
  token : g.isCancelled = true ↔ parentCancelled = true ∨ .parentCancelled ∈ history ∨
    ∃ member e, .ended member (.error e) ∈ history
  /-- which the group itself never cancels. -/
  parent : g.parentCancelled = true ↔ parentCancelled = true ∨ .parentCancelled ∈ history

theorem accounts_after (parentCancelled : Bool) (history : List (Event ι ε α)) :
    Accounts parentCancelled history ((start parentCancelled).after history) := by
  have h := shows_after parentCancelled history
  have hok : ((start parentCancelled).after history).firstError = none ↔
      ∀ member e, .ended member (.error e) ∉ history := by
    rw [h.firstError, findSome?_failure?_eq_none_iff]
  refine ⟨by rw [finish_eq_ok_iff, hok], fun e => ?_, ?_, h.parent⟩
  · rw [finish_eq_error_iff, h.firstError, findSome?_failure?_eq_some_iff]
  · have hfailed : ((start parentCancelled).after history).firstError.isSome = true ↔
        ∃ member e, .ended member (.error e) ∈ history := by
      rw [Option.isSome_iff_ne_none, ne_eq, hok]
      simp
    rw [h.token, h.parent, hfailed, or_comm, or_assoc]

/-- While the surrounding task goes on, members that give up because of the token do not decide how
the group ends: there was a failure before them. -/
theorem not_isCancellation_of_finish {IsCancellation : ε → Prop} {parentCancelled : Bool} {e : ε}
    (hcancels : CancelsAfterSeeing IsCancellation (start parentCancelled) history)
    (hparent : ((start parentCancelled).after history).parentCancelled = false)
    (hfinish : ((start parentCancelled).after history).finish = .error e) : ¬IsCancellation e := by
  intro hcancellation
  obtain ⟨before, member, later, rfl, hbefore⟩ := ((accounts_after _ _).error e).mp hfinish
  obtain ⟨seen, unseen, rfl, hseen⟩ := hcancels before member e later rfl hcancellation
  have hquiet : ¬(parentCancelled = true ∨ .parentCancelled ∈ (seen ++ unseen) ++
      .ended member (.error e) :: later) := by
    rw [← (accounts_after _ _).parent, hparent]
    simp
  -- so the token that the member saw was cancelled by a failure, which came before the first one
  rcases (accounts_after _ _).token.mp hseen with h | h | ⟨other, f, h⟩
  · exact hquiet (.inl h)
  · exact hquiet (.inr (by simp [h]))
  · exact hbefore other f (List.mem_append_left _ h)

/-- So a group in which a member failed ends with a failure that is not such a cancellation. -/
theorem exists_finish_of_failure {IsCancellation : ε → Prop} {parentCancelled : Bool} {member : ι}
    {e : ε} (hcancels : CancelsAfterSeeing IsCancellation (start parentCancelled) history)
    (hparent : ((start parentCancelled).after history).parentCancelled = false)
    (hfailed : .ended member (.error e) ∈ history) :
    ∃ f, ¬IsCancellation f ∧ ((start parentCancelled).after history).finish = .error f := by
  cases hfinish : ((start parentCancelled).after history).finish with
  | ok done => exact absurd hfailed ((accounts_after _ _).ok.mp hfinish member e)
  | error f => exact ⟨f, not_isCancellation_of_finish hcancels hparent hfinish, rfl⟩

end TaskGroup

namespace Cycle

open Dialogue TaskGroup

/-- The lookup of artifacts is told that its group is cancelled. -/
def ToldCancelled : Exchanged → Prop
  | ⟨.fetchAssets _ cancelled, _⟩ => cancelled = true
  | ⟨.fetchPackages _ cancelled, _⟩ => cancelled = true
  | _ => False

/-- Lookups of artifacts as members of a group that end one after another. -/
def lookupEvents (exchanges : List Exchanged) : List (Event ArtifactType GithubError Bool) :=
  (artifactLookups exchanges).map fun lookup => .ended lookup.type lookup.found

/-- The end of a lookup that was told how things stand with the token. -/
def Told (exchanges : List Exchanged) (cancelled : Bool)
    (event : Event ArtifactType GithubError Bool) : Prop :=
  ∃ x ∈ exchanges, ∃ lookup, artifactLookup? x = some lookup ∧
    event = .ended lookup.type lookup.found ∧ (ToldCancelled x ↔ cancelled = true)

section Release

variable {m : Moment} {spec : Repository.Spec} {first : ArtifactType} {release : Release}
  {exchanges earlier later : List Exchanged}

theorem lookupEvents_append :
    lookupEvents (earlier ++ later) = lookupEvents earlier ++ lookupEvents later := by
  simp [lookupEvents, artifactLookups]

theorem Told.mono (hsubset : earlier ⊆ later) {cancelled : Bool}
    {event : Event ArtifactType GithubError Bool} (h : Told earlier cancelled event) :
    Told later cancelled event := by
  obtain ⟨x, hx, hlookup⟩ := h
  exact ⟨x, hsubset hx, hlookup⟩

theorem told_of_ends_fetchAssets {query : ArtifactQuery} (cancelled : Bool)
    (asked : List Exchanged) (answer : Except GithubError (List Asset))
    (hasked : Ends (fetchAssets query cancelled) asked answer) : ∃ x, asked = [x] ∧
      artifactLookup? x = some ⟨query.release, .assets, answer.map fun found => !found.isEmpty⟩ ∧
      (ToldCancelled x ↔ cancelled = true) :=
  ⟨_, ends_fetchAssets_iff.mp hasked, rfl, Iff.rfl⟩

theorem told_of_ends_fetchPackages {query : ArtifactQuery} (cancelled : Bool)
    (asked : List Exchanged) (answer : Except GithubError (List Package))
    (hasked : Ends (fetchPackages query cancelled) asked answer) : ∃ x, asked = [x] ∧
      artifactLookup? x =
        some ⟨query.release, .container, answer.map fun found => !found.isEmpty⟩ ∧
      (ToldCancelled x ↔ cancelled = true) :=
  ⟨_, ends_fetchPackages_iff.mp hasked, rfl, Iff.rfl⟩

/-- The lookup of a kind, if there is one, is told of the token, and the group takes note of how it
ends. -/
theorem unfolds_of_ends_lookUpKind {α : Type} {t : ArtifactType}
    {fetch : Bool → Talk (Except GithubError (List α))} {group group' : TaskGroup GithubError}
    {items : List α}
    (hfetch : ∀ cancelled asked answer, Ends (fetch cancelled) asked answer → ∃ x, asked = [x] ∧
      artifactLookup? x = some ⟨release, t, answer.map fun found => !found.isEmpty⟩ ∧
      (ToldCancelled x ↔ cancelled = true))
    (hends : Ends (lookUpKind spec t fetch group) exchanges (items, group')) :
    Unfolds (Told exchanges) group (lookupEvents exchanges) ∧
      group' = group.after (lookupEvents exchanges) := by
  rw [ends_lookUpKind_iff] at hends
  split at hends
  next =>
    obtain ⟨answer, hasked, -, rfl⟩ := hends
    obtain ⟨x, rfl, hlookup, htold⟩ := hfetch _ _ _ hasked
    have hevents : lookupEvents [x] = [.ended t (answer.map fun found => !found.isEmpty)] := by
      simp [lookupEvents, artifactLookups, hlookup]
    rw [hevents]
    refine ⟨.cons ⟨x, List.mem_singleton_self x, _, hlookup, rfl, htold⟩ (.nil _), ?_⟩
    cases answer <;> rfl
  next =>
    obtain ⟨rfl, -, rfl⟩ := hends
    exact ⟨.nil _, rfl⟩

/-- What happens to a group while two dialogues are held one after the other happens to it
one after the other. -/
theorem unfolds_append {group middle group' : TaskGroup GithubError}
    (hearlier : Unfolds (Told earlier) group (lookupEvents earlier) ∧
      middle = group.after (lookupEvents earlier))
    (hlater : Unfolds (Told later) middle (lookupEvents later) ∧
      group' = middle.after (lookupEvents later)) :
    Unfolds (Told (earlier ++ later)) group (lookupEvents (earlier ++ later)) ∧
      group' = group.after (lookupEvents (earlier ++ later)) := by
  obtain ⟨hearlier, rfl⟩ := hearlier
  obtain ⟨hlater, rfl⟩ := hlater
  rw [lookupEvents_append, after_append]
  exact ⟨(hearlier.imp fun _ _ => .mono (List.subset_append_left earlier later)).append
    (hlater.imp fun _ _ => .mono (List.subset_append_right earlier later)), rfl⟩

/-- The outcome for a release is what the group of its lookups ends with, each of them told of the
token as it is when it ends. This does not depend on which of them ends first. -/
theorem unfolds_of_ends_lookUp {outcome : Lookup}
    (hends : Ends (lookUp m spec first release) exchanges outcome) :
    Unfolds (Told exchanges) (.start m.cancelled) (lookupEvents exchanges) ∧
      (outcome.map fun _ => ()) =
        ((TaskGroup.start m.cancelled).after (lookupEvents exchanges)).finish := by
  obtain ⟨assets, packages, group, hside, rfl⟩ := ends_lookUp_iff.mp hends
  have hgroup : Unfolds (Told exchanges) (.start m.cancelled) (lookupEvents exchanges) ∧
      group = (TaskGroup.start m.cancelled).after (lookupEvents exchanges) := by
    cases first with
    | assets =>
        obtain ⟨earlier, later, middle, rfl, hassets, hpackages⟩ :=
          ends_sideBySide_assets_iff.mp hside
        exact unfolds_append (unfolds_of_ends_lookUpKind told_of_ends_fetchAssets hassets)
          (unfolds_of_ends_lookUpKind told_of_ends_fetchPackages hpackages)
    | container =>
        obtain ⟨earlier, later, middle, rfl, hpackages, hassets⟩ :=
          ends_sideBySide_container_iff.mp hside
        exact unfolds_append (unfolds_of_ends_lookUpKind told_of_ends_fetchPackages hpackages)
          (unfolds_of_ends_lookUpKind told_of_ends_fetchAssets hassets)
  refine ⟨hgroup.1, ?_⟩
  rw [← hgroup.2]
  cases group.finish <;> rfl

theorem cancelsAfterSeeing_of_ends_lookUp {outcome : Lookup}
    (hends : Ends (lookUp m spec first release) exchanges outcome)
    (htold : ∀ x ∈ exchanges, ∀ lookup, artifactLookup? x = some lookup →
      lookup.found = .error .cancelled → ToldCancelled x) :
    CancelsAfterSeeing (· = .cancelled) (.start m.cancelled) (lookupEvents exchanges) := by
  refine (unfolds_of_ends_lookUp hends).1.cancelsAfterSeeing ?_
  rintro cancelled member e ⟨x, hx, lookup, hlookup, hevent, htoken⟩ rfl
  obtain ⟨-, hfound⟩ := Event.ended.inj hevent
  exact htoken.mp (htold x hx lookup hlookup hfound.symm)

/-- While the controller goes on and lookups are only cancelled when told so, a release with a
failed lookup has an error that is not a cancellation. -/
theorem error_of_failed_lookup {outcome : Lookup}
    (hends : Ends (lookUp m spec first release) exchanges outcome)
    (hcancelled : m.cancelled = false)
    (htold : ∀ x ∈ exchanges, ∀ lookup, artifactLookup? x = some lookup →
      lookup.found = .error .cancelled → ToldCancelled x)
    {lookup : ArtifactLookup} (hlookup : lookup ∈ artifactLookups exchanges) {e : GithubError}
    (he : lookup.found = .error e) : ∃ f, f ≠ .cancelled ∧ outcome = .error f := by
  have hparent : ((TaskGroup.start m.cancelled).after (lookupEvents exchanges)).parentCancelled =
      false := by
    rw [← Bool.not_eq_true, (accounts_after _ _).parent, hcancelled]
    simp [lookupEvents]
  have hfailed : .ended lookup.type (.error e) ∈ lookupEvents exchanges :=
    List.mem_map.mpr ⟨lookup, hlookup, by rw [he]⟩
  obtain ⟨f, hf, hfinish⟩ :=
    exists_finish_of_failure (cancelsAfterSeeing_of_ends_lookUp hends htold) hparent hfailed
  rw [← (unfolds_of_ends_lookUp hends).2] at hfinish
  refine ⟨f, hf, ?_⟩
  cases outcome with
  | ok finding => cases hfinish
  | error failure =>
      cases hfinish
      rfl

end Release

/-- Whatever happens to a group in whatever order, it ends with the error of the member that failed
first, hands on the values of the members that succeed, and lets the surrounding task alone. A
member that gives up only once the token is cancelled never hides a failure, and so neither of the
lookups of a release does, whichever ends first. -/
theorem reports_root_cause {ι ε α : Type} (parentCancelled : Bool)
    (history : List (Event ι ε α)) :
    Accounts parentCancelled history ((TaskGroup.start parentCancelled).after history) ∧
    (TaskGroup.start parentCancelled).yields history = history.filterMap Event.yield? ∧
    (∀ IsCancellation : ε → Prop,
      CancelsAfterSeeing IsCancellation (.start parentCancelled) history →
      ((TaskGroup.start parentCancelled).after history).parentCancelled = false →
      (∀ e, ((TaskGroup.start parentCancelled).after history).finish = .error e →
        ¬IsCancellation e) ∧
      ∀ member e, .ended member (.error e) ∈ history →
        ∃ f, ¬IsCancellation f ∧
          ((TaskGroup.start parentCancelled).after history).finish = .error f) ∧
    ∀ m spec first release exchanges outcome, Ends (lookUp m spec first release) exchanges outcome →
      (outcome.map fun _ => ()) =
        ((TaskGroup.start m.cancelled).after (lookupEvents exchanges)).finish ∧
      (m.cancelled = false →
        (∀ x ∈ exchanges, ∀ lookup, artifactLookup? x = some lookup →
          lookup.found = .error .cancelled → ToldCancelled x) →
        ∀ lookup ∈ artifactLookups exchanges, ∀ e, lookup.found = .error e →
          ∃ f, f ≠ .cancelled ∧ outcome = .error f) := by
  refine ⟨accounts_after parentCancelled history, yields_eq, ?cancelled, ?lookups⟩
  case cancelled =>
    intro IsCancellation hcancels hparent
    refine ⟨fun e hfinish => not_isCancellation_of_finish hcancels hparent hfinish, ?_⟩
    intro member e hfailed
    exact exists_finish_of_failure hcancels hparent hfailed
  case lookups =>
    intro m spec first release exchanges outcome hends
    refine ⟨(unfolds_of_ends_lookUp hends).2, ?_⟩
    intro hcancelled htold lookup hlookup e he
    exact error_of_failed_lookup hends hcancelled htold hlookup he

/-- The lookup of packages is refused while that of assets still runs, and is what cancels it. -/
def refusedFirst : List (Event ArtifactType GithubError Bool) :=
  [.ended .container (.error .unauthorized), .ended .assets (.error .cancelled)]

/-- Both kinds of artifacts are looked after. -/
def bothBuilt : Repository.Spec :=
  { owner := "owner", repo := "repo", pipelines := ⟨some "build", some "build"⟩ }

/-- The lookups of a release, of which that of the kind `first` fails, and the other one is
cancelled for that reason. -/
def cancellingLookups (first : ArtifactType) (e : GithubError) : List Exchanged :=
  let query : ArtifactQuery := ⟨"owner", "repo", Finding.single.release⟩
  match first with
  | .assets =>
    [⟨.fetchAssets query false, .error e⟩, ⟨.fetchPackages query true, .error .cancelled⟩]
  | .container =>
    [⟨.fetchPackages query false, .error e⟩, ⟨.fetchAssets query true, .error .cancelled⟩]

theorem ends_cancellingLookups (first : ArtifactType) (e : GithubError) :
    Ends (lookUp (.plain noon) bothBuilt first Finding.single.release) (cancellingLookups first e)
      (.error e) := by
  cases first with
  | assets => exact .ask _ _ _ _ _ (.ask _ _ _ _ _ (.done _))
  | container => exact .ask _ _ _ _ _ (.ask _ _ _ _ _ (.done _))

/-- A quota that is used up until noon. -/
def quotaUntilNoon : RateLimit := { limit := 5000, remaining := 0, reset := noon }

/-- A refusal is not hidden by the lookup of assets that it cancels, nor an exhausted quota by
the lookup of packages. -/
theorem reports_root_cause_of_refusal :
    (∃ f, f ≠ .cancelled ∧ ((TaskGroup.start false).after refusedFirst).finish = .error f) ∧
    (lookupEvents (cancellingLookups .container .unauthorized) = refusedFirst ∧
      Ends (lookUp (.plain noon) bothBuilt .container Finding.single.release)
        (cancellingLookups .container .unauthorized) (.error .unauthorized) ∧
      ∃ f, f ≠ .cancelled ∧ (.error .unauthorized : Lookup) = .error f) ∧
    (Ends (lookUp (.plain noon) bothBuilt .assets Finding.single.release)
        (cancellingLookups .assets (.rateLimited quotaUntilNoon))
        (.error (.rateLimited quotaUntilNoon)) ∧
      ∃ f, f ≠ .cancelled ∧ (.error (.rateLimited quotaUntilNoon) : Lookup) = .error f) := by
  have hunfolds : Unfolds (fun cancelled event =>
      ∀ member, event = .ended member (.error .cancelled) → cancelled = true)
      (TaskGroup.start false) refusedFirst := by
    refine .cons ?_ (.cons (fun _ _ => rfl) (.nil _))
    rintro member ⟨⟩
  have hpackages := ends_cancellingLookups .container .unauthorized
  have hassets := ends_cancellingLookups .assets (.rateLimited quotaUntilNoon)
  refine ⟨?_, ⟨rfl, hpackages, ?_⟩, hassets, ?_⟩
  · refine ((reports_root_cause false refusedFirst).2.2.1 (· = .cancelled) ?_ rfl).2 .assets
      .cancelled (by simp [refusedFirst])
    refine hunfolds.cancelsAfterSeeing ?_
    rintro cancelled member _ hfits rfl
    exact hfits member rfl
  · refine ((reports_root_cause false refusedFirst).2.2.2 _ _ _ _ _ _ hpackages).2 rfl ?_
      ⟨Finding.single.release, .container, .error .unauthorized⟩ ?_ .unauthorized rfl
    · simp [cancellingLookups, artifactLookup?, ToldCancelled, Except.map]
    · simp [cancellingLookups, artifactLookups, artifactLookup?, Except.map]
  · refine ((reports_root_cause false refusedFirst).2.2.2 _ _ _ _ _ _ hassets).2 rfl ?_
      ⟨Finding.single.release, .assets, .error (.rateLimited quotaUntilNoon)⟩ ?_ _ rfl
    · simp [cancellingLookups, artifactLookup?, ToldCancelled, Except.map]
    · simp [cancellingLookups, artifactLookups, artifactLookup?, Except.map]

end Cycle

end ReleaseBuilds
