import ReleaseBuilds.Github.Client
import ReleaseBuilds.Proofs.Dialogue
import ReleaseBuilds.Proofs.Instants

/-!
# Asking GitHub one question after the other

Before a client sends a request it looks at the clock and at the question it works on, and it knows
nothing of earlier answers but the quota that was exhausted last and whether packages may be looked
up. This is enough to heed all of them: a quota is only heard of in answer to a request, which was
sent once the quota before it had started anew.
-/

namespace ReleaseBuilds

open Dialogue

/-! ## What an answer tells -/

/-- Why there is no value. -/
def failure? {α : Type} : Except GithubError α → Option GithubError
  | .ok _ => none
  | .error e => some e

@[simp] theorem failure?_ok {α : Type} (a : α) :
    failure? (.ok a : Except GithubError α) = none := rfl

@[simp] theorem failure?_error {α : Type} (e : GithubError) :
    failure? (.error e : Except GithubError α) = some e := rfl

@[simp] theorem failure?_map {α β : Type} (f : α → β) (outcome : Except GithubError α) :
    failure? (outcome.map f) = failure? outcome := by
  cases outcome <;> rfl

namespace PageReply

/-- The exhausted quota that an answer tells of: it is a refusal, and its headers say what the quota
is and that nothing is left of it. -/
def exhausted? : PageReply → Option RateLimit
  | .answered r =>
    if r.status == 403 || r.status == 429 then
      (RateLimit.ofHeaders? r.headers).filter RateLimit.isExhausted
    else none
  | _ => none

def isUnauthorized : PageReply → Bool
  | .answered r => r.status == 401
  | _ => false

/-- A failure says of an answer what the client is to remember of it. -/
structure Explains (reply : PageReply) (failure : Option GithubError) : Prop where
  rateLimited : ∀ quota, failure = some (.rateLimited quota) ↔ reply.exhausted? = some quota
  unauthorized : failure = some .unauthorized ↔ reply.isUnauthorized = true

namespace Explains

variable {reply : PageReply}

/-- An answer that failed in no way tells of no exhausted quota. -/
theorem exhausted?_eq_none (hexplains : reply.Explains none) : reply.exhausted? = none := by
  cases hquota : reply.exhausted? with
  | none => rfl
  | some quota => cases (hexplains.rateLimited quota).mpr hquota

theorem isUnauthorized_eq_false (hexplains : reply.Explains none) :
    reply.isUnauthorized = false := by
  apply Bool.eq_false_iff.mpr
  intro hunauthorized
  cases hexplains.unauthorized.mpr hunauthorized

end Explains

variable {α : Type}

/-- There is nothing to remember of an answer that is neither a refusal nor unauthorized. -/
theorem explains_of_quiet {reply : PageReply} {failure : Option GithubError}
    (hexhausted : reply.exhausted? = none) (hauthorized : reply.isUnauthorized = false)
    (hrate : ∀ quota, failure ≠ some (.rateLimited quota))
    (hfailure : failure ≠ some .unauthorized) : reply.Explains failure where
  rateLimited quota := by simp [hexhausted, hrate quota]
  unauthorized := by simp [hauthorized, hfailure]

/-- The items of a page fail to be read because of the body, whatever the quota is. -/
theorem failure?_items (r : PageResponse) (url : String) (read : Json → Option α) :
    (∀ quota, failure? (r.items url read) ≠ some (.rateLimited quota)) ∧
      failure? (r.items url read) ≠ some .unauthorized := by
  unfold PageResponse.items
  split
  next => simp
  next => simp
  next => simp
  next => split <;> simp

theorem explains_outcome (reply : PageReply) (url : String) (read : Json → Option α) :
    reply.Explains (failure? (reply.outcome url read)) := by
  cases reply with
  | failed => exact explains_of_quiet rfl rfl (by simp [outcome]) (by simp [outcome])
  | cancelled => exact explains_of_quiet rfl rfl (by simp [outcome]) (by simp [outcome])
  | answered r =>
      cases hsuccess : r.isSuccess with
      | true =>
          -- with a status of success the answer is no refusal
          have hstatus : r.status ≠ 403 ∧ r.status ≠ 429 ∧ r.status ≠ 401 := by
            simp only [PageResponse.isSuccess, Bool.and_eq_true, decide_eq_true_eq] at hsuccess
            omega
          obtain ⟨hrate, hauthorized⟩ := failure?_items r url read
          simp only [outcome, hsuccess, if_true, failure?_map]
          exact explains_of_quiet (by simp [exhausted?, hstatus])
            (by simp [isUnauthorized, hstatus]) hrate hauthorized
      | false =>
          simp only [outcome, hsuccess, Bool.false_eq_true, if_false, failure?_error,
            PageResponse.error]
          split
          next hrefused =>
            have hstatus : r.status ≠ 401 := by
              simp only [Bool.or_eq_true, beq_iff_eq] at hrefused
              omega
            constructor
            · intro quota
              simp only [exhausted?, hrefused, if_true]
              split
              next _ hquota => simp [hquota]
              next hnone => simp [hnone]
            · simp only [isUnauthorized, beq_iff_eq, hstatus, iff_false]
              split <;> simp
          next hallowed =>
            have hnone : (PageReply.answered r).exhausted? = none := by
              simp only [exhausted?, if_neg hallowed]
            constructor
            · intro quota
              rw [hnone]
              split <;> simp
            · simp only [isUnauthorized]
              split
              next hstatus => simp [hstatus]
              next hstatus => simp [hstatus]

end PageReply

namespace Client

/-! ## What a log tells -/

/-- A question of a client and what was answered to it. -/
abbrev Exchanged := Exchange Call Call.Answer

def looked (s : Situation) : Exchanged := ⟨.look, s⟩

def sent (request : PageRequest) (reply : PageReply) : Exchanged := ⟨.send request, reply⟩

def situation? : Exchanged → Option Situation
  | ⟨.look, s⟩ => some s
  | ⟨.send _, _⟩ => none

def exhaustion? : Exchanged → Option RateLimit
  | ⟨.look, _⟩ => none
  | ⟨.send _, reply⟩ => reply.exhausted?

/-- A request was answered with "unauthorized". -/
def isUnauthorized : Exchanged → Bool
  | ⟨.look, _⟩ => false
  | ⟨.send _, reply⟩ => reply.isUnauthorized

/-- The exhausted quotas that answers told of, in the order of these answers. -/
def exhaustions (log : List Exchanged) : List RateLimit := log.filterMap exhaustion?

/-- The clock does not go back from one look to a later one. -/
def ClockAdvances (log : List Exchanged) : Prop :=
  (log.filterMap situation?).Pairwise fun earlier later => earlier.now ≤ later.now

/-- The exhausted quota that was told of last, if that of `memory` comes before the log. -/
def remembered (memory : Option RateLimit) (log : List Exchanged) : Option RateLimit :=
  (exhaustions log).getLast?.or memory

variable {memory : Option RateLimit} {first second : List Exchanged}

theorem exhaustions_append :
    exhaustions (first ++ second) = exhaustions first ++ exhaustions second :=
  List.filterMap_append ..

theorem exhaustions_looked_sent (s : Situation) (request : PageRequest) (reply : PageReply)
    (log : List Exchanged) :
    exhaustions (looked s :: sent request reply :: log) =
      reply.exhausted?.toList ++ exhaustions log := by
  change (sent request reply :: log).filterMap exhaustion? = _
  cases hreply : reply.exhausted? with
  | none => exact List.filterMap_cons_none hreply
  | some quota => exact List.filterMap_cons_some hreply

theorem remembered_append :
    remembered memory (first ++ second) = remembered (remembered memory first) second := by
  rw [remembered, exhaustions_append, List.getLast?_append, Option.or_assoc]
  rfl

theorem remembered_looked (s : Situation) (log : List Exchanged) :
    remembered memory (looked s :: log) = remembered memory log := rfl

theorem remembered_sent (request : PageRequest) (reply : PageReply) (log : List Exchanged) :
    remembered memory (sent request reply :: log) =
      remembered (reply.exhausted?.or memory) log := by
  have hsingle : remembered memory [sent request reply] = reply.exhausted?.or memory := by
    cases hreply : reply.exhausted? <;> simp [remembered, exhaustions, sent, exhaustion?, hreply]
  rw [← List.singleton_append, remembered_append, hsingle]

/-- A request may be sent: the question is not cancelled, and the quota in memory started anew. -/
structure Situation.Permits (memory : Option RateLimit) (s : Situation) : Prop where
  not_cancelled : s.cancelled = false
  reset : ∀ quota, memory = some quota → quota.reset ≤ s.now

/-! ## One question -/

/-- How pages are fetched with a given quota in memory: what is asked, and why it failed. All
answers but the last one leave the memory as it is. -/
inductive Course (memory : Option RateLimit) : List Exchanged → Option GithubError → Prop
  | cancelled {s : Situation} (hcancelled : s.cancelled = true) :
      Course memory [looked s] (some .cancelled)
  | paused {s : Situation} {quota : RateLimit} (hmemory : memory = some quota)
      (hpaused : s.now.before quota.reset = true) :
      Course memory [looked s] (some (.rateLimited quota))
  | last {s : Situation} {request : PageRequest} {reply : PageReply} {failure : Option GithubError}
      (hpermits : s.Permits memory) (hexplains : reply.Explains failure) :
      Course memory [looked s, sent request reply] failure
  | more {s : Situation} {request : PageRequest} {reply : PageReply} {rest : List Exchanged}
      {failure : Option GithubError} (hpermits : s.Permits memory)
      (hexplains : reply.Explains none) (hrest : Course memory rest failure) :
      Course memory (looked s :: sent request reply :: rest) failure

namespace Course

variable {failure : Option GithubError} {exchanges asked rest : List Exchanged} {s : Situation}

/-- A fetch begins with a look. -/
theorem exists_looked (hcourse : Course memory exchanges failure) :
    ∃ s rest, exchanges = looked s :: rest := by
  cases hcourse with
  | cancelled => exact ⟨_, _, rfl⟩
  | paused => exact ⟨_, _, rfl⟩
  | last => exact ⟨_, _, rfl⟩
  | more => exact ⟨_, _, rfl⟩

/-- From each of its looks on, a fetch goes on like one that begins there. -/
theorem of_append (hcourse : Course memory (asked ++ looked s :: rest) failure) :
    Course memory (looked s :: rest) failure ∧ remembered memory asked = memory := by
  generalize hall : asked ++ looked s :: rest = exchanges at hcourse
  induction hcourse generalizing asked with
  | cancelled hcancelled =>
      obtain ⟨rfl, hrest⟩ := List.append_eq_singleton_iff.mp hall |>.resolve_right (by simp)
      exact ⟨hrest ▸ .cancelled hcancelled, rfl⟩
  | paused hmemory hpaused =>
      obtain ⟨rfl, hrest⟩ := List.append_eq_singleton_iff.mp hall |>.resolve_right (by simp)
      exact ⟨hrest ▸ .paused hmemory hpaused, rfl⟩
  | last hpermits hexplains =>
      rcases asked with _ | ⟨first, _ | ⟨second, others⟩⟩
      · cases hall
        exact ⟨.last hpermits hexplains, rfl⟩
      · cases hall
      · simp at hall
  | more hpermits hexplains hrest ih =>
      rcases asked with _ | ⟨first, _ | ⟨second, others⟩⟩
      · cases hall
        exact ⟨.more hpermits hexplains hrest, rfl⟩
      · cases hall
      · simp only [List.cons_append, List.cons.injEq] at hall
        obtain ⟨rfl, rfl, hothers⟩ := hall
        rw [remembered_looked, remembered_sent, hexplains.exhausted?_eq_none]
        exact ih hothers

/-- A request follows upon a look exactly if one may be sent. -/
theorem sends_iff (hcourse : Course memory (looked s :: rest) failure) :
    (∃ request reply more, rest = sent request reply :: more) ↔ s.Permits memory := by
  generalize hall : looked s :: rest = exchanges at hcourse
  cases hcourse with
  | cancelled hcancelled =>
      cases hall
      constructor
      · rintro ⟨_, _, _, hnil⟩
        cases hnil
      · intro hpermits
        cases hcancelled.symm.trans hpermits.not_cancelled
  | paused hmemory hpaused =>
      cases hall
      constructor
      · rintro ⟨_, _, _, hnil⟩
        cases hnil
      · intro hpermits
        cases hpaused.symm.trans (hpermits.reset _ hmemory)
  | last hpermits =>
      cases hall
      exact iff_of_true ⟨_, _, _, rfl⟩ hpermits
  | more hpermits =>
      cases hall
      exact iff_of_true ⟨_, _, _, rfl⟩ hpermits

/-- A fetch that ends with a look without having been cancelled was refused for the quota. -/
theorem rateLimited_of_looked (hcourse : Course memory [looked s] failure)
    (hcancelled : s.cancelled = false) :
    ∃ quota, memory = some quota ∧ failure = some (.rateLimited quota) := by
  generalize hall : [looked s] = exchanges at hcourse
  cases hcourse with
  | cancelled hcancelled' =>
      cases hall
      cases hcancelled.symm.trans hcancelled'
  | paused hmemory => exact ⟨_, hmemory, rfl⟩
  | last => cases hall
  | more => cases hall

/-- A fetch that fails for the quota fails for the one that it remembers. -/
theorem remembered_of_rateLimited {quota : RateLimit}
    (hcourse : Course memory exchanges (some (.rateLimited quota))) :
    remembered memory exchanges = some quota := by
  generalize hfailure : some (GithubError.rateLimited quota) = failure at hcourse
  induction hcourse with
  | cancelled => cases hfailure
  | paused hmemory =>
      cases hfailure
      rw [remembered_looked, ← hmemory]
      rfl
  | last _ hexplains =>
      have hquota := (hexplains.rateLimited quota).mp hfailure.symm
      rw [remembered_looked, remembered_sent, hquota]
      rfl
  | more _ hexplains _ ih =>
      rw [remembered_looked, remembered_sent, hexplains.exhausted?_eq_none]
      exact ih hfailure

/-- A fetch fails as unauthorized exactly if an answer says so. -/
theorem unauthorized_iff (hcourse : Course memory exchanges failure) :
    failure = some .unauthorized ↔ exchanges.any isUnauthorized = true := by
  induction hcourse with
  | cancelled => simp [looked, isUnauthorized]
  | paused => simp [looked, isUnauthorized]
  | last _ hexplains =>
      rw [hexplains.unauthorized]
      simp [looked, sent, isUnauthorized]
  | more _ hexplains _ ih =>
      rw [ih]
      simp [looked, sent, isUnauthorized, hexplains.isUnauthorized_eq_false]

end Course

section Fetch

variable {α : Type} {read : Json → Option α} {url : String} {page room : Nat} {c c' : Client}
  {s : Situation} {exchanges : List Exchanged}

/-- The client remembers what an answer tells about the quota. -/
theorem remember_outcome (c : Client) (reply : PageReply) :
    c.remember (reply.outcome url read) =
      { c with exhausted := reply.exhausted?.or c.exhausted } := by
  have hexplains := reply.explains_outcome url read
  cases hquota : reply.exhausted? with
  | some quota =>
      have houtcome := (hexplains.rateLimited quota).mpr hquota
      cases hresult : reply.outcome url read with
      | ok value => rw [hresult] at houtcome; cases houtcome
      | error e =>
          rw [hresult] at houtcome
          cases houtcome
          rfl
  | none =>
      unfold remember
      split
      next quota hresult =>
        have hsome := (hexplains.rateLimited quota).mp (by rw [hresult]; rfl)
        cases hquota.symm.trans hsome
      next => rfl

/-- A page is refused by the client itself, or it is what one request was answered. -/
theorem cases_of_ends_getPage {outcome : Except GithubError (List α × Bool)}
    (hends : Ends (c.getPage read url page s) exchanges (outcome, c')) :
    (∃ e, outcome = .error e ∧ Course c.exhausted [looked s] (some e) ∧ exchanges = [] ∧ c' = c) ∨
      s.Permits c.exhausted ∧ ∃ request reply, exchanges = [sent request reply] ∧
        outcome = reply.outcome url read ∧
        c' = { c with exhausted := reply.exhausted?.or c.exhausted } := by
  rw [getPage] at hends
  split at hends
  next quota hpaused =>
    obtain ⟨rfl, hvalue⟩ := ends_done_iff.mp hends
    cases hvalue
    obtain ⟨hmemory, hbefore⟩ := Option.filter_eq_some_iff.mp hpaused
    exact .inl ⟨_, rfl, .paused hmemory hbefore, rfl, rfl⟩
  next hfree =>
    split at hends
    next hcancelled =>
      obtain ⟨rfl, hvalue⟩ := ends_done_iff.mp hends
      cases hvalue
      exact .inl ⟨_, rfl, .cancelled hcancelled, rfl, rfl⟩
    next hcancelled =>
      simp only [monad_bind, monad_pure, send, ask, ends_bind_iff, ends_question_iff,
        ends_done_iff] at hends
      obtain ⟨_, _, reply, rfl, rfl, rfl, hvalue⟩ := hends
      cases hvalue
      refine .inr ⟨⟨by simpa using hcancelled, fun quota hmemory => ?_⟩, _, reply, rfl, rfl,
        remember_outcome ..⟩
      have hover := Option.filter_eq_none_iff.mp hfree quota hmemory
      exact Bool.eq_false_iff.mpr hover

/-- A list is fetched with its first page, or the other pages are fetched after it. The client is
the same then, because a page that was read tells nothing about the quota. -/
theorem cases_of_ends_getPages {outcome : Except GithubError (List α)}
    (hends : Ends (getPages read url (room + 1) page c) exchanges (outcome, c')) :
    Course c.exhausted exchanges (failure? outcome) ∧
        c' = { c with exhausted := remembered c.exhausted exchanges } ∨
      ∃ s request reply rest others, exchanges = looked s :: sent request reply :: rest ∧
        s.Permits c.exhausted ∧ reply.Explains none ∧
        Ends (getPages read url room (page + 1) c) rest (others, c') ∧
        failure? outcome = failure? others := by
  simp only [getPages, monad_bind, monad_pure, look, ask, ends_bind_iff, ends_question_iff] at hends
  obtain ⟨_, _, s, rfl, rfl, hends⟩ := hends
  split at hends
  next hcancelled =>
    obtain ⟨rfl, hvalue⟩ := ends_done_iff.mp hends
    cases hvalue
    exact .inl ⟨.cancelled hcancelled, rfl⟩
  next hcancelled =>
    simp only [ends_bind_iff, Prod.exists] at hends
    obtain ⟨asked, rest, paged, next, rfl, hpage, hends⟩ := hends
    rcases cases_of_ends_getPage hpage with
      ⟨e, rfl, hcourse, rfl, rfl⟩ | ⟨hpermits, request, reply, rfl, rfl, rfl⟩
    · obtain ⟨rfl, hvalue⟩ := ends_done_iff.mp hends
      cases hvalue
      exact .inl ⟨hcourse, rfl⟩
    · have hexplains := reply.explains_outcome url read
      have hremembered : remembered c.exhausted [looked s, sent request reply] =
          reply.exhausted?.or c.exhausted := by
        rw [remembered_looked, remembered_sent]
        rfl
      cases hresult : reply.outcome url read with
      | error e =>
          rw [hresult] at hends hexplains
          obtain ⟨rfl, hvalue⟩ := ends_done_iff.mp hends
          cases hvalue
          refine .inl ⟨.last hpermits hexplains, ?_⟩
          rw [← hremembered]
          rfl
      | ok found =>
          obtain ⟨items, hasNext⟩ := found
          rw [hresult] at hends hexplains
          cases hasNext with
          | false =>
              obtain ⟨rfl, hvalue⟩ := ends_done_iff.mp hends
              cases hvalue
              refine .inl ⟨.last hpermits hexplains, ?_⟩
              rw [← hremembered]
              rfl
          | true =>
              simp only [hexplains.exhausted?_eq_none, Option.none_or, ends_bind_iff, Prod.exists,
                ends_done_iff] at hends
              obtain ⟨rest, _, others, _, rfl, hrest, rfl, hvalue⟩ := hends
              cases hvalue
              rw [List.append_nil]
              exact .inr ⟨s, request, reply, rest, others, rfl, hpermits, hexplains, hrest, by simp⟩

/-- A list is fetched page by page, and the client remembers what the answers tell about
the quota. -/
theorem course_of_ends_getPages {outcome : Except GithubError (List α)}
    (hends : Ends (getPages read url (room + 1) page c) exchanges (outcome, c')) :
    Course c.exhausted exchanges (failure? outcome) ∧
      c' = { c with exhausted := remembered c.exhausted exchanges } := by
  induction room generalizing page exchanges outcome with
  | zero =>
      rcases cases_of_ends_getPages hends with hcourse |
        ⟨s, request, reply, rest, others, rfl, hpermits, hexplains, hrest, hfailure⟩
      · exact hcourse
      · obtain ⟨rfl, hvalue⟩ := ends_done_iff.mp hrest
        cases hvalue
        refine ⟨.last hpermits (hfailure ▸ hexplains), ?_⟩
        rw [remembered_looked, remembered_sent, hexplains.exhausted?_eq_none]
        rfl
  | succ room ih =>
      rcases cases_of_ends_getPages hends with hcourse |
        ⟨s, request, reply, rest, others, rfl, hpermits, hexplains, hrest, hfailure⟩
      · exact hcourse
      · obtain ⟨hcourse, hnext⟩ := ih hrest
        refine ⟨.more hpermits hexplains (hfailure ▸ hcourse), ?_⟩
        rw [remembered_looked, remembered_sent, hexplains.exhausted?_eq_none]
        exact hnext

end Fetch

/-- What a client is asked. -/
inductive Question where
  | releases (q : ReleaseQuery)
  | assets (q : ArtifactQuery)
  | packages (q : ArtifactQuery)

namespace Question

/-- What is asked for. -/
abbrev Item : Question → Type
  | .releases _ => Release
  | .assets _ => Asset
  | .packages _ => Package

def isPackages : Question → Bool
  | .packages _ => true
  | _ => false

end Question

/-- A client answers a question. -/
def answer (c : Client) :
    (question : Question) → Talk (Except GithubError (List question.Item) × Client)
  | .releases q => c.getReleases q
  | .assets q => c.getAssets q
  | .packages q => c.getPackages q

/-- A question that was put to a client, what was exchanged with GitHub, and the answer. -/
structure Visit where
  question : Question
  exchanges : List Exchanged
  answer : Except GithubError (List question.Item)

/-- How a client answers one question, and what it remembers afterwards. -/
inductive Answers (c : Client) (visit : Visit) (c' : Client) : Prop
  | barred (hpackages : visit.question.isPackages = true) (hbarred : c.packagesUnauthorized = true)
      (hexchanges : visit.exchanges = []) (hanswer : failure? visit.answer = some .unauthorized)
      (hclient : c' = c)
  | fetched {failure : Option GithubError}
      (hopen : visit.question.isPackages = true → c.packagesUnauthorized = false)
      (hcourse : Course c.exhausted visit.exchanges failure)
      (hanswer : failure? visit.answer = failure ∨
        failure = none ∧ ∃ owner repo, failure? visit.answer = some (.noReleases owner repo))
      (hexhausted : c'.exhausted = remembered c.exhausted visit.exchanges)
      (hunauthorized : c'.packagesUnauthorized = true ↔ c.packagesUnauthorized = true ∨
        visit.question.isPackages = true ∧ failure = some .unauthorized)

section Answers

variable {c c' : Client} {exchanges : List Exchanged}

/-- Only answers about packages change what is remembered about them. -/
theorem Answers.of_course {visit : Visit} {failure : Option GithubError}
    (hother : visit.question.isPackages = false)
    (hcourse : Course c.exhausted visit.exchanges failure)
    (hanswer : failure? visit.answer = failure ∨
      failure = none ∧ ∃ owner repo, failure? visit.answer = some (.noReleases owner repo)) :
    Answers c visit { c with exhausted := remembered c.exhausted visit.exchanges } := by
  refine .fetched ?_ hcourse hanswer rfl ?_
  · simp [hother]
  · simp [hother]

theorem answers_of_ends_getReleases {q : ReleaseQuery} {answer : Except GithubError (List Release)}
    (hends : Ends (c.getReleases q) exchanges (answer, c')) :
    Answers c ⟨.releases q, exchanges, answer⟩ c' := by
  simp only [getReleases, monad_bind, monad_pure, ends_bind_iff, Prod.exists] at hends
  obtain ⟨asked, _, found, _, rfl, hpages, hends⟩ := hends
  obtain ⟨hcourse, rfl⟩ := course_of_ends_getPages hpages
  cases found with
  | error e =>
      obtain ⟨rfl, hvalue⟩ := ends_done_iff.mp hends
      cases hvalue
      rw [List.append_nil]
      exact .of_course rfl hcourse (.inl rfl)
  | ok releases =>
      cases releases with
      | nil =>
          obtain ⟨rfl, hvalue⟩ := ends_done_iff.mp hends
          cases hvalue
          rw [List.append_nil]
          exact .of_course rfl hcourse (.inr ⟨rfl, _, _, rfl⟩)
      | cons first others =>
          obtain ⟨rfl, hvalue⟩ := ends_done_iff.mp hends
          cases hvalue
          rw [List.append_nil]
          exact .of_course rfl hcourse (.inl rfl)

theorem answers_of_ends_getAssets {q : ArtifactQuery} {answer : Except GithubError (List Asset)}
    (hends : Ends (c.getAssets q) exchanges (answer, c')) :
    Answers c ⟨.assets q, exchanges, answer⟩ c' := by
  simp only [getAssets, monad_bind, monad_pure, look, ask, ends_bind_iff, ends_question_iff,
    Prod.exists, ends_done_iff] at hends
  obtain ⟨_, _, s, rfl, rfl, asked, _, paged, _, rfl, hpage, rfl, hvalue⟩ := hends
  cases hvalue
  rw [List.append_nil]
  rcases cases_of_ends_getPage hpage with
    ⟨e, rfl, hcourse, rfl, rfl⟩ | ⟨hpermits, request, reply, rfl, rfl, rfl⟩
  · exact .of_course rfl hcourse (.inl rfl)
  · have hexplains := reply.explains_outcome (c.assetsUrl q) Asset.ofJson?
    have hremembered : remembered c.exhausted [looked s, sent request reply] =
        reply.exhausted?.or c.exhausted := by
      rw [remembered_looked, remembered_sent]
      rfl
    rw [← hremembered]
    exact .of_course rfl (.last hpermits hexplains) (.inl (failure?_map ..))

theorem answers_of_ends_getPackages {q : ArtifactQuery} {answer : Except GithubError (List Package)}
    (hends : Ends (c.getPackages q) exchanges (answer, c')) :
    Answers c ⟨.packages q, exchanges, answer⟩ c' := by
  rw [getPackages] at hends
  split at hends
  next hbarred =>
    obtain ⟨rfl, hvalue⟩ := ends_done_iff.mp hends
    cases hvalue
    exact .barred rfl hbarred rfl rfl rfl
  next hopen =>
    simp only [monad_bind, monad_pure, ends_bind_iff, Prod.exists] at hends
    obtain ⟨asked, _, found, _, rfl, hpages, hends⟩ := hends
    obtain ⟨hcourse, rfl⟩ := course_of_ends_getPages hpages
    have hclosed := Bool.eq_false_iff.mpr hopen
    split at hends
    next hfound =>
      cases hfound
      obtain ⟨rfl, hvalue⟩ := ends_done_iff.mp hends
      cases hvalue
      rw [List.append_nil]
      exact .fetched (fun _ => hclosed) hcourse (.inl rfl) rfl (by simp)
    next hfound =>
      cases hfound
      obtain ⟨rfl, hvalue⟩ := ends_done_iff.mp hends
      cases hvalue
      rw [List.append_nil]
      exact .fetched (fun _ => hclosed) hcourse (.inl rfl) rfl (by simp [Question.isPackages])
    next e _ hne hfound =>
      cases hfound
      obtain ⟨rfl, hvalue⟩ := ends_done_iff.mp hends
      cases hvalue
      rw [List.append_nil]
      have hother : e ≠ .unauthorized := by
        rintro rfl
        exact hne rfl
      exact .fetched (fun _ => hclosed) hcourse (.inl rfl) rfl (by simp [hother])

theorem answers_of_ends (visit : Visit)
    (hends : Ends (c.answer visit.question) visit.exchanges (visit.answer, c')) :
    Answers c visit c' := by
  obtain ⟨question, exchanges, answer⟩ := visit
  cases question with
  | releases => exact answers_of_ends_getReleases hends
  | assets => exact answers_of_ends_getAssets hends
  | packages => exact answers_of_ends_getPackages hends

end Answers

/-! ## One question after the other -/

/-- Questions that are put to a client one after the other, from its first state to its last. -/
inductive Session : Client → List Visit → Client → Prop
  | nil (c : Client) : Session c [] c
  | cons {c c' last : Client} {rest : List Visit} (visit : Visit)
      (hends : Ends (c.answer visit.question) visit.exchanges (visit.answer, c'))
      (hrest : Session c' rest last) : Session c (visit :: rest) last

/-- All exchanges of the visits in their order. -/
def log (visits : List Visit) : List Exchanged := visits.flatMap Visit.exchanges

/-- A request for packages was answered with "unauthorized". -/
def Denied (visits : List Visit) : Prop :=
  ∃ visit ∈ visits, visit.question.isPackages = true ∧ visit.exchanges.any isUnauthorized = true

namespace Answers

variable {c c' : Client} {visit : Visit}

theorem exhausted_eq (hanswers : Answers c visit c') :
    c'.exhausted = remembered c.exhausted visit.exchanges := by
  cases hanswers with
  | barred _ _ hexchanges _ hclient =>
      rw [hclient, hexchanges]
      rfl
  | fetched _ _ _ hexhausted _ => exact hexhausted

theorem packagesUnauthorized_iff (hanswers : Answers c visit c') :
    c'.packagesUnauthorized = true ↔ c.packagesUnauthorized = true ∨
      visit.question.isPackages = true ∧ visit.exchanges.any isUnauthorized = true := by
  cases hanswers with
  | barred _ hbarred hexchanges _ hclient => simp [hclient, hexchanges]
  | fetched _ hcourse _ _ hunauthorized => rw [hunauthorized, hcourse.unauthorized_iff]

end Answers

namespace Session

variable {c last : Client} {visits before after : List Visit} {visit : Visit}

/-- What a client remembers of the quota is the last that it was told. -/
theorem exhausted_eq (hsession : Session c visits last) :
    last.exhausted = remembered c.exhausted (log visits) := by
  induction hsession with
  | nil => rfl
  | cons visit hends _ ih =>
      rw [ih, (answers_of_ends visit hends).exhausted_eq, ← remembered_append]
      rfl

/-- A client remembers that packages may not be looked up once it was told so, and for good. -/
theorem packagesUnauthorized_iff (hsession : Session c visits last) :
    last.packagesUnauthorized = true ↔ c.packagesUnauthorized = true ∨ Denied visits := by
  induction hsession with
  | nil => simp [Denied]
  | cons visit hends _ ih =>
      rw [ih, (answers_of_ends visit hends).packagesUnauthorized_iff]
      simp only [Denied, List.mem_cons, exists_eq_or_imp, or_assoc]

theorem split (hsession : Session c (before ++ visit :: after) last) :
    ∃ middle next, Session c before middle ∧ Answers middle visit next ∧
      Session next after last := by
  induction before generalizing c with
  | nil =>
      cases hsession with
      | cons _ hends hrest => exact ⟨c, _, .nil c, answers_of_ends visit hends, hrest⟩
  | cons first others ih =>
      cases hsession with
      | cons _ hends hrest =>
          obtain ⟨middle, next, hothers, hanswers, hafter⟩ := ih hrest
          exact ⟨middle, next, .cons first hends hothers, hanswers, hafter⟩

end Session

/-- A client answers a question by what it was answered to the questions before. -/
structure Visit.Heeds (before : List Visit) (visit : Visit) : Prop where
  /-- Nothing is asked about packages once a request for them was answered with "unauthorized". -/
  barred_iff : visit.exchanges = [] ↔ visit.question.isPackages = true ∧ Denied before
  unauthorized : visit.exchanges = [] → failure? visit.answer = some .unauthorized
  /-- A request is sent after each look that permits one, given the quota that was told of last. -/
  sends_iff : ∀ asked s rest, visit.exchanges = asked ++ looked s :: rest →
    ((∃ request reply more, rest = sent request reply :: more) ↔
      s.Permits (exhaustions (log before ++ asked)).getLast?)
  /-- If none is sent although the question is not cancelled, this quota is the answer. -/
  refused : ∀ asked s, visit.exchanges = asked ++ [looked s] → s.cancelled = false →
    ∃ quota, (exhaustions (log before ++ asked)).getLast? = some quota ∧
      failure? visit.answer = some (.rateLimited quota)
  rateLimited : ∀ quota, failure? visit.answer = some (.rateLimited quota) →
    (exhaustions (log before ++ visit.exchanges)).getLast? = some quota

/-- A client heeds what it was told since it was new. -/
theorem Answers.heeds {baseUrl : String} {token : Option String} {before : List Visit}
    {visit : Visit} {c c' : Client} (hbefore : Session (.new baseUrl token) before c)
    (hanswers : Answers c visit c') : visit.Heeds before := by
  have hdenied : c.packagesUnauthorized = true ↔ Denied before := by
    rw [hbefore.packagesUnauthorized_iff]
    simp [new]
  have hmemory (asked : List Exchanged) :
      remembered c.exhausted asked = (exhaustions (log before ++ asked)).getLast? := by
    rw [hbefore.exhausted_eq, ← remembered_append]
    exact Option.or_none
  cases hanswers with
  | barred hpackages hbarred hexchanges hanswer _ =>
      refine ⟨?_, fun _ => hanswer, ?_, ?_, ?_⟩
      · exact iff_of_true hexchanges ⟨hpackages, hdenied.mp hbarred⟩
      · intro asked s rest hsplit
        simp [hexchanges] at hsplit
      · intro asked s hsplit
        simp [hexchanges] at hsplit
      · intro quota hquota
        cases hanswer.symm.trans hquota
  | fetched hopen hcourse hanswer _ _ =>
      have hlooks : visit.exchanges ≠ [] := by
        obtain ⟨s, rest, hexchanges⟩ := hcourse.exists_looked
        simp [hexchanges]
      refine ⟨?_, fun hnone => absurd hnone hlooks, ?_, ?_, ?_⟩
      · refine iff_of_false hlooks fun ⟨hpackages, hbarred⟩ => ?_
        cases (hopen hpackages).symm.trans (hdenied.mpr hbarred)
      · intro asked s rest hsplit
        rw [hsplit] at hcourse
        obtain ⟨hrest, hasked⟩ := hcourse.of_append
        rw [← hmemory, hasked]
        exact hrest.sends_iff
      · intro asked s hsplit hcancelled
        rw [hsplit] at hcourse
        obtain ⟨hrest, hasked⟩ := hcourse.of_append
        obtain ⟨quota, hquota, hfailure⟩ := hrest.rateLimited_of_looked hcancelled
        refine ⟨quota, by rw [← hmemory, hasked, hquota], ?_⟩
        rcases hanswer with hsame | ⟨hnone, -⟩
        · exact hsame.trans hfailure
        · cases hnone.symm.trans hfailure
      · intro quota hquota
        rcases hanswer with hsame | ⟨-, _, _, hother⟩
        · rw [← hsame, hquota] at hcourse
          rw [← hmemory, hcourse.remembered_of_rateLimited]
        · cases hother.symm.trans hquota

/-! ## All requests -/

/-- Every request comes right after a look that permits one, given the quota that was told of
last. -/
inductive Courteous : Option RateLimit → List Exchanged → Prop
  | nil (memory : Option RateLimit) : Courteous memory []
  | look {memory : Option RateLimit} {rest : List Exchanged} (s : Situation)
      (hrest : Courteous memory rest) : Courteous memory (looked s :: rest)
  | send {memory : Option RateLimit} {s : Situation} {request : PageRequest} {reply : PageReply}
      {rest : List Exchanged} (hpermits : s.Permits memory)
      (hrest : Courteous (reply.exhausted?.or memory) rest) :
      Courteous memory (looked s :: sent request reply :: rest)

theorem Courteous.append (hfirst : Courteous memory first)
    (hsecond : Courteous (remembered memory first) second) :
    Courteous memory (first ++ second) := by
  induction hfirst with
  | nil => exact hsecond
  | look s _ ih => exact .look s (ih hsecond)
  | send hpermits _ ih =>
      rw [remembered_looked, remembered_sent] at hsecond
      exact .send hpermits (ih hsecond)

theorem Course.courteous {failure : Option GithubError} (hcourse : Course memory first failure) :
    Courteous memory first := by
  induction hcourse with
  | cancelled => exact .look _ (.nil _)
  | paused => exact .look _ (.nil _)
  | last hpermits => exact .send hpermits (.nil _)
  | more hpermits hexplains _ ih =>
      refine .send hpermits ?_
      rw [hexplains.exhausted?_eq_none]
      exact ih

theorem Session.courteous {c last : Client} {visits : List Visit}
    (hsession : Session c visits last) : Courteous c.exhausted (log visits) := by
  induction hsession with
  | nil => exact .nil _
  | cons visit hends _ ih =>
      have hanswers := answers_of_ends visit hends
      rw [hanswers.exhausted_eq] at ih
      cases hanswers with
      | barred _ _ hexchanges _ _ => exact .append (hexchanges ▸ .nil _) ih
      | fetched _ hcourse _ _ _ => exact hcourse.courteous.append ih

/-- A request is sent right after a look, for a question that is not cancelled, and when all quotas
of which earlier answers told have started anew. -/
def Patient (log : List Exchanged) : Prop :=
  ∀ before request reply after, log = before ++ sent request reply :: after →
    ∃ earlier s, before = earlier ++ [looked s] ∧ s.cancelled = false ∧
      ∀ quota ∈ exhaustions earlier, quota.reset ≤ s.now

/-- Of the quotas that were seen exhausted only the last one may not have started anew, as long as
the clock does not go back. -/
theorem Courteous.reset_le {log : List Exchanged} (hcourteous : Courteous memory log)
    (hclock : ClockAdvances log) {seen : List RateLimit}
    (hseen : ∀ quota ∈ seen, memory = some quota ∨
      ∀ s ∈ log.filterMap situation?, quota.reset ≤ s.now)
    {before after : List Exchanged} {request : PageRequest} {reply : PageReply}
    (hsplit : log = before ++ sent request reply :: after) :
    ∃ earlier s, before = earlier ++ [looked s] ∧ s.cancelled = false ∧
      ∀ quota ∈ seen ++ exhaustions earlier, quota.reset ≤ s.now := by
  induction hcourteous generalizing seen before with
  | nil => simp at hsplit
  | look first _ ih =>
      cases before with
      | nil => cases hsplit
      | cons _ others =>
          obtain ⟨rfl, hothers⟩ := List.cons.inj hsplit
          have hseen_rest (quota : RateLimit) (hquota : quota ∈ seen) :=
            (hseen quota hquota).imp_right fun hlooks s hs =>
              hlooks s (List.mem_cons_of_mem _ hs)
          obtain ⟨earlier, s, rfl, hcancelled, hreset⟩ :=
            ih (List.pairwise_cons.mp hclock).2 hseen_rest hothers
          exact ⟨looked first :: earlier, s, rfl, hcancelled, hreset⟩
  | @send memory first _ answered others hpermits _ ih =>
      obtain ⟨hafter, hclock⟩ := List.pairwise_cons.mp hclock
      have hreset_first (quota : RateLimit) (hquota : quota ∈ seen) : quota.reset ≤ first.now := by
        rcases hseen quota hquota with hmemory | hlooks
        · exact hpermits.reset quota hmemory
        · exact hlooks first List.mem_cons_self
      rcases before with _ | ⟨_, _ | ⟨_, between⟩⟩
      · cases hsplit
      · cases hsplit
        refine ⟨[], first, rfl, hpermits.not_cancelled, fun quota hquota => ?_⟩
        exact hreset_first quota (by simpa [exhaustions] using hquota)
      · simp only [List.cons_append, List.cons.injEq] at hsplit
        obtain ⟨rfl, rfl, hothers⟩ := hsplit
        -- what the answer tells of takes the place of the quota in memory
        have hseen_rest (quota : RateLimit) (hquota : quota ∈ seen ++ answered.exhausted?.toList) :
            answered.exhausted?.or memory = some quota ∨
              ∀ s ∈ others.filterMap situation?, quota.reset ≤ s.now := by
          rcases List.mem_append.mp hquota with hquota | hquota
          · exact .inr fun s hs => Instant.le_trans (hreset_first quota hquota) (hafter s hs)
          · rw [Option.mem_toList.mp hquota]
            exact .inl rfl
        obtain ⟨earlier, s, rfl, hcancelled, hreset⟩ := ih hclock hseen_rest hothers
        refine ⟨looked first :: sent _ answered :: earlier, s, rfl, hcancelled, ?_⟩
        intro quota hquota
        apply hreset
        rwa [exhaustions_looked_sent, ← List.append_assoc] at hquota

/-- A client heeds all answers, whatever it is asked and answered. No request is sent for a question
that was cancelled or before a quota that was told of as exhausted starts anew, and each question is
answered by what was remembered. -/
theorem Session.heeds_answers {baseUrl : String} {token : Option String} {visits : List Visit}
    {last : Client} (hsession : Session (.new baseUrl token) visits last) :
    (ClockAdvances (log visits) → Patient (log visits)) ∧
      ∀ before visit after, visits = before ++ visit :: after → visit.Heeds before := by
  constructor
  · intro hclock before request reply after hsplit
    exact hsession.courteous.reset_le hclock (List.forall_mem_nil _) hsplit
  · rintro before visit after rfl
    obtain ⟨_, _, hbefore, hanswers, -⟩ := hsession.split
    exact hanswers.heeds hbefore

/-! ## A session with refusals -/

/-- One hour after the start of 1970. -/
def oneHourIn : Instant :=
  { Instant.epoch with second := 3600, inRange := by decide, leap := by decide }

def hourlyQuota : RateLimit := { limit := 60, remaining := 0, reset := oneHourIn }

/-- A refusal that tells of the quota. -/
def refusal : PageReply :=
  .answered
    { status := 403
      headers := [("x-ratelimit-limit", "60"), ("x-ratelimit-remaining", "0"),
        ("x-ratelimit-reset", "3600")]
      body := .text "" }

def denial : PageReply := .answered { status := 401, body := .text "" }

def fresh : Client := .new "https://api.github.com" none

def query : ArtifactQuery :=
  { owner := "owner", repo := "repo", release := { id := 1, tag := "v1" } }

def refusedVisit : Visit where
  question := .assets query
  exchanges := [looked { now := .epoch }, sent { url := fresh.assetsUrl query, page := 1 } refusal]
  answer := .error (.rateLimited hourlyQuota)

/-- The same question again, which is not sent. -/
def pausedVisit : Visit where
  question := .assets query
  exchanges := [looked { now := .epoch }]
  answer := .error (.rateLimited hourlyQuota)

/-- A question for packages once the quota starts anew. -/
def deniedVisit : Visit where
  question := .packages query
  exchanges := [looked { now := oneHourIn },
    sent { url := fresh.packagesUrl query, page := 1 } denial]
  answer := .error .unauthorized

def barredVisit : Visit where
  question := .packages query
  exchanges := []
  answer := .error .unauthorized

/-- The client after the refusal. -/
def paused : Client := { fresh with exhausted := some hourlyQuota }

theorem session_barredVisit :
    Session fresh ([refusedVisit, pausedVisit, deniedVisit] ++ barredVisit :: [])
      { paused with packagesUnauthorized := true } := by
  have hrefused : Ends (fresh.answer refusedVisit.question) refusedVisit.exchanges
      (refusedVisit.answer, paused) := by
    apply Ends.ask
    apply Ends.ask
    exact .done _
  have hpaused : Ends (paused.answer pausedVisit.question) pausedVisit.exchanges
      (pausedVisit.answer, paused) := by
    apply Ends.ask
    exact .done _
  have hdenied : Ends (paused.answer deniedVisit.question) deniedVisit.exchanges
      (deniedVisit.answer, { paused with packagesUnauthorized := true }) := by
    apply Ends.ask
    apply Ends.ask
    exact .done _
  exact .cons _ hrefused (.cons _ hpaused (.cons _ hdenied (.cons _ (.done _) (.nil _))))

/-- The client sends two of four questions, the second one when the quota has started anew. -/
theorem heeds_barredVisit :
    Patient (log [refusedVisit, pausedVisit, deniedVisit, barredVisit]) ∧
      barredVisit.Heeds [refusedVisit, pausedVisit, deniedVisit] := by
  have hclock : ClockAdvances (log [refusedVisit, pausedVisit, deniedVisit, barredVisit]) := by
    unfold ClockAdvances
    decide +kernel
  obtain ⟨hpatient, hheeds⟩ := session_barredVisit.heeds_answers
  exact ⟨hpatient hclock, hheeds _ _ _ rfl⟩

end Client

end ReleaseBuilds
