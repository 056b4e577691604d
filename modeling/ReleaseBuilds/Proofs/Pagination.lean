import Mathlib.Data.Nat.Find
import ReleaseBuilds.Proofs.Sessions

/-!
# All pages or none

A list that GitHub hands out page by page is asked for from its first page on, for as long as a page
announces another one. It is given as a whole if every page can be read. Otherwise the first page
that fails decides, nothing of the pages before it is given, and nothing is asked after it.
-/

namespace ReleaseBuilds.Client

open Dialogue

/-- How GitHub answers a question for a list, page by page: what the client sees when it looks up
before a page, and what becomes of the request for it. The pages that can be read announce another
one, up to the last. -/
structure Script where
  situation : Nat → Situation
  reply : Nat → PageReply
  last : Nat
  last_pos : 0 < last
  last_lt : last < UInt32.size
  announces : ∀ page, 1 ≤ page → page ≤ last → ∀ response, reply page = .answered response →
    response.isSuccess = true → response.hasNext = decide (page < last)

namespace Script

variable (script : Script) {α : Type} (read : Json → Option α) (url : String)

/-- All pages in order. -/
def pages : List Nat := List.range' 1 script.last

/-- The world that plays the script. Its state is the page that comes next. -/
def world : World Call Call.Answer Nat
  | page, .look => (script.situation page, page)
  | _, .send request => (script.reply request.page, request.page + 1)

/-- What becomes of a page. -/
def outcome (page : Nat) : Except GithubError (List α × Bool) :=
  if (script.situation page).cancelled then .error .cancelled
  else (script.reply page).outcome url read

def Reads (page : Nat) : Prop := ∃ found, script.outcome read url page = .ok found

/-- The items of a page, if it can be read. -/
def items (page : Nat) : List α := ((script.outcome read url page).toOption.map Prod.fst).getD []

/-- What is asked for a page. -/
def visit (token : Option String) (page : Nat) : List Exchanged :=
  looked (script.situation page) ::
    if (script.situation page).cancelled then []
    else [sent ⟨url, page, token⟩ (script.reply page)]

variable {script read url} {page : Nat}

theorem mem_pages_iff : page ∈ script.pages ↔ 1 ≤ page ∧ page ≤ script.last := by
  rw [pages, List.mem_range'_1]
  omega

theorem not_cancelled_of_outcome {found : List α × Bool}
    (hread : script.outcome read url page = .ok found) :
    (script.situation page).cancelled = false := by
  cases hcancelled : (script.situation page).cancelled with
  | false => rfl
  | true =>
      rw [outcome, hcancelled] at hread
      cases hread

/-- A page that can be read announces another one exactly if it is not the last. -/
theorem announces_of_outcome (hpage : page ∈ script.pages) {found : List α × Bool}
    (hread : script.outcome read url page = .ok found) :
    found.2 = decide (page < script.last) := by
  obtain ⟨hfirst, hlast⟩ := mem_pages_iff.mp hpage
  rw [outcome, not_cancelled_of_outcome hread, if_neg Bool.false_ne_true] at hread
  cases hreply : script.reply page with
  | failed => rw [hreply] at hread; cases hread
  | cancelled => rw [hreply] at hread; cases hread
  | answered response =>
      rw [hreply, PageReply.outcome] at hread
      split at hread
      next hsuccess =>
        rw [← script.announces page hfirst hlast response hreply hsuccess]
        cases hitems : response.items url read with
        | error e => rw [hitems] at hread; cases hread
        | ok items =>
            rw [hitems] at hread
            cases hread
            rfl
      next => cases hread

end Script

variable {c : Client} {script : Script} {α : Type} {read : Json → Option α} {url : String}
  {page : Nat}

/-! ## The loop over the pages -/

theorem hold_look :
    look.hold script.world page =
      (script.situation page, [looked (script.situation page)], page) := rfl

/-- Without a quota in memory a page is requested, unless the look before it says otherwise. -/
theorem hold_getPage (hquota : c.exhausted = none)
    (hcancelled : (script.situation page).cancelled = false) :
    (c.getPage read url page (script.situation page)).hold script.world page =
      ((script.outcome read url page, c.remember (script.outcome read url page)),
        [sent ⟨url, page, c.token⟩ (script.reply page)], page + 1) := by
  rw [getPage, pausedBy?, hquota, Script.outcome, hcancelled]
  rfl

/-- A page that fails, or announces no other one, is the last that is asked for. -/
theorem hold_getPages_of_stop (hquota : c.exhausted = none) (room : Nat)
    (hstop : ∀ items, script.outcome read url page ≠ .ok (items, true)) :
    ∃ next, (getPages read url (room + 1) page c).hold script.world page =
      (((script.outcome read url page).map Prod.fst, c.remember (script.outcome read url page)),
        script.visit url c.token page, next) := by
  rw [getPages, Script.visit]
  cases hcancelled : (script.situation page).cancelled with
  | true =>
      have houtcome : script.outcome read url page = .error .cancelled := by
        rw [Script.outcome, hcancelled]
        rfl
      rw [houtcome]
      refine ⟨page, hold_bind hold_look ?_⟩
      rw [hcancelled]
      rfl
  | false =>
      refine ⟨page + 1, hold_bind hold_look ?_⟩
      rw [hcancelled]
      refine hold_bind (hold_getPage hquota hcancelled) ?_
      cases houtcome : script.outcome read url page with
      | error e => rfl
      | ok found =>
          obtain ⟨items, more⟩ := found
          cases more with
          | false => rfl
          | true => exact absurd houtcome (hstop items)

/-- After a page that announces another one the list goes on. -/
theorem hold_getPages_of_more (hquota : c.exhausted = none) {room : Nat} {items : List α}
    (hmore : script.outcome read url page = .ok (items, true))
    {rest : Except GithubError (List α)} {c' : Client} {exchanges : List Exchanged} {next : Nat}
    (hrest : (getPages read url room (page + 1) c).hold script.world (page + 1) =
      ((rest, c'), exchanges, next)) :
    (getPages read url (room + 1) page c).hold script.world page =
      ((rest.map (items ++ ·), c'), script.visit url c.token page ++ exchanges, next) := by
  have hcancelled := Script.not_cancelled_of_outcome hmore
  have hpage : (c.getPage read url page (script.situation page)).hold script.world page =
      ((.ok (items, true), c), [sent ⟨url, page, c.token⟩ (script.reply page)], page + 1) := by
    rw [hold_getPage hquota hcancelled, hmore]
    rfl
  have hjoined : (Dialogue.bind (getPages read url room (page + 1) c) fun found =>
      .done (found.1.map (items ++ ·), found.2)).hold script.world (page + 1) =
        ((rest.map (items ++ ·), c'), exchanges ++ [], next) := hold_bind hrest rfl
  rw [List.append_nil] at hjoined
  rw [getPages, Script.visit, hcancelled]
  change _ = (_, [looked _] ++ ([sent _ _] ++ exchanges), next)
  refine hold_bind hold_look ?_
  rw [hcancelled]
  exact hold_bind hpage hjoined

/-- The pages are asked for one after the other up to the first that fails or announces no other
one. If it fails so does the list, and otherwise the list is put together from all of them. -/
theorem hold_getPages (hquota : c.exhausted = none) {count room : Nat} (hroom : count ≤ room)
    (hmore : ∀ k, page ≤ k → k < page + count →
      ∃ items, script.outcome read url k = .ok (items, true))
    (hstop : ∀ items, script.outcome read url (page + count) ≠ .ok (items, true)) :
    ∃ next, (getPages read url (room + 1) page c).hold script.world page =
      (((script.outcome read url (page + count)).map fun found =>
          (List.range' page count).flatMap (script.items read url) ++ found.1,
        c.remember (script.outcome read url (page + count))),
        (List.range' page (count + 1)).flatMap (script.visit url c.token), next) := by
  induction count generalizing page room with
  | zero =>
      obtain ⟨next, hpage⟩ := hold_getPages_of_stop hquota room hstop
      refine ⟨next, hpage.trans ?_⟩
      rw [List.range'_one, List.flatMap_singleton]
      rfl
  | succ count ih =>
      obtain ⟨room, rfl⟩ := Nat.exists_eq_add_of_le' hroom
      obtain ⟨items, hpage⟩ := hmore page (Nat.le_refl page) (by omega)
      have hnext : page + 1 + count = page + (count + 1) := by omega
      obtain ⟨next, hrest⟩ := @ih (page + 1) (room + count) (by omega)
        (fun k hfirst hlast => hmore k (by omega) (by omega)) (hnext ▸ hstop)
      rw [hnext] at hrest
      refine ⟨next, (hold_getPages_of_more hquota hpage hrest).trans ?_⟩
      have hitems : (List.range' page (count + 1)).flatMap (script.items read url) =
          items ++ (List.range' (page + 1) count).flatMap (script.items read url) := by
        rw [List.range'_succ, List.flatMap_cons, Script.items, hpage]
        rfl
      have hvisits : (List.range' page (count + 1 + 1)).flatMap (script.visit url c.token) =
          script.visit url c.token page ++
            (List.range' (page + 1) (count + 1)).flatMap (script.visit url c.token) := by
        rw [List.range'_succ, List.flatMap_cons]
      rw [hitems, hvisits]
      cases script.outcome read url (page + (count + 1)) with
      | error e => rfl
      | ok found => simp only [Except.map, List.append_assoc]

/-! ## Whole lists -/

/-- The pages that are requested. -/
def requests (exchanges : List Exchanged) : List PageRequest :=
  exchanges.filterMap fun x =>
    match x with
    | ⟨.look, _⟩ => none
    | ⟨.send request, _⟩ => some request

/-- A list is given if all of its pages can be read, and then each page is requested once and in
order. If one cannot be read, the first such page decides and no later one is requested. -/
structure AllOrNothing (script : Script) (read : Json → Option α) (url : String)
    (token : Option String) (give : List α → Except GithubError (List α))
    (answer : Except GithubError (List α)) (exchanges : List Exchanged) : Prop where
  all : (∀ page ∈ script.pages, script.Reads read url page) →
    answer = give (script.pages.flatMap (script.items read url)) ∧
      requests exchanges = script.pages.map fun page => ⟨url, page, token⟩
  nothing : ∀ page ∈ script.pages, ∀ e, script.outcome read url page = .error e →
    (∀ earlier ∈ script.pages, earlier < page → script.Reads read url earlier) →
      answer = .error e ∧
        requests exchanges =
          (List.range' 1 (if (script.situation page).cancelled then page - 1 else page)).map
            fun page => ⟨url, page, token⟩

theorem requests_append (first second : List Exchanged) :
    requests (first ++ second) = requests first ++ requests second :=
  List.filterMap_append ..

theorem requests_visit (token : Option String) (page : Nat) :
    requests (script.visit url token page) =
      if (script.situation page).cancelled then [] else [⟨url, page, token⟩] := by
  rw [Script.visit]
  cases (script.situation page).cancelled <;> rfl

theorem requests_visits {pages : List Nat} {token : Option String}
    (hsent : ∀ page ∈ pages, (script.situation page).cancelled = false) :
    requests (pages.flatMap (script.visit url token)) =
      pages.map fun page => ⟨url, page, token⟩ := by
  induction pages with
  | nil => rfl
  | cons first rest ih =>
      obtain ⟨hfirst, hrest⟩ := List.forall_mem_cons.mp hsent
      rw [List.flatMap_cons, requests_append, requests_visit, hfirst, ih hrest]
      rfl

/-- There is a first page that fails or announces no other one. -/
theorem Script.exists_stop (script : Script) (read : Json → Option α) (url : String) :
    ∃ count, 1 + count ∈ script.pages ∧
      (∀ page, 1 ≤ page → page < 1 + count →
        ∃ items, script.outcome read url page = .ok (items, true)) ∧
      ∀ items, script.outcome read url (1 + count) ≠ .ok (items, true) := by
  classical
  have hpos := script.last_pos
  have hlast : ∀ items, script.outcome read url (1 + (script.last - 1)) ≠ .ok (items, true) := by
    intro items hread
    have hmore := announces_of_outcome (mem_pages_iff.mpr (by omega)) hread
    have hlater := of_decide_eq_true hmore.symm
    omega
  have hexists : ∃ count, ∀ items, script.outcome read url (1 + count) ≠ .ok (items, true) :=
    ⟨_, hlast⟩
  refine ⟨Nat.find hexists, ?_, fun page hfirst hbefore => ?_, Nat.find_spec hexists⟩
  · have hleast := Nat.find_min' hexists hlast
    apply mem_pages_iff.mpr
    omega
  · have hmore := Nat.find_min hexists (m := page - 1) (by omega)
    rw [Nat.add_sub_of_le hfirst] at hmore
    exact Classical.not_forall_not.mp hmore

/-- The pages up to the first that fails or announces no other one come to the whole list, or to the
failure of that page. -/
theorem allOrNothing_of_stop {count : Nat} (hcount : 1 + count ∈ script.pages)
    (hmore : ∀ page, 1 ≤ page → page < 1 + count →
      ∃ items, script.outcome read url page = .ok (items, true))
    (hstop : ∀ items, script.outcome read url (1 + count) ≠ .ok (items, true))
    (token : Option String) :
    AllOrNothing script read url token .ok
      ((script.outcome read url (1 + count)).map fun found =>
        (List.range' 1 count).flatMap (script.items read url) ++ found.1)
      ((List.range' 1 (count + 1)).flatMap (script.visit url token)) := by
  obtain ⟨-, hlast⟩ := Script.mem_pages_iff.mp hcount
  have hsent : ∀ page ∈ List.range' 1 count, (script.situation page).cancelled = false := by
    intro page hpage
    rw [List.mem_range'_1] at hpage
    obtain ⟨items, hread⟩ := hmore page hpage.1 (by omega)
    exact Script.not_cancelled_of_outcome hread
  -- a page that can be read and comes before the last one announces another
  have hend : script.Reads read url (1 + count) → 1 + count = script.last := by
    rintro ⟨⟨items, more⟩, hread⟩
    have hannounced := Script.announces_of_outcome hcount hread
    by_contra hne
    rw [decide_eq_true (by omega)] at hannounced
    exact hstop items (hannounced ▸ hread)
  constructor
  case all =>
    intro hreads
    have hpages : script.pages = List.range' 1 (count + 1) := by
      rw [Script.pages, ← hend (hreads _ hcount), Nat.add_comm]
    obtain ⟨found, hread⟩ := hreads _ hcount
    have hitems : script.items read url (1 + count) = found.1 := by
      rw [Script.items, hread]
      rfl
    constructor
    · rw [hpages, List.range'_1_concat, List.flatMap_append, List.flatMap_singleton, hitems, hread]
      rfl
    · rw [← hpages]
      apply requests_visits
      intro page hpage
      obtain ⟨found, hread⟩ := hreads page hpage
      exact Script.not_cancelled_of_outcome hread
  case nothing =>
    intro page hpage e hfails hearlier
    have heq : page = 1 + count := by
      rcases Nat.lt_trichotomy page (1 + count) with hbefore | heq | hafter
      · obtain ⟨items, hread⟩ := hmore page (Script.mem_pages_iff.mp hpage).1 hbefore
        cases hfails.symm.trans hread
      · exact heq
      · have hend := hend (hearlier _ hcount hafter)
        have hle := (Script.mem_pages_iff.mp hpage).2
        omega
    subst heq
    rw [hfails, List.range'_1_concat, List.flatMap_append, List.flatMap_singleton, requests_append,
      requests_visits hsent, requests_visit]
    refine ⟨rfl, ?_⟩
    cases (script.situation (1 + count)).cancelled with
    | true => simp
    | false => simp [Nat.add_comm 1 count, List.range'_1_concat]

/-- All pages together, or the first failure. -/
theorem allOrNothing_getPages (hquota : c.exhausted = none) (script : Script)
    (read : Json → Option α) (url : String) :
    ∃ answer c' exchanges next,
      (getPages read url maxPages 1 c).hold script.world 1 = ((answer, c'), exchanges, next) ∧
        AllOrNothing script read url c.token .ok answer exchanges := by
  obtain ⟨count, hcount, hmore, hstop⟩ := script.exists_stop read url
  have hroom : count ≤ UInt32.size - 2 := by
    have hlast := (Script.mem_pages_iff.mp hcount).2
    have hlt := script.last_lt
    omega
  obtain ⟨next, hheld⟩ := hold_getPages hquota hroom hmore hstop
  exact ⟨_, _, _, next, hheld, allOrNothing_of_stop hcount hmore hstop c.token⟩

/-- What is given of all items of a list goes through a last step, and a failure does not. -/
theorem AllOrNothing.bind {token : Option String} {answer : Except GithubError (List α)}
    {exchanges : List Exchanged} (hpages : AllOrNothing script read url token .ok answer exchanges)
    (give : List α → Except GithubError (List α)) :
    AllOrNothing script read url token give (answer.bind give) exchanges where
  all hreads := by
    obtain ⟨hanswer, hrequests⟩ := hpages.all hreads
    exact ⟨by rw [hanswer]; rfl, hrequests⟩
  nothing page hpage e hfails hearlier := by
    obtain ⟨hanswer, hrequests⟩ := hpages.nothing page hpage e hfails hearlier
    exact ⟨by rw [hanswer]; rfl, hrequests⟩

/-- Of releases those are given that are not ignored. It is an error if there are none at all. -/
def givenReleases (q : ReleaseQuery) (releases : List Release) :
    Except GithubError (List Release) :=
  if releases.isEmpty then .error (.noReleases q.owner q.repo)
  else .ok (releases.filter fun r => !q.ignored.contains r.tag)

/-- Of packages those are given that have the tag of the release. -/
def givenPackages (q : ArtifactQuery) (packages : List Package) :
    Except GithubError (List Package) :=
  .ok (packages.filter fun p => p.hasTag q.release.tag)

theorem hold_getReleases (q : ReleaseQuery) {answer : Except GithubError (List Release)}
    {c' : Client} {exchanges : List Exchanged} {next : Nat}
    (hpages : (getPages Release.ofJson? (c.releasesUrl q.owner q.repo) maxPages 1 c).hold
      script.world 1 = ((answer, c'), exchanges, next)) :
    (c.getReleases q).hold script.world 1 =
      ((answer.bind (givenReleases q), c'), exchanges, next) := by
  rw [← List.append_nil exchanges]
  refine hold_bind hpages ?_
  rcases answer with e | _ | ⟨first, rest⟩
  · rfl
  · rfl
  · rfl

theorem hold_getPackages (q : ArtifactQuery) (hbarred : c.packagesUnauthorized = false)
    {answer : Except GithubError (List Package)} {c' : Client} {exchanges : List Exchanged}
    {next : Nat}
    (hpages : (getPages Package.ofJson? (c.packagesUrl q) maxPages 1 c).hold
      script.world 1 = ((answer, c'), exchanges, next)) :
    ∃ c'', (c.getPackages q).hold script.world 1 =
      ((answer.bind (givenPackages q), c''), exchanges, next) := by
  rw [getPackages, hbarred, if_neg Bool.false_ne_true, ← List.append_nil exchanges]
  rcases answer with e | packages
  · cases e <;> exact ⟨_, hold_bind hpages rfl⟩
  · exact ⟨_, hold_bind hpages rfl⟩

/-- Lists of releases and of packages are all or nothing. There is an error about missing releases
exactly if all pages are empty, whatever is ignored. -/
theorem lists_all_or_nothing (hquota : c.exhausted = none) (script : Script) :
    (∀ q : ReleaseQuery, ∃ answer c' exchanges next,
      (c.getReleases q).hold script.world 1 = ((answer, c'), exchanges, next) ∧
        AllOrNothing script Release.ofJson? (c.releasesUrl q.owner q.repo) c.token
          (givenReleases q) answer exchanges ∧
        ((∀ page ∈ script.pages,
            script.Reads Release.ofJson? (c.releasesUrl q.owner q.repo) page) →
          (answer = .error (.noReleases q.owner q.repo) ↔ ∀ page ∈ script.pages,
            script.items Release.ofJson? (c.releasesUrl q.owner q.repo) page = []))) ∧
      ∀ q : ArtifactQuery, ∃ answer c' exchanges next,
        (c.getPackages q).hold script.world 1 = ((answer, c'), exchanges, next) ∧
          (c.packagesUnauthorized = false →
            AllOrNothing script Package.ofJson? (c.packagesUrl q) c.token
              (givenPackages q) answer exchanges) ∧
          (c.packagesUnauthorized = true → answer = .error .unauthorized ∧ exchanges = []) := by
  constructor
  · intro q
    obtain ⟨pages, c', exchanges, next, hheld, hpages⟩ := allOrNothing_getPages hquota script
      Release.ofJson? (c.releasesUrl q.owner q.repo)
    refine ⟨_, c', exchanges, next, hold_getReleases q hheld, hpages.bind _, fun hreads => ?_⟩
    rw [(hpages.all hreads).1, ← List.flatMap_eq_nil_iff]
    change givenReleases q _ = _ ↔ _
    rw [givenReleases]
    split
    next hempty => exact iff_of_true rfl (List.isEmpty_iff.mp hempty)
    next hsome => exact iff_of_false (by simp) fun hnil => hsome (List.isEmpty_iff.mpr hnil)
  · intro q
    cases hbarred : c.packagesUnauthorized with
    | true =>
        have hheld : (c.getPackages q).hold script.world 1 =
            ((.error .unauthorized, c), [], 1) := by
          rw [getPackages, hbarred]
          rfl
        exact ⟨_, _, _, _, hheld, by simp, fun _ => ⟨rfl, rfl⟩⟩
    | false =>
        obtain ⟨pages, c', exchanges, next, hheld, hpages⟩ := allOrNothing_getPages hquota script
          Package.ofJson? (c.packagesUrl q)
        obtain ⟨c'', hgiven⟩ := hold_getPackages q hbarred hheld
        exact ⟨_, c'', exchanges, next, hgiven, fun _ => hpages.bind _, by simp⟩

/-! ## Two pages -/

/-- A script of two pages with a release each. -/
def twoPages : Script where
  situation _ := { now := Instant.epoch }
  reply page :=
    if page < 2 then
      .answered
        { status := 200
          headers := [("link", "<https://api.github.com/?page=2>; rel=\"next\"")]
          body := .text "[\x7b\"id\": 2, \"tag_name\": \"v2\"\x7d]" }
    else .answered { status := 200, body := .text "[\x7b\"id\": 1, \"tag_name\": \"v1\"\x7d]" }
  last := 2
  last_pos := by decide
  last_lt := by decide
  announces := by
    intro page hfirst hlast response hreply _
    obtain rfl | rfl : page = 1 ∨ page = 2 := by omega
    · cases hreply
      decide +kernel
    · cases hreply
      decide +kernel

def plainClient : Client := .new "https://api.github.com" none

/-- The question for releases of which both are ignored. -/
def ignoringQuery : ReleaseQuery := { owner := "owner", repo := "repo", ignored := ["v1", "v2"] }

/-- If both releases are ignored the list is empty, and still both pages are requested. -/
theorem lists_all_or_nothing_twoPages :
    plainClient.exhausted = none ∧ ∃ answer c' exchanges next,
      (plainClient.getReleases ignoringQuery).hold twoPages.world 1 =
        ((answer, c'), exchanges, next) ∧
      answer = .ok [] ∧ (requests exchanges).map PageRequest.page = [1, 2] := by
  obtain ⟨answer, c', exchanges, next, hheld, hlist, -⟩ :=
    (lists_all_or_nothing (c := plainClient) rfl twoPages).1 ignoringQuery
  have hreads : ∀ page ∈ twoPages.pages, twoPages.Reads Release.ofJson?
      (plainClient.releasesUrl "owner" "repo") page := by
    intro page hpage
    obtain ⟨hfirst, hlast⟩ := Script.mem_pages_iff.mp hpage
    have htwo : page ≤ 2 := hlast
    obtain rfl | rfl : page = 1 ∨ page = 2 := by omega
    · exact ⟨([{ id := 2, tag := "v2" }], true), by decide +kernel⟩
    · exact ⟨([{ id := 1, tag := "v1" }], false), by decide +kernel⟩
  obtain ⟨hanswer, hrequests⟩ := hlist.all hreads
  refine ⟨rfl, answer, c', exchanges, next, hheld, ?_, ?_⟩
  · rw [hanswer]
    decide +kernel
  · rw [hrequests]
    decide +kernel

end ReleaseBuilds.Client
