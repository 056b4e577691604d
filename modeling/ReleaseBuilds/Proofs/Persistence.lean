import ReleaseBuilds.Cluster.Repositories
import ReleaseBuilds.Proofs.Documents
import ReleaseBuilds.Proofs.Round

/-!
# What was saved is loaded

A store that returns what was written shows a repository with the status that was saved last, and
that is the status with which the next cycle begins. Of the rest of the resource it is only asked
that it can be read.
-/

namespace ReleaseBuilds

open Json (RoundTrips)
open Kubernetes (ApiError ApiRequest ApiResponse)
open Dialogue

/-- A request to the cluster and the answer to it, if there was one. -/
abbrev Kubernetes.Exchanged := Exchange ApiRequest fun _ => Option ApiResponse

/-! ## Requests and their answers -/

namespace Kubernetes

variable {α : Type} {exchanges : List Exchanged}

theorem ApiRequest.body_of_of? {method target : String} {contentType : Option String}
    {body : Option Json} {request : ApiRequest}
    (h : ApiRequest.of? method target contentType body = some request) : request.body = body := by
  simp only [ApiRequest.of?, Option.ite_none_right_eq_some, Option.some.injEq] at h
  rw [← h.2]

/-- What a request comes to. -/
def Api.outcome (read : Json → Option α) : Option ApiResponse → Except ApiError α
  | none => .error .failed
  | some response => response.result read

/-- A request that can be sent is one exchange, and any other is none. -/
theorem Api.ends_ask_iff {request? : Option ApiRequest} {read : Json → Option α}
    {result : Except ApiError α} :
    Ends (Api.ask request? read) exchanges result ↔
      request? = none ∧ exchanges = [] ∧ result = .error .failed ∨
      ∃ request answer, request? = some request ∧ exchanges = [⟨request, answer⟩] ∧
        result = Api.outcome read answer := by
  cases request? with
  | none => simp [Api.ask]
  | some request =>
    have hask : Api.ask (some request) read =
        (question request).bind fun answer => .done (Api.outcome read answer) := by
      simp only [Api.ask]
      congr
      funext answer
      cases answer <;> rfl
    simp [hask, ends_bind_iff]

end Kubernetes

namespace Cluster

open Kubernetes (Api.get Api.patch Api.outcome Api.ends_ask_iff Exchanged)

variable {exchanges : List Exchanged}

theorem ends_load_iff {ns name : String} {loaded : Except StoreError (Option Repository)} :
    Ends (load ns name) exchanges loaded ↔
      ∃ result, Ends (Api.get Repository.kind ns name Repository.ofJson?) exchanges result ∧
        loaded = match result with
          | .ok repository => .ok (some repository)
          | .error e => if e.saysNotFound then .ok none else .error (.api e.code?) := by
  have hload : load ns name =
      (Api.get Repository.kind ns name Repository.ofJson?).bind fun result =>
        .done (match result with
          | .ok repository => .ok (some repository)
          | .error e => if e.saysNotFound then .ok none else .error (.api e.code?)) := by
    simp only [load, monad_bind]
    congr
    funext result
    cases result with
    | ok repository => rfl
    | error e =>
      dsimp only
      split <;> rfl
  simp [hload, ends_bind_iff]

/-- A repository without a namespace is not sent; any other is sent with its status. -/
theorem ends_saveStatus_iff {saved : Repository} {outcome : Except StoreError Unit} :
    Ends (saveStatus saved) exchanges outcome ↔
      saved.metadata.ns = none ∧ exchanges = [] ∧
          outcome = .error (.missingNamespace saved.metadata.callName) ∨
        ∃ ns result, saved.metadata.ns = some ns ∧
          Ends (Api.patch Repository.kind ns saved.metadata.callName
            ("/status?&force=true&fieldManager=" ++ fieldManager) "application/apply-patch+yaml"
            (statusBody saved) Repository.ofJson?) exchanges result ∧
          outcome = (result.mapError fun e => StoreError.api e.code?).map fun _ => () := by
  cases hns : saved.metadata.ns with
  | none => simp [saveStatus, hns]
  | some ns => simp [saveStatus, hns, ends_bind_iff]

theorem exact_statusBody (saved : Repository) : (statusBody saved).Exact :=
  Json.exact_ofMembers (by
    simp [Kubernetes.Kind.members, Json.exactMember_always, Json.exact_ofOption,
      Repository.Status.faithful.exact])

end Cluster

/-! ## The status of a repository in the store -/

/-- The status that the text of a request states. -/
def writtenStatus? (request : ApiRequest) : Option Json :=
  (request.body.bind fun body => Json.ofText? body.toText).bind (Json.get? "status")

/-- The members of a resource, with a status in the place of its own. -/
def withStatus (members : List (String × Json)) (status : Json) : List (String × Json) :=
  members.filter (fun m => m.1 != "status") ++ [("status", status)]

/-- An answer that shows a repository with the status that was written. -/
structure Shows (response : ApiResponse) (repository : Repository) (written : Json) : Prop where
  accepted : response.status < 400 ∨ 600 ≤ response.status
  shown : ∃ members, Repository.ofJson? (.object members) = some repository ∧
    Json.ofText? response.body = some (.object (withStatus members written))

theorem lookup_withStatus_self (members : List (String × Json)) (status : Json) :
    (withStatus members status).lookup "status" = some status := by
  have hnone : (members.filter fun m => m.1 != "status").lookup "status" = none := by
    rw [List.lookup_eq_none_iff]
    intro m hm
    have hne := (List.mem_filter.mp hm).2
    rw [bne_iff_ne] at hne ⊢
    exact hne.symm
  rw [withStatus, List.lookup_append, hnone]
  rfl

theorem lookup_withStatus_of_ne {name : String} (h : name ≠ "status")
    (members : List (String × Json)) (status : Json) :
    (withStatus members status).lookup name = members.lookup name := by
  have hlast : [("status", status)].lookup name = none := by simp [h]
  rw [withStatus, List.lookup_append, hlast, Option.or_none]
  induction members with
  | nil => rfl
  | cons head rest ih =>
    obtain ⟨key, value⟩ := head
    by_cases hkey : key = "status"
    · simpa [hkey, TextMap.lookup_cons_eq, h] using ih
    · simp [hkey, TextMap.lookup_cons_eq, ih]

theorem length_filter_withStatus_le {name : String} {members : List (String × Json)}
    (h : (members.filter fun m => m.1 == name).length ≤ 1) (status : Json) :
    ((withStatus members status).filter fun m => m.1 == name).length ≤ 1 := by
  rw [withStatus, List.filter_append, List.length_append]
  by_cases hname : name = "status"
  · simp [hname, List.filter_filter]
  · have hrest := ((List.filter_sublist (p := fun m => m.1 != "status") (l := members)).filter
      fun m => m.1 == name).length_le
    have hlast : ([("status", status)].filter fun m => m.1 == name) = [] := by
      simp [Ne.symm hname]
    rw [hlast]
    simp only [List.length_nil]
    omega

/-- Only the status of a repository is read from the member that was written. -/
theorem Repository.ofJson?_withStatus {members : List (String × Json)} {repository : Repository}
    {written : Json} {status : Option Repository.Status}
    (h : Repository.ofJson? (.object members) = some repository)
    (hstatus : Json.asOption? Repository.Status.ofJson? written = some status) :
    Repository.ofJson? (.object (withStatus members written)) =
      some { repository with status } := by
  obtain ⟨fields, hfields, hparts⟩ := Option.bind_eq_some_iff.mp h
  obtain ⟨honce, rfl⟩ := Json.record?_object_eq_some hfields
  obtain ⟨metadata, hmetadata, hparts⟩ := Option.bind_eq_some_iff.mp hparts
  obtain ⟨spec, hspec, hparts⟩ := Option.bind_eq_some_iff.mp hparts
  obtain ⟨before, -, hbefore⟩ := Option.bind_eq_some_iff.mp hparts
  cases hbefore
  have hrecord := Json.record?_object fun name hname =>
    length_filter_withStatus_le (honce name hname) written
  beta_reduce at hmetadata hspec
  rw [← lookup_withStatus_of_ne (by decide) members written] at hmetadata hspec
  have hwritten : Json.Slot.optionalMember Status.ofJson? (.of (some written)) = some status :=
    hstatus
  simp [ofJson?, hrecord, hmetadata, hspec, lookup_withStatus_self, hwritten]

namespace Cluster

open Kubernetes (Api.get Api.patch Api.outcome Api.ends_ask_iff ApiRequest.body_of_of? Exchanged)

theorem writtenStatus?_of_ends {saved : Repository} {save : Exchanged}
    {outcome : Except StoreError Unit} (h : Ends (saveStatus saved) [save] outcome) :
    writtenStatus? save.call = some (.ofOption Repository.Status.toJson saved.status) := by
  have hbody : save.call.body = some (statusBody saved) := by
    rcases ends_saveStatus_iff.mp h with ⟨-, hnone, -⟩ | ⟨ns, result, -, hpatch, -⟩
    · cases hnone
    · rcases Api.ends_ask_iff.mp hpatch with ⟨-, hnone, -⟩ | ⟨request, answer, hsent, hsave, -⟩
      · cases hnone
      · cases hsave
        obtain ⟨target, -, hof⟩ := Option.bind_eq_some_iff.mp hsent
        exact ApiRequest.body_of_of? hof
  rw [writtenStatus?, hbody, Option.bind_some, (exact_statusBody saved).ofText?_toText]
  rfl

theorem load_eq_of_shows {ns name : String} {request : ApiRequest} {response : ApiResponse}
    {saved repository : Repository} {loaded : Except StoreError (Option Repository)}
    (hshows : Shows response repository (.ofOption Repository.Status.toJson saved.status))
    (h : Ends (load ns name) [⟨request, some response⟩] loaded) :
    loaded = .ok (some { repository with status := saved.status }) := by
  obtain ⟨members, hread, htext⟩ := hshows.shown
  have hstatus := Repository.Status.faithful.asOption?_ofOption saved.status
  have haccepted : (400 ≤ response.status && response.status < 600) = false := by
    have hcode := hshows.accepted
    simp
    omega
  have hresult : response.result Repository.ofJson? =
      .ok { repository with status := saved.status } := by
    simp [Kubernetes.ApiResponse.result, haccepted, htext,
      Repository.ofJson?_withStatus hread hstatus]
  obtain ⟨result, hget, rfl⟩ := ends_load_iff.mp h
  rcases Api.ends_ask_iff.mp hget with ⟨-, hnone, -⟩ | ⟨_, answer, -, hload, rfl⟩
  · cases hnone
  · cases hload
    simp only [Api.outcome, hresult]

end Cluster

/-- What a cycle knows at its start is what the one before it saved, if the store shows that. -/
theorem Cycle.Round.known_of_shows {ns name : String} (round : Cycle.Round ns name)
    {save : Kubernetes.Exchanged} {outcome : Except StoreError Unit} {written : Json}
    {request : ApiRequest} {response : ApiResponse} {repository loaded : Repository}
    (hsave : Ends (Cluster.saveStatus { round.repository with status := some round.status }) [save]
      outcome)
    (hwritten : writtenStatus? save.call = some written)
    (hshows : Shows response repository written)
    (hload : Ends (Cluster.load ns name) [⟨request, some response⟩] (.ok (some loaded))) :
    loaded.known = round.status := by
  rw [Cluster.writtenStatus?_of_ends hsave] at hwritten
  cases hwritten
  cases Cluster.load_eq_of_shows hshows hload
  rfl

/-- Every document is read back from its text, and the status that is saved is the status that is
loaded next. -/
theorem documents_roundTrip :
    RoundTrips Repository.Status.toJson Repository.Status.ofJson? ∧
      RoundTrips Repository.Spec.toJson Repository.Spec.ofJson? ∧
      RoundTrips Release.toJson Release.ofJson? ∧
      RoundTrips Asset.toJson Asset.ofJson? ∧
      RoundTrips Package.toJson Package.ofJson? ∧
      RoundTrips RunStatus.toJson RunStatus.ofJson? ∧
      ∀ (saved : Repository) (save : Kubernetes.Exchanged) (outcome : Except StoreError Unit),
        Ends (Cluster.saveStatus saved) [save] outcome →
        ∃ written, writtenStatus? save.call = some written ∧
          ∀ (ns name : String) (request : ApiRequest) (response : ApiResponse)
            (repository : Repository) (loaded : Except StoreError (Option Repository)),
            Shows response repository written →
            Ends (Cluster.load ns name) [⟨request, some response⟩] loaded →
            loaded = .ok (some { repository with status := saved.status }) := by
  refine ⟨Repository.Status.faithful.roundTrips, Repository.Spec.faithful.roundTrips,
    Release.faithful.roundTrips, Asset.faithful.roundTrips, Package.faithful.roundTrips,
    RunStatus.faithful.roundTrips, ?_⟩
  intro saved save outcome hsave
  refine ⟨_, Cluster.writtenStatus?_of_ends hsave, ?_⟩
  intro ns name request response repository loaded hshows hload
  exact Cluster.load_eq_of_shows hshows hload

/-- A small repository without a status, as a cluster shows it. -/
def singleMembers : List (String × Json) :=
  [("metadata", .object [("name", .text "app"), ("namespace", .text "ci")]),
    ("spec", (Repository.single none).spec.toJson)]

theorem exact_singleMembers {status : Json} (h : status.Exact) :
    (Json.object (withStatus singleMembers status)).Exact := by
  have hmetadata : (Json.object [("name", .text "app"), ("namespace", .text "ci")]).Exact :=
    .object _ (by simp)
  refine .object _ ?_
  simp [withStatus, singleMembers, h, hmetadata, Repository.Spec.faithful.exact]

/-- The status of the small repository after a run was created at noon. -/
def Repository.Status.single : Repository.Status :=
  { lastCheck := some Cycle.noon
    releases := TextMap.empty.insert "v1"
      { missing := { assets := some true }
        runs := some { assets := some (Cycle.firstRecord Cycle.noon) } } }

/-- The small repository is saved and loaded with its status. -/
theorem documents_roundTrip_single :
    ∃ (save load : Kubernetes.Exchanged) (outcome : Except StoreError Unit)
      (loaded : Except StoreError (Option Repository)),
      Ends (Cluster.saveStatus (.single (some .single))) [save] outcome ∧
        Ends (Cluster.load "ci" "app") [load] loaded ∧
          loaded = .ok (some (.single (some .single))) := by
  let saved : Repository := .single (some .single)
  let status := Json.ofOption Repository.Status.toJson saved.status
  have hexact : status.Exact := Json.exact_ofOption Repository.Status.faithful.exact saved.status
  let response : ApiResponse := ⟨200, (Json.object (withStatus singleMembers status)).toText⟩
  have hshows : Shows response (.single none) status :=
    ⟨.inl (by decide), singleMembers, rfl, (exact_singleMembers hexact).ofText?_toText⟩
  -- both targets can be sent, and any answer ends the dialogue
  have hpatchable : ((Repository.kind.object? "ci" saved.metadata.callName).bind fun target =>
      ApiRequest.of? "PATCH" (target ++ ("/status?&force=true&fieldManager=" ++
        Cluster.fieldManager)) (some "application/apply-patch+yaml")
        (some (Cluster.statusBody saved))).isSome = true := by decide +kernel
  have hgettable : ((Repository.kind.object? "ci" "app").bind fun target =>
      ApiRequest.of? "GET" target).isSome = true := by decide +kernel
  obtain ⟨save, hsave⟩ := Option.isSome_iff_exists.mp hpatchable
  obtain ⟨load, hload⟩ := Option.isSome_iff_exists.mp hgettable
  have hsaves := Cluster.ends_saveStatus_iff.mpr (.inr ⟨"ci", _, rfl,
    Kubernetes.Api.ends_ask_iff.mpr (.inr ⟨save, none, hsave, rfl, rfl⟩), rfl⟩)
  have hloads := Cluster.ends_load_iff.mpr ⟨_,
    Kubernetes.Api.ends_ask_iff.mpr (.inr ⟨load, some response, hload, rfl, rfl⟩), rfl⟩
  obtain ⟨written, hwritten, hshown⟩ := documents_roundTrip.2.2.2.2.2.2 saved _ _ hsaves
  rw [Cluster.writtenStatus?_of_ends hsaves] at hwritten
  cases hwritten
  exact ⟨_, _, _, _, hsaves, hloads, hshown _ _ _ _ _ _ hshows hloads⟩

end ReleaseBuilds
