import ReleaseBuilds.Pipeline.Run
import ReleaseBuilds.Proofs.Failures

/-!
# Binding workspaces

What the settings of a workspace say it is filled from, what can be wrong with them, and how the
run asked for comes out of the settings of all its workspaces: with a binding for each of them, or
not at all and with one error for each that cannot be bound.
-/

namespace ReleaseBuilds

namespace WorkspaceBinding

variable {workspace : String} {settings : TextMap String}

/-- The settings name the kind of workspace, and for a secret a name that is not blank. -/
def IsUsable (settings : TextMap String) : Prop :=
  settings.get? "type" = some "volume" ∨
    settings.get? "type" = some "secret" ∧
      ∃ name ∈ settings.get? "secretName", Text.trim name ≠ ""

instance (settings : TextMap String) : Decidable (IsUsable settings) :=
  inferInstanceAs (Decidable (_ ∨ _ ∧ ∃ name ∈ settings.get? "secretName", Text.trim name ≠ ""))

/-- What the settings of a workspace say it is filled from. A storage class that is set to nothing
is not set. -/
inductive Fills (settings : TextMap String) : WorkspaceSource → Prop where
  | secret {name : String} (htype : settings.get? "type" = some "secret")
      (hname : settings.get? "secretName" = some name) (hne : Text.trim name ≠ "") :
      Fills settings (.secret (Text.trim name))
  | volume (htype : settings.get? "type" = some "volume")
      (hclass : ∀ storageClass ∈ settings.get? "storageClassName", storageClass = "") :
      Fills settings (.volume none)
  | volumeOf {storageClass : String} (htype : settings.get? "type" = some "volume")
      (hclass : settings.get? "storageClassName" = some storageClass) (hne : storageClass ≠ "") :
      Fills settings (.volume (some storageClass))

/-- What a written binding says the workspace is filled from: a secret or a claim, not both. -/
inductive Carries (j : Json) : WorkspaceSource → Prop where
  | secret {name : String} (hsecret : j.get? "secret" = some (.object [("secretName", .text name)]))
      (hclaim : j.get? "volumeClaimTemplate" = none) : Carries j (.secret name)
  | claim {storageClass : Option String} {claim spec : Json} (hsecret : j.get? "secret" = none)
      (hclaim : j.get? "volumeClaimTemplate" = some claim) (hspec : claim.get? "spec" = some spec)
      (hclass : spec.get? "storageClassName" = storageClass.map .text) :
      Carries j (.volume storageClass)

/-- What is wrong with the settings of a workspace. -/
inductive Faults (workspace : String) (settings : TextMap String) : WorkspaceError → Prop where
  | missingSecretName (htype : settings.get? "type" = some "secret")
      (hname : ∀ name ∈ settings.get? "secretName", Text.trim name = "") :
      Faults workspace settings (.missingSecretName workspace)
  | missingType (htype : settings.get? "type" = none) :
      Faults workspace settings (.unknownType workspace "")
  | unknownType {value : String} (htype : settings.get? "type" = some value)
      (hsecret : value ≠ "secret") (hvolume : value ≠ "volume") :
      Faults workspace settings (.unknownType workspace value)

/-- The workspace of a name and its settings are bound, under that name. -/
structure Binds (entry : String × TextMap String) (b : WorkspaceBinding) : Prop where
  name : b.name = entry.1
  source : Fills entry.2 b.source

theorem IsUsable.exists_fills (h : IsUsable settings) : ∃ source, Fills settings source := by
  rcases h with hvolume | ⟨hsecret, name, hname, hne⟩
  · cases hclass : settings.get? "storageClassName" with
    | none => exact ⟨_, .volume hvolume (by simp [hclass])⟩
    | some storageClass =>
        by_cases hempty : storageClass = ""
        · exact ⟨_, .volume hvolume (by simp [hclass, hempty])⟩
        · exact ⟨_, .volumeOf hvolume hclass hempty⟩
  · exact ⟨_, .secret hsecret hname hne⟩

theorem Fills.isUsable {source : WorkspaceSource} (h : Fills settings source) :
    IsUsable settings := by
  cases h with
  | secret htype hname hne => exact .inr ⟨htype, _, hname, hne⟩
  | volume htype _ => exact .inl htype
  | volumeOf htype _ _ => exact .inl htype

theorem exists_faults (workspace : String) (h : ¬IsUsable settings) :
    ∃ e, Faults workspace settings e := by
  obtain ⟨hvolume, hsecret⟩ := not_or.mp h
  cases htype : settings.get? "type" with
  | none => exact ⟨_, .missingType htype⟩
  | some value =>
      rw [htype, Option.some_inj] at hvolume hsecret
      by_cases hvalue : value = "secret"
      · refine ⟨_, .missingSecretName (hvalue ▸ htype) fun name hname => ?_⟩
        by_contra hne
        exact hsecret ⟨hvalue, name, hname, hne⟩
      · exact ⟨_, .unknownType htype hvalue hvolume⟩

theorem Fills.of_eq {source : WorkspaceSource} (h : Fills settings source) :
    of workspace settings = .ok ⟨workspace, source⟩ := by
  cases h with
  | secret htype hname hne => simp [of, setting, htype, hname, hne]
  | volume htype hclass =>
      have hempty : (settings.get? "storageClassName").getD "" = "" := by
        cases h : settings.get? "storageClassName" with
        | none => rfl
        | some storageClass => exact hclass storageClass h
      simp [of, setting, htype, hempty]
  | volumeOf htype hclass hne => simp [of, setting, htype, hclass, hne]

theorem Faults.of_eq {e : WorkspaceError} (h : Faults workspace settings e) :
    of workspace settings = .error e := by
  cases h with
  | missingSecretName htype hname =>
      have hblank : Text.trim ((settings.get? "secretName").getD "") = "" := by
        cases h : settings.get? "secretName" with
        | none => decide +kernel
        | some name => exact hname name h
      simp [of, setting, htype, hblank]
  | missingType htype => simp [of, setting, htype]
  | unknownType htype hsecret hvolume => simp [of, setting, htype, hsecret, hvolume]

/-- A workspace is bound exactly as its settings say. -/
theorem of_eq_ok_iff {b : WorkspaceBinding} :
    of workspace settings = .ok b ↔ Binds (workspace, settings) b := by
  constructor
  · intro h
    by_cases husable : IsUsable settings
    · obtain ⟨source, hfills⟩ := husable.exists_fills
      rw [hfills.of_eq, Except.ok.injEq] at h
      exact h ▸ ⟨rfl, hfills⟩
    · obtain ⟨e, hfaults⟩ := exists_faults workspace husable
      rw [hfaults.of_eq] at h
      cases h
  · rintro ⟨hname, hfills⟩
    cases b
    cases hname
    exact hfills.of_eq

/-- The error of a workspace is what is wrong with its settings. -/
theorem of_eq_error_iff {e : WorkspaceError} :
    of workspace settings = .error e ↔ Faults workspace settings e := by
  refine ⟨fun h => ?_, Faults.of_eq⟩
  by_cases husable : IsUsable settings
  · obtain ⟨source, hfills⟩ := husable.exists_fills
    rw [hfills.of_eq] at h
    cases h
  · obtain ⟨f, hfaults⟩ := exists_faults workspace husable
    rw [hfaults.of_eq, Except.error.injEq] at h
    exact h ▸ hfaults

theorem exists_of_eq_error_iff : (∃ e, of workspace settings = .error e) ↔ ¬IsUsable settings := by
  constructor
  · rintro ⟨e, he⟩ husable
    obtain ⟨source, hfills⟩ := husable.exists_fills
    rw [hfills.of_eq] at he
    cases he
  · intro h
    obtain ⟨e, hfaults⟩ := exists_faults workspace h
    exact ⟨e, hfaults.of_eq⟩

/-! ## All workspaces -/

variable {workspaces : TextMap (TextMap String)}

theorem ofAll_eq_ok_iff {bindings : List WorkspaceBinding} :
    ofAll workspaces = .ok bindings ↔ List.Forall₂ Binds workspaces.entries bindings := by
  rw [ofAll, ErrorList.orElse_values_eq_ok_iff, ← List.forall₂_eq_eq_eq, List.forall₂_map_left_iff,
    List.forall₂_map_right_iff]
  simp only [of_eq_ok_iff]

theorem ofAll_eq_error_iff {errors : ErrorList WorkspaceError} :
    ofAll workspaces = .error errors ↔ errors.toList ≠ [] ∧
      List.Forall₂ (fun entry e => Faults entry.1 entry.2 e)
        (workspaces.entries.filter fun entry => ¬IsUsable entry.2) errors.toList := by
  have hfails : ∀ entry ∈ workspaces.entries, decide (¬IsUsable entry.2) = true ↔
      ∃ e, of entry.1 entry.2 = .error e := by
    intro entry _
    rw [decide_eq_true_iff, exists_of_eq_error_iff]
  have hcollect := ErrorList.toList_ofOutcomes_map_eq_iff errors.toList hfails
  simp only [of_eq_error_iff] at hcollect
  rw [ofAll, ErrorList.orElse_eq_error_iff, ← hcollect]
  constructor
  · rintro ⟨hne, rfl⟩
    exact ⟨hne, rfl⟩
  · rintro ⟨hne, heq⟩
    exact ⟨heq ▸ hne, congrArg ErrorList.mk heq⟩

theorem exists_ofAll_eq_ok_iff :
    (∃ bindings, ofAll workspaces = .ok bindings) ↔
      ∀ entry ∈ workspaces.entries, IsUsable entry.2 := by
  constructor
  · rintro ⟨bindings, h⟩
    have husable : List.Forall₂ (fun entry b => IsUsable entry.2 ∧ Binds entry b)
        workspaces.entries bindings :=
      (ofAll_eq_ok_iff.mp h).imp fun _ _ hb => ⟨hb.source.isUsable, hb⟩
    exact ((List.forall₂_and_left _ _).mp husable).1
  · intro husable
    cases h : ofAll workspaces with
    | ok bindings => exact ⟨bindings, rfl⟩
    | error errors =>
        obtain ⟨hne, hfaults⟩ := ofAll_eq_error_iff.mp h
        have hnone : workspaces.entries.filter (fun entry => ¬IsUsable entry.2) = [] := by
          simpa [List.filter_eq_nil_iff] using husable
        rw [hnone] at hfaults
        exact absurd (List.forall₂_nil_left_iff.mp hfaults) hne

/-! ## Written bindings -/

theorem get?_name_toJson (b : WorkspaceBinding) : b.toJson.get? "name" = some (.text b.name) := by
  unfold toJson
  cases b.source <;> rfl

theorem carries_toJson (b : WorkspaceBinding) : Carries b.toJson b.source := by
  unfold toJson
  cases b.source with
  | secret name => exact .secret rfl rfl
  | volume storageClass => exact .claim rfl rfl rfl (by cases storageClass <;> rfl)

end WorkspaceBinding

open WorkspaceBinding

namespace RunRequest

variable {r : RunRequest}

theorem manifest_eq_ok_iff {m : RunManifest} :
    r.manifest = .ok m ↔ List.Forall₂ Binds r.workspaces.entries m.workspaces ∧
      m.ns = r.ns ∧ m.generateName = r.runName ++ "-" ∧ m.pipeline = r.pipeline ∧
      m.params = r.params := by
  rw [manifest, ← ofAll_eq_ok_iff]
  cases ofAll r.workspaces with
  | error errors => simp [Except.map]
  | ok bindings =>
      cases m
      simp only [Except.map, Except.ok.injEq, RunManifest.mk.injEq]
      grind

theorem manifest_eq_error_iff {errors : ErrorList WorkspaceError} :
    r.manifest = .error errors ↔ ofAll r.workspaces = .error errors := by
  rw [manifest]
  cases ofAll r.workspaces <;> simp [Except.map]

theorem exists_manifest_eq_ok_iff :
    (∃ m, r.manifest = .ok m) ↔ ∃ bindings, ofAll r.workspaces = .ok bindings := by
  rw [manifest]
  cases ofAll r.workspaces <;> simp [Except.map]

/-- A run can be asked for exactly if all workspaces are usable, and then it binds each of them
once, in the order of their names. Otherwise there is no run and exactly one error for each
workspace that is not usable, in that order. -/
theorem manifest_all_or_nothing (r : RunRequest) :
    ((∃ m, r.manifest = .ok m) ↔ ∀ entry ∈ r.workspaces.entries, IsUsable entry.2) ∧
    (∀ m, r.manifest = .ok m ↔ List.Forall₂ Binds r.workspaces.entries m.workspaces ∧
      m.ns = r.ns ∧ m.generateName = r.runName ++ "-" ∧ m.pipeline = r.pipeline ∧
      m.params = r.params) ∧
    (∀ m, r.manifest = .ok m → ∀ b ∈ m.workspaces,
      b.toJson.get? "name" = some (.text b.name) ∧ Carries b.toJson b.source) ∧
    (∀ errors, r.manifest = .error errors ↔ errors.toList ≠ [] ∧
      List.Forall₂ (fun entry e => Faults entry.1 entry.2 e)
        (r.workspaces.entries.filter fun entry => ¬IsUsable entry.2) errors.toList) := by
  refine ⟨exists_manifest_eq_ok_iff.trans exists_ofAll_eq_ok_iff, fun m => manifest_eq_ok_iff,
    fun m _ b _ => ⟨get?_name_toJson b, carries_toJson b⟩, fun errors => ?_⟩
  rw [manifest_eq_error_iff, ofAll_eq_error_iff]

example :
    RunRequest.manifest ⟨"ns", "run", "p", .empty, .ofList [("b", .empty), ("c", .empty),
      ("a", .ofList [("type", "secret"), ("secretName", " ")])]⟩ =
    .error ⟨[.missingSecretName "a", .unknownType "b" "", .unknownType "c" ""]⟩ := by
  decide +kernel

end RunRequest

end ReleaseBuilds
