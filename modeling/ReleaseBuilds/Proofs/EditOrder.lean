import Mathlib.Data.List.Nodup
import ReleaseBuilds.Proofs.Status

/-!
# The order of edits

Edits of a status that are about different releases, or different kinds of one release, can be made
in any order: what is known about a release is found by its tag, wherever its entry came from. So
several edits come to the same status in every order in which they are made.
-/

namespace ReleaseBuilds

/-- Steps that can be swapped if their keys differ come to the same in every order. -/
theorem foldl_perm_of_nodup {α β κ : Type} {step : β → α → β} {key : α → κ} {items others : List α}
    (hswap : ∀ b first second, key first ≠ key second →
      step (step b first) second = step (step b second) first)
    (hnodup : (items.map key).Nodup) (hperm : items.Perm others) (b : β) :
    items.foldl step b = others.foldl step b := by
  apply hperm.foldl_eq'
  intro first hfirst second hsecond b
  by_cases heq : first = second
  · rw [heq]
  · exact hswap b first second fun hkey =>
      heq (List.inj_on_of_nodup_map hnodup hfirst hsecond hkey)

namespace TextMap

variable {α : Type}

/-- Maps with the same values are equal. -/
theorem ext_get? {m n : TextMap α} (h : ∀ key, m.get? key = n.get? key) : m = n := by
  have hnodup (m : TextMap α) : m.entries.Nodup := by
    apply m.sorted.imp
    rintro entry _ hlt rfl
    exact String.lt_irrefl entry.1 hlt
  have hperm : m.entries.Perm n.entries := by
    rw [List.perm_ext_iff_of_nodup (hnodup m) (hnodup n)]
    rintro ⟨key, value⟩
    rw [← get?_eq_some_iff, ← get?_eq_some_iff, h]
  have hentries : m.entries = n.entries :=
    hperm.eq_of_pairwise (fun _ _ _ _ hlt hgt => absurd hgt (String.lt_asymm hlt)) m.sorted n.sorted
  cases m
  cases n
  cases hentries
  rfl

theorem insert_insert (m : TextMap α) (key : String) (first second : α) :
    (m.insert key first).insert key second = m.insert key second := by
  apply ext_get?
  intro other
  rw [get?_insert, get?_insert, get?_insert]
  split
  next => rfl
  next => rfl

theorem insert_comm (m : TextMap α) {key other : String} (hne : key ≠ other) (first second : α) :
    (m.insert key first).insert other second = (m.insert other second).insert key first := by
  apply ext_get?
  intro x
  rw [get?_insert, get?_insert, get?_insert, get?_insert]
  by_cases hx : x = key
  · rw [if_pos hx, if_pos hx, if_neg (hx ▸ hne)]
  · rw [if_neg hx, if_neg hx]

end TextMap

namespace Repository

/-- A run that is recorded for a release and a kind. -/
structure Recording where
  pair : String × ArtifactType
  name : String
  timestamp : Instant

namespace ReleaseStatus

/-- Records of different kinds do not get in each other's way. -/
theorem recordRun_comm (r : ReleaseStatus) {t u : ArtifactType} (hne : t ≠ u)
    (first second : String) (earlier later : Instant) :
    (r.recordRun t first earlier).recordRun u second later =
      (r.recordRun u second later).recordRun t first earlier := by
  cases t with
  | assets =>
      cases u with
      | assets => exact absurd rfl hne
      | container => cases hruns : r.runs <;> simp [recordRun, run?, hruns, PerArtifact.insert,
          PerArtifact.set, PerArtifact.get?]
  | container =>
      cases u with
      | assets => cases hruns : r.runs <;> simp [recordRun, run?, hruns, PerArtifact.insert,
          PerArtifact.set, PerArtifact.get?]
      | container => exact absurd rfl hne

end ReleaseStatus

namespace Status

variable (s : Status)

/-- The status with one more run recorded. -/
def record (recording : Recording) : Status :=
  s.recordRun recording.pair.1 recording.pair.2 recording.name recording.timestamp

theorem updateRelease_updateRelease (tag : String) (f g : ReleaseStatus → ReleaseStatus) :
    (s.updateRelease tag f).updateRelease tag g = s.updateRelease tag fun r => g (f r) := by
  rw [updateRelease, release_updateRelease, if_pos rfl, updateRelease, updateRelease,
    TextMap.insert_insert]

theorem updateRelease_comm {tag other : String} (hne : tag ≠ other)
    (f g : ReleaseStatus → ReleaseStatus) :
    (s.updateRelease tag f).updateRelease other g =
      (s.updateRelease other g).updateRelease tag f := by
  rw [updateRelease, release_updateRelease, if_neg hne.symm, updateRelease, updateRelease,
    release_updateRelease, if_neg hne, updateRelease, TextMap.insert_comm _ hne]

/-- Runs of different pairs are recorded in any order. -/
theorem record_comm {first second : Recording} (hne : first.pair ≠ second.pair) :
    (s.record first).record second = (s.record second).record first := by
  obtain ⟨⟨tag, t⟩, name, timestamp⟩ := first
  obtain ⟨⟨other, u⟩, name', timestamp'⟩ := second
  dsimp only [record, recordRun]
  by_cases htag : tag = other
  · subst htag
    have hne_type : t ≠ u := fun heq => hne (by rw [heq])
    rw [updateRelease_updateRelease, updateRelease_updateRelease]
    exact congrArg (s.updateRelease tag) (funext fun r => r.recordRun_comm hne_type ..)
  · exact s.updateRelease_comm htag ..

/-- Findings about different releases are taken up in any order. -/
theorem takeUp_perm (spec : Spec) {findings others : List Finding}
    (hnodup : (findings.map Finding.tag).Nodup) (hperm : findings.Perm others) :
    s.takeUp spec findings = s.takeUp spec others :=
  foldl_perm_of_nodup (fun s _ _ hne => s.updateRelease_comm hne _ _) hnodup hperm s

/-- Runs of different pairs come to the same records in every order. -/
theorem foldl_record_perm {recordings others : List Recording}
    (hnodup : (recordings.map Recording.pair).Nodup) (hperm : recordings.Perm others) :
    recordings.foldl record s = others.foldl record s :=
  foldl_perm_of_nodup (fun s _ _ hne => s.record_comm hne) hnodup hperm s

end Status

end Repository

end ReleaseBuilds
