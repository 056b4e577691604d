import Mathlib.Data.Finmap
import ReleaseBuilds.Proofs.Cleanup

/-!
# What edits come to

A status keeps its records in two layers, release by release, and its conditions in a list that is
edited in place. Both are read here as what they stand for: the records as one plain map over pairs
of a tag and a kind, the conditions as the latest ones among all that were ever set. That holds
after every sequence of edits, and no sequence leaves an empty map of runs behind.
-/

namespace ReleaseBuilds.Repository

/-- One edit of a status. -/
inductive Edit where
  | setCondition (c : Condition)
  | recordRun (tag : String) (t : ArtifactType) (name : String) (timestamp : Instant)
  | removeRun (tag : String) (t : ArtifactType)
  | setMissing (tag : String) (t : ArtifactType) (isMissing : Bool)

def Status.edit (s : Status) : Edit → Status
  | .setCondition c => s.setCondition c
  | .recordRun tag t name timestamp => s.recordRun tag t name timestamp
  | .removeRun tag t => s.removeRun tag t
  | .setMissing tag t isMissing => s.updateRelease tag fun r => r.setMissing t isMissing

/-- The status that edits make out of the empty one. -/
def Status.ofEdits (edits : List Edit) : Status := edits.foldl Status.edit {}

/-! ## Plain counterparts -/

/-- Records by pair, in one finite map and without anything beside them. -/
abbrev Ledger := Finmap fun _ : String × ArtifactType => RunRecord

namespace Ledger

/-- A record that takes the place of another carries its count on. -/
def edit (l : Ledger) : Edit → Ledger
  | .recordRun tag t name timestamp =>
    l.insert (tag, t) ⟨name, timestamp, countAfter (l.lookup (tag, t))⟩
  | .removeRun tag t => l.erase (tag, t)
  | .setCondition _ => l
  | .setMissing .. => l

def ofEdits (edits : List Edit) : Ledger := edits.foldl edit ∅

end Ledger

/-- The condition that an edit sets, if it sets one. -/
def Edit.condition? : Edit → Option Condition
  | .setCondition c => some c
  | .recordRun .. => none
  | .removeRun .. => none
  | .setMissing .. => none

/-- All conditions that edits set, in the order in which they do. -/
def conditionsSet (edits : List Edit) : List Condition := edits.filterMap Edit.condition?

/-- The last condition of a kind among those that edits set. -/
def lastSet? (edits : List Edit) (kind : String) : Option Condition :=
  (conditionsSet edits).reverse.find? fun c => c.kind == kind

/-! ## Runs are absent rather than empty -/

namespace ReleaseStatus

/-- The runs are absent exactly if there is no record. -/
def IsCanonical (r : ReleaseStatus) : Prop := r.runs = none ↔ ∀ t, r.run? t = none

variable {r : ReleaseStatus} (t : ArtifactType)

theorem isCanonical_new : IsCanonical {} := iff_of_true rfl fun _ => rfl

theorem isCanonical_recordRun (name : String) (timestamp : Instant) :
    (r.recordRun t name timestamp).IsCanonical := by
  constructor
  · intro h
    cases h
  · intro h
    have hrecorded := h t
    rw [run?_recordRun, if_pos rfl] at hrecorded
    cases hrecorded

theorem isCanonical_removeRun : (r.removeRun t).IsCanonical :=
  ⟨run?_of_runs_eq_none, fun h => runs_removeRun_eq_none_iff.mpr (.inr h)⟩

theorem IsCanonical.isEmpty_eq_false {runs : PerArtifact RunRecord} (h : r.IsCanonical)
    (hruns : r.runs = some runs) : runs.isEmpty = false := by
  rw [Bool.eq_false_iff]
  intro hempty
  have hnone : r.runs = none := h.mpr fun t => by
    rw [run?, hruns, Option.bind_some, PerArtifact.get?_eq_none_of_isEmpty hempty]
  rw [hruns] at hnone
  cases hnone

end ReleaseStatus

namespace Status

variable {s : Status}

/-- Every known release is canonical. -/
def IsCanonical (s : Status) : Prop :=
  ∀ tag r, s.releases.get? tag = some r → r.IsCanonical

theorem IsCanonical.release (h : s.IsCanonical) (tag : String) : (s.release tag).IsCanonical := by
  rw [Status.release]
  cases hknown : s.releases.get? tag with
  | none => exact ReleaseStatus.isCanonical_new
  | some r => exact h tag r hknown

theorem IsCanonical.updateRelease (h : s.IsCanonical) {tag : String}
    {f : ReleaseStatus → ReleaseStatus} (hf : (f (s.release tag)).IsCanonical) :
    (s.updateRelease tag f).IsCanonical := by
  intro other r hget
  rw [get?_updateRelease] at hget
  split at hget
  next =>
    cases hget
    exact hf
  next => exact h other r hget

theorem IsCanonical.edit (h : s.IsCanonical) (e : Edit) : (s.edit e).IsCanonical := by
  cases e with
  | setCondition c => exact h
  | recordRun tag t name timestamp =>
      exact h.updateRelease (ReleaseStatus.isCanonical_recordRun t name timestamp)
  | removeRun tag t =>
      rw [Status.edit, removeRun]
      split
      next => exact h.updateRelease (ReleaseStatus.isCanonical_removeRun t)
      next => exact h
  | setMissing tag t isMissing =>
      -- the flags are no part of what is asked about the runs
      exact h.updateRelease (h.release tag)

/-! ## Records as a plain map -/

/-- An edit does the same to the records of a status as to a plain map of them. -/
theorem run?_edit {l : Ledger} (h : ∀ tag t, s.run? tag t = l.lookup (tag, t)) (e : Edit)
    (tag : String) (t : ArtifactType) : (s.edit e).run? tag t = (l.edit e).lookup (tag, t) := by
  cases e with
  | setCondition c => exact h tag t
  | recordRun other u name timestamp =>
      rw [Status.edit, run?_recordRun, Ledger.edit, h other u]
      split
      next heq =>
        obtain ⟨rfl, rfl⟩ := heq
        rw [Finmap.lookup_insert]
      next hne =>
        have hpair : (tag, t) ≠ (other, u) := fun heq => hne (Prod.mk.inj heq)
        rw [Finmap.lookup_insert_of_ne _ hpair, h]
  | removeRun other u =>
      rw [Status.edit, run?_removeRun, Ledger.edit]
      split
      next heq =>
        obtain ⟨rfl, rfl⟩ := heq
        rw [Finmap.lookup_erase]
      next hne =>
        have hpair : (tag, t) ≠ (other, u) := fun heq => hne (Prod.mk.inj heq)
        rw [Finmap.lookup_erase_ne hpair, h]
  | setMissing other u isMissing =>
      have hruns : ((s.edit (.setMissing other u isMissing)).release tag).runs =
          (s.release tag).runs := by
        rw [Status.edit, release_updateRelease]
        split
        next heq => rw [heq]; rfl
        next => rfl
      rw [run?, ReleaseStatus.run?, hruns]
      exact h tag t

/-! ## Conditions as the latest ones -/

theorem map_kind_upsert (c : Condition) (conditions : List Condition) :
    (upsert c conditions).map Condition.kind =
      if c.kind ∈ conditions.map Condition.kind then conditions.map Condition.kind
      else conditions.map Condition.kind ++ [c.kind] := by
  split
  next hold =>
    induction conditions with
    | nil => cases hold
    | cons first rest ih =>
        rw [upsert]
        split
        next heq => rw [List.map_cons, List.map_cons, eq_of_beq heq]
        next hne =>
          have hrest : c.kind ∈ rest.map Condition.kind := by
            rcases List.mem_cons.mp hold with heq | hrest
            · exact absurd (beq_iff_eq.mpr heq.symm) hne
            · exact hrest
          rw [List.map_cons, List.map_cons, ih hrest]
  next hnew => rw [upsert_of_not_mem hnew, List.map_append, List.map_singleton]

/-- The condition that is set is found under its kind, and the others as before. -/
theorem find?_upsert (c : Condition) (conditions : List Condition) (kind : String) :
    (upsert c conditions).find? (fun d => d.kind == kind) =
      if c.kind = kind then some c else conditions.find? fun d => d.kind == kind := by
  induction conditions with
  | nil => simp [upsert]
  | cons first rest ih =>
      rw [upsert]
      split
      next heq =>
        have hkind : first.kind = c.kind := eq_of_beq heq
        by_cases hc : c.kind = kind
        · simp [hc]
        · simp [hc, hkind]
      next hne =>
        rw [List.find?_cons, List.find?_cons, ih]
        by_cases hfirst : first.kind = kind
        · have hc : c.kind ≠ kind := fun hc => hne (by simp [hfirst, hc])
          simp [hfirst, hc]
        · simp [beq_false_of_ne hfirst]

theorem nodup_kinds_upsert {c : Condition} {conditions : List Condition}
    (h : (conditions.map Condition.kind).Nodup) :
    ((upsert c conditions).map Condition.kind).Nodup := by
  rw [map_kind_upsert]
  split
  next => exact h
  next hnew =>
    rw [List.nodup_append]
    refine ⟨h, List.nodup_singleton _, ?_⟩
    rintro kind hkind other hother rfl
    obtain rfl := List.mem_singleton.mp hother
    exact hnew hkind

/-- A condition that is the only one of its kind is the one found under it. -/
theorem find?_kind_of_mem {c : Condition} {conditions : List Condition}
    (hnodup : (conditions.map Condition.kind).Nodup) (hc : c ∈ conditions) :
    conditions.find? (fun d => d.kind == c.kind) = some c := by
  induction conditions with
  | nil => cases hc
  | cons first rest ih =>
      obtain ⟨hnew, hrest⟩ := List.nodup_cons.mp hnodup
      rcases List.mem_cons.mp hc with rfl | hmem
      · exact List.find?_cons_of_pos (beq_self_eq_true _)
      · have hne : first.kind ≠ c.kind := fun heq =>
          hnew (List.mem_map.mpr ⟨c, hmem, heq.symm⟩)
        rw [List.find?_cons_of_neg (by simpa using hne), ih hrest hmem]

theorem conditions_edit (e : Edit) :
    (s.edit e).conditions = e.condition?.elim s.conditions fun c => upsert c s.conditions := by
  cases e with
  | setCondition c => rfl
  | recordRun tag t name timestamp => rfl
  | removeRun tag t => exact (s.sameNotes_removeRun tag t).conditions
  | setMissing tag t isMissing => rfl

end Status

theorem conditionsSet_concat (edits : List Edit) (e : Edit) :
    conditionsSet (edits ++ [e]) = conditionsSet edits ++ e.condition?.toList := by
  rw [conditionsSet, List.filterMap_append]
  cases hset : e.condition? <;> simp [conditionsSet, hset]

theorem lastSet?_concat (edits : List Edit) (e : Edit) (kind : String) :
    lastSet? (edits ++ [e]) kind =
      (e.condition?.filter fun c => c.kind == kind).or (lastSet? edits kind) := by
  rw [lastSet?, conditionsSet_concat, List.reverse_append, List.find?_append]
  cases e.condition? with
  | none => rfl
  | some c => cases hkind : c.kind == kind <;> simp [Option.filter, hkind, lastSet?]

/-- A text that is added to others is new among the distinct ones if it was not there. -/
theorem eraseDups_concat (texts : List String) (text : String) :
    (texts ++ [text]).eraseDups =
      if text ∈ texts then texts.eraseDups else texts.eraseDups ++ [text] := by
  rw [List.eraseDups_append]
  by_cases hmem : text ∈ texts <;> simp [List.removeAll, List.eraseDups_cons, hmem]

/-! ## Sequences of edits -/

namespace Status

/-- A status that stands for the records and conditions of a sequence of edits. -/
structure Represents (s : Status) (edits : List Edit) : Prop where
  canonical : s.IsCanonical
  run?_eq : ∀ tag t, s.run? tag t = (Ledger.ofEdits edits).lookup (tag, t)
  kinds_eq : s.conditions.map Condition.kind =
    ((conditionsSet edits).map Condition.kind).eraseDups
  nodup_kinds : (s.conditions.map Condition.kind).Nodup
  condition?_eq : ∀ kind, s.condition? kind = lastSet? edits kind

variable {s : Status} {edits : List Edit}

theorem represents_new : Represents {} [] where
  canonical := by
    intro tag r hget
    cases hget
  run?_eq _ _ := rfl
  kinds_eq := rfl
  nodup_kinds := .nil
  condition?_eq _ := rfl

/-- One more edit is taken up by the status as by what it stands for. -/
theorem Represents.edit (h : s.Represents edits) (e : Edit) :
    (s.edit e).Represents (edits ++ [e]) where
  canonical := h.canonical.edit e
  run?_eq := by
    intro tag t
    rw [Ledger.ofEdits, List.foldl_append, List.foldl_cons, List.foldl_nil]
    exact run?_edit h.run?_eq e tag t
  kinds_eq := by
    rw [conditions_edit, conditionsSet_concat]
    cases e.condition? with
    | none => simpa using h.kinds_eq
    | some c =>
        rw [Option.elim_some, map_kind_upsert, Option.toList_some, List.map_append,
          List.map_singleton, eraseDups_concat, h.kinds_eq]
        simp only [List.mem_eraseDups]
  nodup_kinds := by
    rw [conditions_edit]
    cases e.condition? with
    | none => exact h.nodup_kinds
    | some c => exact nodup_kinds_upsert h.nodup_kinds
  condition?_eq := by
    intro kind
    have hbefore := h.condition?_eq kind
    rw [condition?] at hbefore
    rw [condition?, conditions_edit, lastSet?_concat]
    cases e.condition? with
    | none => exact hbefore
    | some c =>
        rw [Option.elim_some, find?_upsert, hbefore]
        by_cases hkind : c.kind = kind <;> simp [Option.filter, hkind]

theorem represents_ofEdits (edits : List Edit) : (ofEdits edits).Represents edits := by
  -- the last edit meets the status that all others made
  induction edits using List.reverseRecOn with
  | nil => exact represents_new
  | append_singleton edits e ih =>
      rw [ofEdits, List.foldl_append]
      exact ih.edit e

/-- Whatever edits the empty status went through, no known release has a map of runs that is empty,
and its runs are absent exactly if there is no record of one; the records are those of a plain map
that went through the same edits; and of each kind that was ever set there is one condition, the
last one set, in the order in which the kinds were first set. -/
theorem canonicalForm_ofEdits (edits : List Edit) :
    (∀ tag r, (ofEdits edits).releases.get? tag = some r →
      (r.runs = none ↔ ∀ t, r.run? t = none) ∧
      ∀ runs, r.runs = some runs → runs.isEmpty = false) ∧
    (∀ tag t, (ofEdits edits).run? tag t = (Ledger.ofEdits edits).lookup (tag, t)) ∧
    (ofEdits edits).conditions.map Condition.kind =
      ((conditionsSet edits).map Condition.kind).eraseDups ∧
    ((ofEdits edits).conditions.map Condition.kind).Nodup ∧
    (∀ c ∈ (ofEdits edits).conditions, lastSet? edits c.kind = some c) ∧
    ∀ kind, (ofEdits edits).condition? kind = lastSet? edits kind := by
  have h := represents_ofEdits edits
  refine ⟨?_, h.run?_eq, h.kinds_eq, h.nodup_kinds, ?_, h.condition?_eq⟩
  · intro tag r hget
    have hcanonical := h.canonical tag r hget
    exact ⟨hcanonical, fun runs => hcanonical.isEmpty_eq_false⟩
  · intro c hc
    rw [← h.condition?_eq]
    exact find?_kind_of_mem h.nodup_kinds hc

end Status

end ReleaseBuilds.Repository
