import Mathlib.Data.List.Forall2
import ReleaseBuilds.ErrorList

/-!
# Steps that can fail

Steps one after another succeed if all of them do. Steps whose errors are collected are all taken:
together they come to one result for each, or to one error for each that fails.
-/

namespace ReleaseBuilds

theorem bind_eq_ok_iff {ε α β : Type} {step : Except ε α} {next : α → Except ε β} {b : β} :
    (step >>= next) = .ok b ↔ ∃ a, step = .ok a ∧ next a = .ok b := by
  cases step with
  | ok a => simp [bind, Except.bind]
  | error e => simp [bind, Except.bind]

namespace ErrorList

variable {ε α β : Type} {outcomes : List (Except ε α)}

@[simp] theorem values_cons_ok (a : α) : values (.ok a :: outcomes) = a :: values outcomes := rfl

@[simp] theorem values_cons_error (e : ε) : values (.error e :: outcomes) = values outcomes := rfl

@[simp] theorem toList_ofOutcomes_cons_ok (a : α) :
    (ofOutcomes (.ok a :: outcomes)).toList = (ofOutcomes outcomes).toList := rfl

@[simp] theorem toList_ofOutcomes_cons_error (e : ε) :
    (ofOutcomes (.error e :: outcomes)).toList = e :: (ofOutcomes outcomes).toList := rfl

/-- Nothing is collected exactly from steps that all succeed. -/
theorem toList_ofOutcomes_eq_nil_iff :
    (ofOutcomes outcomes).toList = [] ↔ outcomes = (values outcomes).map .ok := by
  induction outcomes with
  | nil => simp [ofOutcomes, values]
  | cons outcome rest ih =>
      cases outcome with
      | ok a => simpa using ih
      | error e =>
          rw [toList_ofOutcomes_cons_error, values_cons_error]
          constructor
          · intro h
            cases h
          · intro h
            -- the first of these results is a success, whatever the rest comes to
            cases hvalues : values rest with
            | nil => simp [hvalues] at h
            | cons b bs => simp [hvalues] at h

theorem values_map_ok (as : List α) : values (as.map (.ok : α → Except ε α)) = as := by
  induction as with
  | nil => simp [values]
  | cons a rest ih => rw [List.map_cons, values_cons_ok, ih]

theorem orElse_eq_ok_iff {errors : ErrorList ε} {a b : α} :
    errors.orElse a = .ok b ↔ errors.toList = [] ∧ a = b := by
  unfold orElse isEmpty
  split
  · next h => simpa using fun _ => List.isEmpty_iff.mp h
  · next h => simpa using fun hnil => absurd (List.isEmpty_iff.mpr hnil) h

theorem orElse_eq_error_iff {errors later : ErrorList ε} {a : α} :
    errors.orElse a = .error later ↔ errors.toList ≠ [] ∧ errors = later := by
  unfold orElse isEmpty
  split
  · next h => simpa using fun hne => absurd (List.isEmpty_iff.mp h) hne
  · next h => simpa using fun _ hnil => absurd (List.isEmpty_iff.mpr hnil) h

/-- Results come only from steps that all succeed, and then there is one of each. -/
theorem orElse_values_eq_ok_iff {as : List α} :
    (ofOutcomes outcomes).orElse (values outcomes) = .ok as ↔ outcomes = as.map .ok := by
  rw [orElse_eq_ok_iff, toList_ofOutcomes_eq_nil_iff]
  constructor
  · rintro ⟨hall, rfl⟩
    exact hall
  · intro h
    have hvalues : values outcomes = as := by rw [h, values_map_ok]
    exact ⟨by rw [hvalues, h], hvalues⟩

/-- What is collected is one error of each step that fails, in the order of the steps. -/
theorem toList_ofOutcomes_map_eq_iff {step : β → Except ε α} {fails : β → Bool} {items : List β}
    (errors : List ε) (hfails : ∀ i ∈ items, fails i = true ↔ ∃ e, step i = .error e) :
    (ofOutcomes (items.map step)).toList = errors ↔
      List.Forall₂ (fun i e => step i = .error e) (items.filter fails) errors := by
  induction items generalizing errors with
  | nil => simp [ofOutcomes, eq_comm]
  | cons i rest ih =>
      have hrest (later : List ε) := ih later fun j hj => hfails j (List.mem_cons_of_mem i hj)
      cases hstep : step i with
      | ok a =>
          have hi : ¬fails i = true := by simp [hfails i List.mem_cons_self, hstep]
          rw [List.map_cons, hstep, toList_ofOutcomes_cons_ok, List.filter_cons_of_neg hi]
          exact hrest errors
      | error e =>
          have hi : fails i = true := (hfails i List.mem_cons_self).mpr ⟨e, hstep⟩
          rw [List.map_cons, hstep, toList_ofOutcomes_cons_error, List.filter_cons_of_pos hi]
          cases errors with
          | nil => simp
          | cons f errors => simp [hstep, hrest]

end ErrorList

end ReleaseBuilds
