import ReleaseBuilds.Proofs.Flags

/-!
# A window from the environment

Each hour of the window has a variable of its own, and a value that is no number leaves the hour
unset, as it does with every other setting. As soon as one hour is set, the window is used or
refused: no window at all is left only if both hours are unset.
-/

namespace ReleaseBuilds

theorem Window.of_eq_ok_iff {opens closes : Nat} {w : Window} :
    Window.of opens closes = .ok w ↔ opens = w.opens ∧ closes = w.closes := by
  have hlt := w.opens_lt_closes
  have hle := w.closes_le
  unfold Window.of
  constructor
  · intro h
    split at h
    next => cases h
    next =>
      split at h
      next => cases h
      next =>
        split at h
        next =>
          cases h
          exact ⟨rfl, rfl⟩
        next => cases h
  · rintro ⟨rfl, rfl⟩
    rw [if_neg (by omega), dif_neg (by omega), dif_pos hlt]

namespace Policy

variable {opens closes : Option Nat}

theorem ofHours_eq_plain_iff :
    ofHours opens closes = .ok .plain ↔ opens = none ∧ closes = none := by
  cases opens with
  | none => cases closes <;> simp [ofHours]
  | some opens =>
      cases closes with
      | none => simp [ofHours]
      | some closes => cases hwindow : Window.of opens closes <;> simp [ofHours, hwindow, Except.map]

theorem ofHours_eq_onHours_iff {w : Window} :
    ofHours opens closes = .ok (.onHours w) ↔ opens = some w.opens ∧ closes = some w.closes := by
  cases opens with
  | none => cases closes <;> simp [ofHours]
  | some opens =>
      cases closes with
      | none => simp [ofHours]
      | some closes =>
          rw [Option.some_inj, Option.some_inj, ← Window.of_eq_ok_iff]
          cases hwindow : Window.of opens closes <;> simp [ofHours, hwindow, Except.map]

end Policy

namespace Config

/-- A number of 32 bits in decimal digits, maybe with a plus sign in front. -/
def IsHour (cs : List Char) (n : Nat) : Prop :=
  n < UInt32.size ∧ ∃ digits, (cs = digits ∨ cs = '+' :: digits) ∧ digits ≠ [] ∧
    (∀ c ∈ digits, c.isDigit = true) ∧ Nat.ofDigitChars 10 digits 0 = n

theorem hour?_eq_some_iff {value : String} {n : Nat} :
    hour? value = some n ↔ IsHour value.toList n := by
  rw [hour?, Decimal.nat?_eq_some_iff]
  simp only [Decimal.digits?_eq_some_iff]
  constructor
  · rintro ⟨digits, hvalue, hdigits, hlt⟩
    exact ⟨hlt, digits, hvalue, hdigits⟩
  · rintro ⟨hlt, digits, hvalue, hdigits⟩
    exact ⟨digits, hvalue, hdigits, hlt⟩

section Environment

variable (env : Environment) (f : Flag)

/-- The variable for a setting has a value that is not blank. -/
def IsSet : Prop := ∃ value, env f.envName = some value ∧ ∃ c ∈ value.toList, Text.isBlank c = false

/-- The variable for a setting is a number of 32 bits. -/
def Holds (n : Nat) : Prop := ∃ value, env f.envName = some value ∧ IsHour value.toList n

/-- The variable for a setting is a number of 32 bits, blanks around it aside. -/
def Denotes (n : Nat) : Prop :=
  ∃ value before hour after, env f.envName = some value ∧
    value.toList = before ++ (hour ++ after) ∧ (∀ c ∈ before ++ after, Text.isBlank c = true) ∧
    IsHour hour n

/-- The window that an environment sets is used with the hours that it denotes, or refused. -/
def HeedsWindow (c : Config) : Prop :=
  (∃ w, c.policy = .ok (.onHours w) ∧
    Denotes env .windowOpens w.opens ∧ Denotes env .windowCloses w.closes) ∨
  ∃ e, c.policy = .error e

end Environment

variable {env : Environment} {f : Flag} {n : Nat}

theorem bind_hour?_eq_some_iff : (env f.envName).bind hour? = some n ↔ Holds env f n := by
  rw [Option.bind_eq_some_iff, Holds]
  simp only [hour?_eq_some_iff]

theorem Holds.denotes (h : Holds env f n) : Denotes env f n := by
  obtain ⟨value, hvalue, hhour⟩ := h
  exact ⟨value, [], value.toList, [], hvalue, by simp, by simp, hhour⟩

theorem policy_eq_onHours_iff {w : Window} : (ofEnvironment env).policy = .ok (.onHours w) ↔
    Holds env .windowOpens w.opens ∧ Holds env .windowCloses w.closes := by
  rw [← bind_hour?_eq_some_iff, ← bind_hour?_eq_some_iff]
  exact Policy.ofHours_eq_onHours_iff

theorem policy_eq_plain_iff : (ofEnvironment env).policy = .ok .plain ↔
    (∀ n, ¬Holds env .windowOpens n) ∧ ∀ n, ¬Holds env .windowCloses n := by
  simp only [← bind_hour?_eq_some_iff, ← Option.eq_none_iff_forall_ne_some]
  exact Policy.ofHours_eq_plain_iff

theorem Holds.unique {m : Nat} (h : Holds env f n) (hm : Holds env f m) : n = m := by
  rw [← bind_hour?_eq_some_iff] at h hm
  exact Option.some.inj (h.symm.trans hm)

/-- As soon as one hour is a number the window is used or refused. -/
theorem Holds.heedsWindow (h : Holds env .windowOpens n ∨ Holds env .windowCloses n) :
    HeedsWindow env (ofEnvironment env) := by
  cases hpolicy : (ofEnvironment env).policy with
  | error e => exact .inr ⟨e, hpolicy⟩
  | ok policy =>
      cases policy with
      | plain =>
          obtain ⟨hopens, hcloses⟩ := policy_eq_plain_iff.mp hpolicy
          exact (h.elim (hopens n) (hcloses n)).elim
      | onHours w =>
          obtain ⟨hopens, hcloses⟩ := policy_eq_onHours_iff.mp hpolicy
          exact .inl ⟨w, hpolicy, hopens.denotes, hcloses.denotes⟩

/-- Two hours that are numbers make a window if they follow each other on one day. -/
theorem exists_policy_eq_onHours_iff {opens closes : Nat} (hopens : Holds env .windowOpens opens)
    (hcloses : Holds env .windowCloses closes) :
    (∃ w, (ofEnvironment env).policy = .ok (.onHours w)) ↔ opens < closes ∧ closes ≤ 23 := by
  constructor
  · rintro ⟨w, hpolicy⟩
    obtain ⟨hwopens, hwcloses⟩ := policy_eq_onHours_iff.mp hpolicy
    rw [hopens.unique hwopens, hcloses.unique hwcloses]
    exact ⟨w.opens_lt_closes, w.closes_le⟩
  · rintro ⟨hlt, hle⟩
    exact ⟨⟨opens, closes, hlt, hle⟩, policy_eq_onHours_iff.mpr ⟨hopens, hcloses⟩⟩

/-- Without arguments the settings are those of the environment. -/
theorem overlay_ofArguments_nil (c : Config) :
    (CommandLine.ofArguments []).map (fun l => l.overlay c) = .ok c := rfl

/-- A program that is started without arguments uses or refuses the window as soon as one of its
hours is a number of 32 bits without blanks around it, and uses it exactly if both are and follow
each other on one day. If neither is such a number even with the blanks around it removed, the
hours are unset, as any other setting would be. -/
theorem heedsWindow_of_number (env : Environment) :
    (CommandLine.ofArguments []).map (fun l => l.overlay (ofEnvironment env)) =
      .ok (ofEnvironment env) ∧
    (∀ n, Holds env .windowOpens n ∨ Holds env .windowCloses n →
      HeedsWindow env (ofEnvironment env)) ∧
    (∀ opens closes, Holds env .windowOpens opens → Holds env .windowCloses closes →
      ((∃ w, (ofEnvironment env).policy = .ok (.onHours w)) ↔ opens < closes ∧ closes ≤ 23)) ∧
    ((∀ n, ¬Denotes env .windowOpens n ∧ ¬Denotes env .windowCloses n) →
      (ofEnvironment env).policy = .ok .plain) := by
  refine ⟨overlay_ofArguments_nil _, fun n => Holds.heedsWindow,
    fun opens closes => exists_policy_eq_onHours_iff, fun hnone => ?_⟩
  rw [policy_eq_plain_iff]
  exact ⟨fun n hn => (hnone n).1 hn.denotes, fun n hn => (hnone n).2 hn.denotes⟩

/-- An environment with the hours of a window and nothing else. -/
def hoursOnly (opens closes : String) : Environment := fun name =>
  if name = Flag.windowOpens.envName then some opens
  else if name = Flag.windowCloses.envName then some closes
  else none

theorem heedsWindow_daytime :
    HeedsWindow (hoursOnly "8" "18") (ofEnvironment (hoursOnly "8" "18")) ∧
      ∃ w, (ofEnvironment (hoursOnly "8" "18")).policy = .ok (.onHours w) := by
  have hopens : Holds (hoursOnly "8" "18") .windowOpens 8 :=
    bind_hour?_eq_some_iff.mp (by decide +kernel)
  have hcloses : Holds (hoursOnly "8" "18") .windowCloses 18 :=
    bind_hour?_eq_some_iff.mp (by decide +kernel)
  obtain ⟨-, hheeds, hused, -⟩ := heedsWindow_of_number (hoursOnly "8" "18")
  exact ⟨hheeds 8 (.inl hopens), (hused 8 18 hopens hcloses).mpr (by decide)⟩

/-- Hours that are set in words are ignored. -/
theorem not_heedsWindow_words :
    IsSet (hoursOnly "8am" "6pm") .windowOpens ∧ IsSet (hoursOnly "8am" "6pm") .windowCloses ∧
      (CommandLine.ofArguments []).map (fun l => l.overlay (ofEnvironment (hoursOnly "8am" "6pm"))) =
        .ok (ofEnvironment (hoursOnly "8am" "6pm")) ∧
      ¬HeedsWindow (hoursOnly "8am" "6pm") (ofEnvironment (hoursOnly "8am" "6pm")) := by
  have hplain : (ofEnvironment (hoursOnly "8am" "6pm")).policy = .ok .plain :=
    Policy.ofHours_eq_plain_iff.mpr (by decide +kernel)
  refine ⟨⟨"8am", rfl, '8', by decide, rfl⟩, ⟨"6pm", rfl, '6', by decide, rfl⟩,
    overlay_ofArguments_nil _, ?_⟩
  rintro (⟨w, hpolicy, -, -⟩ | ⟨e, hpolicy⟩)
  · rw [hplain] at hpolicy
    cases hpolicy
  · rw [hplain] at hpolicy
    cases hpolicy

end Config

end ReleaseBuilds
