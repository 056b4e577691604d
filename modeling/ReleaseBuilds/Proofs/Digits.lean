import ReleaseBuilds.Decimal.Reader
import ReleaseBuilds.Time.Rfc3339

/-!
# Runs of characters

Where a run of characters of one class ends, and two kinds of such runs: blanks at the ends of a
text, and decimal digits. Digits may be padded with zeros in front; their number stays the same.
-/

namespace ReleaseBuilds.Text

variable {p : Char → Bool} {cs rest : List Char}

/-- A run of characters of a class ends before these. -/
def Stops (p : Char → Bool) (rest : List Char) : Prop := ∀ c ∈ rest.head?, p c = false

@[simp] theorem stops_nil : Stops p [] := by simp [Stops]

@[simp] theorem stops_cons {c : Char} : Stops p (c :: rest) ↔ p c = false := by simp [Stops]

theorem Stops.takeWhile_eq_nil (h : Stops p rest) : rest.takeWhile p = [] := by
  cases rest with
  | nil => rfl
  | cons c rest => simp [stops_cons.mp h]

theorem Stops.dropWhile_eq (h : Stops p rest) : rest.dropWhile p = rest := by
  cases rest with
  | nil => rfl
  | cons c rest => simp [stops_cons.mp h]

theorem takeWhile_append_of_stops (hrun : ∀ c ∈ cs, p c = true) (hrest : Stops p rest) :
    (cs ++ rest).takeWhile p = cs := by
  rw [List.takeWhile_append_of_pos hrun, hrest.takeWhile_eq_nil, List.append_nil]

theorem dropWhile_append_of_stops (hrun : ∀ c ∈ cs, p c = true) (hrest : Stops p rest) :
    (cs ++ rest).dropWhile p = rest := by
  rw [List.dropWhile_append_of_pos hrun, hrest.dropWhile_eq]

theorem stops_dropWhile (p : Char → Bool) (cs : List Char) : Stops p (cs.dropWhile p) := by
  intro c hc
  rw [Option.mem_def] at hc
  simpa [hc] using List.head?_dropWhile_not p cs

theorem forall_mem_takeWhile (p : Char → Bool) (cs : List Char) :
    ∀ c ∈ cs.takeWhile p, p c = true :=
  List.all_eq_true.mp List.all_takeWhile

theorem skipBlanks_of_stops (h : Stops isBlank rest) : skipBlanks rest = rest := h.dropWhile_eq

theorem isBlank_of_isDigit {c : Char} (h : c.isDigit = true) : isBlank c = false := by
  have hlow : 48 ≤ c.toNat ∧ c.toNat ≤ 57 := by
    simpa [Char.isDigit, UInt32.le_iff_toNat_le] using h
  simp [isBlank]
  omega

/-- Nothing but blanks at both ends is removed. -/
theorem exists_trimChars (cs : List Char) :
    ∃ before after, cs = before ++ (trimChars cs ++ after) ∧
      ∀ c ∈ before ++ after, isBlank c = true := by
  refine ⟨cs.takeWhile isBlank, ((skipBlanks cs).reverse.takeWhile isBlank).reverse, ?_, ?_⟩
  · rw [trimChars, ← List.reverse_append, skipBlanks, skipBlanks, List.takeWhile_append_dropWhile,
      List.reverse_reverse, List.takeWhile_append_dropWhile]
  · intro c hc
    rw [List.mem_append, List.mem_reverse] at hc
    exact hc.elim (forall_mem_takeWhile _ _ c) (forall_mem_takeWhile _ _ c)

/-- All blanks at both ends are removed. -/
theorem trimChars_append {before mid after : List Char}
    (hblank : ∀ c ∈ before ++ after, isBlank c = true) (hfirst : Stops isBlank mid)
    (hlast : Stops isBlank mid.reverse) : trimChars (before ++ (mid ++ after)) = mid := by
  obtain ⟨hbefore, hafter⟩ := List.forall_mem_append.mp hblank
  have hreversed : ∀ c ∈ after.reverse, isBlank c = true := fun c hc =>
    hafter c (List.mem_reverse.mp hc)
  cases mid with
  | nil =>
    -- nothing stops the first run, so it takes the blanks of both ends
    have hskipped : skipBlanks (before ++ after) = [] := by
      rw [← List.append_nil (before ++ after)]
      exact dropWhile_append_of_stops hblank stops_nil
    rw [List.nil_append, trimChars, hskipped]
    rfl
  | cons c mid =>
    have hstops : Stops isBlank (c :: mid ++ after) := hfirst
    rw [trimChars, skipBlanks, skipBlanks, dropWhile_append_of_stops hbefore hstops,
      List.reverse_append, dropWhile_append_of_stops hreversed hlast, List.reverse_reverse]

/-- A text without blanks is left as it is. -/
theorem trim_eq_self {s : String} (h : ∀ c ∈ s.toList, isBlank c = false) : trim s = s := by
  have htrim : trimChars ([] ++ (s.toList ++ [])) = s.toList := by
    apply trimChars_append
    · simp
    · exact fun c hc => h c (List.mem_of_mem_head? hc)
    · intro c hc
      exact h c (List.mem_reverse.mp (List.mem_of_mem_head? hc))
  rw [List.nil_append, List.append_nil] at htrim
  rw [trim, htrim, String.ofList_toList]

end ReleaseBuilds.Text

namespace ReleaseBuilds.Decimal

variable {cs : List Char} {n : Nat}

/-- Nothing but digits is read as a number, and as the number that they write. -/
theorem digits?_eq_some_iff : digits? cs = some n ↔
    cs ≠ [] ∧ (∀ c ∈ cs, c.isDigit = true) ∧ Nat.ofDigitChars 10 cs 0 = n := by
  constructor
  · intro h
    unfold digits? at h
    split at h
    · cases h
    · next hread =>
      have hdigits : cs ≠ [] ∧ ∀ c ∈ cs, c.isDigit = true := by simpa using hread
      exact ⟨hdigits.1, hdigits.2, Option.some.inj h⟩
  · rintro ⟨hne, hdigits, rfl⟩
    rw [digits?, if_neg]
    · rfl
    · simpa [hne] using hdigits

theorem digits?_eq_none {c : Char} (hc : c.isDigit = false) : digits? (c :: cs) = none := by
  rw [Option.eq_none_iff_forall_ne_some]
  intro n h
  have hdigit := (digits?_eq_some_iff.mp h).2.1 c List.mem_cons_self
  rw [hc] at hdigit
  cases hdigit

end ReleaseBuilds.Decimal

namespace ReleaseBuilds.Time

open Text

variable {width n : Nat} {rest : List Char}

theorem toList_padded (width n : Nat) :
    (padded width n).toList =
      List.replicate (width - (Nat.toDigits 10 n).length) '0' ++ Nat.toDigits 10 n := by
  simp [padded]

theorem isDigit_of_mem_padded {c : Char} (h : c ∈ (padded width n).toList) : c.isDigit = true := by
  rw [toList_padded, List.mem_append] at h
  rcases h with hzero | hdigit
  · rw [List.eq_of_mem_replicate hzero]
    rfl
  · exact Nat.isDigit_of_mem_toDigits (by decide) (by decide) hdigit

theorem padded_ne_nil (width n : Nat) : (padded width n).toList ≠ [] := by
  simp [toList_padded, Nat.toDigits_ne_nil]

theorem ofDigitChars_padded (width n : Nat) :
    Nat.ofDigitChars 10 (padded width n).toList 0 = n := by
  have hzeros : ∀ k, Nat.ofDigitChars 10 (List.replicate k '0') 0 = 0 := by
    intro k
    induction k with
    | zero => rfl
    | succ k ih => rw [List.replicate_succ, Nat.ofDigitChars_cons]; exact ih
  rw [toList_padded, Nat.ofDigitChars_append, hzeros,
    Nat.ofDigitChars_toDigits (by decide) (by decide)]

theorem length_padded (hwidth : 0 < width) (hn : n < Nat.pow 10 width) :
    (padded width n).toList.length = width := by
  have hlength := (Nat.length_toDigits_le_iff (by decide : 1 < 10) hwidth).mpr hn
  rw [toList_padded, List.length_append, List.length_replicate]
  omega

theorem stops_padded {p : Char → Bool} (hp : ∀ c, c.isDigit = true → p c = false) :
    Stops p ((padded width n).toList ++ rest) := by
  cases hpadded : (padded width n).toList with
  | nil => exact absurd hpadded (padded_ne_nil width n)
  | cons c cs =>
    have hmem : c ∈ (padded width n).toList := by simp [hpadded]
    exact stops_cons.mpr (hp c (isDigit_of_mem_padded hmem))

end ReleaseBuilds.Time
