import ReleaseBuilds.Proofs.Calendar
import ReleaseBuilds.Proofs.Digits

/-!
# Reading timestamps back

Every reading of the clock is read back from its text: in years of more than four digits or before
year 0, with any nanoseconds and within a leap second.
-/

namespace ReleaseBuilds.Time

open Text

variable {width n : Nat} {rest : List Char}

/-! ## Numbers -/

/-- Digits are read up to the width, or to where something else follows. -/
theorem readDigits_append {cs : List Char} (hne : cs ≠ []) (hdigits : ∀ c ∈ cs, c.isDigit = true)
    (hrest : ∀ k, cs.length + k = width → Stops Char.isDigit (rest.take k))
    (hwidth : cs.length ≤ width) :
    readDigits width (cs ++ rest) = some (Nat.ofDigitChars 10 cs 0, rest) := by
  have htake : (cs ++ rest).take width = cs ++ rest.take (width - cs.length) := by
    rw [List.take_append, List.take_of_length_le hwidth]
  have hrun : ((cs ++ rest).take width).takeWhile Char.isDigit = cs := by
    rw [htake]
    exact takeWhile_append_of_stops hdigits (hrest _ (by omega))
  simp only [readDigits, hrun, List.isEmpty_eq_false_iff.mpr hne, Bool.false_eq_true, if_false,
    List.drop_left]
  rfl

/-- A number of the full width needs nothing to end it. -/
theorem readDigits_padded (hwidth : 0 < width) (hn : n < Nat.pow 10 width) (rest : List Char) :
    readDigits width ((padded width n).toList ++ rest) = some (n, rest) := by
  have hlength := length_padded hwidth hn
  rw [readDigits_append (padded_ne_nil _ _) (fun _ => isDigit_of_mem_padded) _ (by omega),
    ofDigitChars_padded]
  intro k hk
  obtain rfl : k = 0 := by omega
  simp

theorem readNumber_padded (hn : n < 100) (rest : List Char) :
    readNumber ((padded 2 n).toList ++ rest) = some (n, rest) := by
  rw [readNumber, skipBlanks_of_stops (stops_padded fun _ => isBlank_of_isDigit)]
  exact readDigits_padded (by decide) hn rest

/-- A number may have any width if something else follows it. -/
theorem readDigits_length_padded (width n : Nat) (hrest : Stops Char.isDigit rest) :
    readDigits ((padded width n).toList ++ rest).length ((padded width n).toList ++ rest) =
      some (n, rest) := by
  rw [readDigits_append (padded_ne_nil _ _) (fun _ => isDigit_of_mem_padded) _ (by simp),
    ofDigitChars_padded]
  intro k hk
  rw [List.length_append, Nat.add_left_cancel_iff] at hk
  rwa [hk, List.take_length]

/-! ## Parts of a date and of a time -/

theorem readYear_yearText (year : Int) (hrest : Stops Char.isDigit rest) :
    readYear ((yearText year).toList ++ rest) = some (year, rest) := by
  rw [yearText]
  split
  · next hplain =>
    have hyear : year.toNat < Nat.pow 10 4 := by
      change year.toNat < 10000
      omega
    have hread := readDigits_padded (by decide) hyear rest
    have hunsigned : Stops (fun c => c == '+' || c == '-') ((padded 4 year.toNat).toList ++ rest) :=
      stops_padded fun c hc => by
        simp only [Bool.or_eq_false_iff, beq_eq_false_iff_ne]
        constructor <;> rintro rfl <;> cases hc
    rw [readYear, skipBlanks_of_stops (stops_padded fun _ => isBlank_of_isDigit)]
    split
    · next heq => simp [heq] at hunsigned
    · next heq => simp [heq] at hunsigned
    · simp only [hread, Option.map_some, Int.toNat_of_nonneg hplain.1]
  · next hsigned =>
    have hread := readDigits_length_padded 4 year.natAbs hrest
    have hsign : ∀ sign cs, isBlank sign = false → skipBlanks (sign :: cs) = sign :: cs :=
      fun sign cs h => skipBlanks_of_stops (stops_cons.mpr h)
    rw [String.toList_append, List.append_assoc]
    split
    · next hnegative =>
      change readYear ('-' :: ((padded 4 year.natAbs).toList ++ rest)) = _
      simp only [readYear, hsign '-' _ (by decide), hread, Option.map_some]
      rw [Int.ofNat_natAbs_of_nonpos (by omega), Int.neg_neg]
    · next hpositive =>
      change readYear ('+' :: ((padded 4 year.natAbs).toList ++ rest)) = _
      simp only [readYear, hsign '+' _ (by decide), hread, Option.map_some]
      rw [Int.natAbs_of_nonneg (by omega)]

theorem readMark_cons {mark : Char} (h : isBlank mark = false) :
    readMark mark (mark :: rest) = some rest := by
  simp [readMark, skipBlanks_of_stops (stops_cons.mpr h)]

theorem bounds_of_valid {d : Date} (h : d.Valid) : d.month < 100 ∧ d.day < 100 := by
  obtain ⟨hfirst, hlast⟩ := h
  unfold Date.monthLength at hlast
  constructor
  · by_contra hmonth
    split at hlast <;> omega
  · split at hlast
    next =>
      split at hlast <;> omega
    all_goals omega

theorem readDate_dateText {d : Date} (h : d.Valid) :
    readDate ((dateText d).toList ++ rest) = some (d, rest) := by
  obtain ⟨hmonth, hday⟩ := bounds_of_valid h
  have htext : (dateText d).toList ++ rest = (yearText d.year).toList ++
      '-' :: ((padded 2 d.month).toList ++ '-' :: ((padded 2 d.day).toList ++ rest)) := by
    simp [dateText]
  have hdash : ∀ cs, readMark '-' ('-' :: cs) = some cs := fun cs => readMark_cons (by decide)
  rw [htext, readDate, readYear_yearText d.year (by simp)]
  simp [hdash, readNumber_padded hmonth, readNumber_padded hday]

theorem readFraction_padded (hwidth : 0 < width) (hnine : width ≤ 9) (hn : n < Nat.pow 10 width)
    (hrest : Stops Char.isDigit rest) :
    readFraction ('.' :: ((padded width n).toList ++ rest)) =
      some (n * Nat.pow 10 (9 - width), rest) := by
  have hlength := length_padded hwidth hn
  have hrun : ((padded width n).toList ++ rest).takeWhile Char.isDigit = (padded width n).toList :=
    takeWhile_append_of_stops (fun _ => isDigit_of_mem_padded) hrest
  have hkept : (padded width n).toList.take 9 = (padded width n).toList :=
    List.take_of_length_le (by omega)
  have hvalue : (padded width n).toList.foldl (fun n c => 10 * n + digitValue c) 0 = n :=
    ofDigitChars_padded width n
  simp only [readFraction, hrun, hkept, hvalue, hlength,
    List.isEmpty_eq_false_iff.mpr (padded_ne_nil width n), Bool.false_eq_true, if_false,
    List.drop_left' hlength]

theorem readFraction_fractionText (hn : n < nanosPerSecond) (hdigit : Stops Char.isDigit rest)
    (hpoint : Stops (· == '.') rest) :
    readFraction ((fractionText n).toList ++ rest) = some (n, rest) := by
  change n < 1000000000 at hn
  -- a fraction of some width stands for all nine digits
  have hpadded : ∀ {width m : Nat}, 0 < width → width ≤ 9 → m < Nat.pow 10 width →
      m * Nat.pow 10 (9 - width) = n →
      readFraction (("." ++ padded width m).toList ++ rest) = some (n, rest) := by
    intro width m hwidth hnine hm hvalue
    rw [← hvalue, ← readFraction_padded hwidth hnine hm hdigit]
    simp
  rw [fractionText]
  split
  · next hzero =>
    cases rest with
    | nil => simp_all [readFraction]
    | cons c rest =>
      rw [stops_cons, beq_eq_false_iff_ne] at hpoint
      simp_all [readFraction]
  · split
    · next hmilli =>
      exact hpadded (by decide) (by decide) (by change n / 1000000 < 1000; omega)
        (by change n / 1000000 * 1000000 = n; simp at hmilli; omega)
    · split
      · next hmicro =>
        exact hpadded (by decide) (by decide) (by change n / 1000 < 1000000; omega)
          (by change n / 1000 * 1000 = n; simp at hmicro; omega)
      · exact hpadded (by decide) (by decide) (by change n < 1000000000; omega)
          (by change n * 1 = n; omega)

theorem secondOfDay_bounds (t : Instant) : 0 ≤ t.secondOfDay ∧ t.secondOfDay < 86400 := by
  unfold Instant.secondOfDay
  omega

/-- A leap second is read as the fifty-ninth second with more than 10^9 nanoseconds. -/
theorem readClock_clockText (t : Instant) (hdigit : Stops Char.isDigit rest)
    (hpoint : Stops (· == '.') rest) :
    readClock ((clockText t).toList ++ ((fractionText (shownNano t)).toList ++ rest)) =
      some ((t.secondOfDay.toNat, t.nano), rest) := by
  have hbounds := secondOfDay_bounds t
  have hsecond : t.secondOfDay % 60 = t.second % 60 := by
    unfold Instant.secondOfDay
    omega
  have htext : (clockText t).toList ++ ((fractionText (shownNano t)).toList ++ rest) =
      (padded 2 (t.secondOfDay.toNat / 3600)).toList ++
        ':' :: ((padded 2 (t.secondOfDay.toNat / 60 % 60)).toList ++
          ':' :: ((padded 2 (t.secondOfDay.toNat % 60 + if t.inLeapSecond then 1 else 0)).toList ++
            ((fractionText (shownNano t)).toList ++ rest))) := by
    simp [clockText]
  have hcolon : ∀ cs, readMark ':' (':' :: cs) = some cs := fun cs => readMark_cons (by decide)
  have hhour := readNumber_padded (show t.secondOfDay.toNat / 3600 < 100 by omega)
  have hminute := readNumber_padded (show t.secondOfDay.toNat / 60 % 60 < 100 by omega)
  have hshown := readNumber_padded
    (show t.secondOfDay.toNat % 60 + (if t.inLeapSecond then 1 else 0) < 100 by split <;> omega)
  have hfraction := readFraction_fractionText (Nat.mod_lt t.nano (by decide)) hdigit hpoint
  rw [htext, readClock]
  simp only [hhour, hcolon, hminute, hshown, shownNano, hfraction, bind, Option.bind]
  have hnano := t.nano_lt
  by_cases hleap : nanosPerSecond ≤ t.nano
  · have hlast := t.leap hleap
    have hsixty : t.secondOfDay.toNat % 60 + 1 = 60 := by omega
    have hnanos : nanosPerSecond + t.nano % nanosPerSecond = t.nano := by
      rw [Nat.mod_eq_sub_mod hleap, Nat.mod_eq_of_lt (by omega)]
      omega
    have hshows : t.inLeapSecond = true := by simp [Instant.inLeapSecond, hleap]
    simp only [hshows, if_true, hsixty, hnanos]
    rw [if_neg (by simp; omega)]
    simp
    omega
  · have hnanos : t.nano % nanosPerSecond = t.nano := Nat.mod_eq_of_lt (by omega)
    have hshows : t.inLeapSecond = false := by simp [Instant.inLeapSecond, hleap]
    simp only [hshows, Bool.false_eq_true, if_false, Nat.add_zero, hnanos]
    rw [if_neg (by simp; omega), if_neg (by simp; omega)]
    simp
    omega

end ReleaseBuilds.Time

namespace ReleaseBuilds.Instant

open Time Text

theorem of?_self (t : Instant) : of? t.second t.nano = some t := by
  rw [of?, dif_pos ⟨t.inRange, t.nano_lt, t.leap⟩]

theorem ofText?_toText (t : Instant) : ofText? t.toText = some t := by
  have htext : t.toText.toList = (dateText t.date).toList ++
      'T' :: ((clockText t).toList ++ ((fractionText (shownNano t)).toList ++ ['Z'])) := by
    simp [toText, localText]
  have hvalid : t.date.Valid := Date.valid_ofDays t.dayNumber
  have hzone : Stops Char.isDigit ['Z'] ∧ Stops (· == '.') ['Z'] := by simp
  have hclock := readClock_clockText t hzone.1 hzone.2
  have hoffset : readOffset ['Z'] = some (0, []) := by decide
  have hbounds := secondOfDay_bounds t
  have hsecond : t.date.toDays * 86400 + t.secondOfDay.toNat = t.second := by
    rw [date, Date.toDays_ofDays, Int.toNat_of_nonneg hbounds.1]
    unfold dayNumber secondOfDay
    omega
  rw [ofText?, htext, readDate_dateText hvalid]
  simp only [bind, Option.bind, beq_self_eq_true, Bool.true_or, if_true, hclock, hoffset]
  rw [if_neg (by simp [skipBlanks, hvalid]), hsecond, of?_self]
  simp only [Int.sub_zero, of?_self]

end ReleaseBuilds.Instant
