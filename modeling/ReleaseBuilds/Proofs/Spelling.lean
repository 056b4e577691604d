import Mathlib.Data.List.Basic
import ReleaseBuilds.Proofs.Digits
import ReleaseBuilds.Proofs.Failures
import ReleaseBuilds.Version.Reader

/-!
# How versions are spelled

A version is spelled with numbers, with a pre-release after a dash if there is one, and with build
metadata after a plus sign if there are any. Dots stand between the numbers and between the segments
of the other two parts. The strict reader accepts the spellings with three numbers and nothing else.
-/

namespace ReleaseBuilds.Version

open Text

/-- Decimal digits without a superfluous zero in front. -/
def IsNumeral (cs : List Char) : Prop :=
  cs ≠ [] ∧ (∀ c ∈ cs, c.isDigit = true) ∧ (cs.head? = some '0' → cs = ['0'])

/-- A segment of the given part. In a pre-release, digits alone are a numeral. -/
def IsSegment (part : Part) (cs : List Char) : Prop :=
  cs ≠ [] ∧ (∀ c ∈ cs, isSegmentChar c = true) ∧
    (part = .preRelease → (∀ c ∈ cs, c.isDigit = true) → IsNumeral cs)

/-- Segments with dots between them. -/
def dotted (segments : List (List Char)) : List Char := ['.'].intercalate segments

/-- Segments after a mark; without segments there is no mark. -/
def marked (mark : Char) : List (List Char) → List Char
  | [] => []
  | segments => mark :: dotted segments

/-- The parts of a version as they are written. -/
structure Spelling where
  numerals : List (List Char)
  pre : List (List Char) := []
  build : List (List Char) := []

namespace Spelling

/-- The number in the given place; one that is left out counts as zero. -/
def number (s : Spelling) (i : Nat) : Nat := ((s.numerals[i]?).map digitsValue).getD 0

/-- What is spelled. -/
def version (s : Spelling) : Version :=
  { major := s.number 0, minor := s.number 1, patch := s.number 2
    pre := s.pre.map .ofChars, build := s.build.map String.ofList }

/-- What follows the numbers. -/
def suffix (s : Spelling) : List Char := marked '-' s.pre ++ marked '+' s.build

def text (s : Spelling) : List Char := dotted s.numerals ++ s.suffix

/-- One to three numbers below 2^64 and segments of their parts. -/
structure WellFormed (s : Spelling) : Prop where
  atLeast : 1 ≤ s.numerals.length
  atMost : s.numerals.length ≤ 3
  numerals : ∀ numeral ∈ s.numerals, IsNumeral numeral ∧ digitsValue numeral < UInt64.size
  pre : ∀ segment ∈ s.pre, IsSegment .preRelease segment
  build : ∀ segment ∈ s.build, IsSegment .build segment

end Spelling

variable {part : Part} {cs rest : List Char} {n : Nat} {segments done : List (List Char)}

/-! ## Numbers -/

theorem isNumeral_of_no_leading_zero (hne : cs ≠ []) (hdigits : ∀ c ∈ cs, c.isDigit = true)
    (hleading : ∀ d digits, cs ≠ '0' :: d :: digits) : IsNumeral cs := by
  refine ⟨hne, hdigits, fun hzero => ?_⟩
  cases cs with
  | nil => cases hzero
  | cons c digits =>
    cases hzero
    cases digits with
    | nil => rfl
    | cons d digits => exact absurd rfl (hleading d digits)

theorem readNumber_append (hnumeral : IsNumeral cs) (hsize : digitsValue cs < UInt64.size)
    (hrest : Stops Char.isDigit rest) :
    readNumber part (cs ++ rest) = .ok (digitsValue cs, rest) := by
  obtain ⟨hne, hdigits, hzero⟩ := hnumeral
  unfold readNumber
  rw [takeWhile_append_of_stops hdigits hrest]
  split
  · exact absurd rfl hne
  · cases hzero rfl
  · rw [if_pos hsize, List.drop_left]

theorem numeral_of_readNumber (h : readNumber part cs = .ok (n, rest)) :
    ∃ numeral, cs = numeral ++ rest ∧ IsNumeral numeral ∧ digitsValue numeral < UInt64.size ∧
      digitsValue numeral = n := by
  have hdigits := forall_mem_takeWhile Char.isDigit cs
  obtain ⟨numeral, after, hnumeral, rfl⟩ :
      ∃ numeral after, cs.takeWhile Char.isDigit = numeral ∧ cs = numeral ++ after :=
    ⟨_, _, rfl, List.takeWhile_append_dropWhile.symm⟩
  rw [hnumeral] at hdigits
  unfold readNumber at h
  rw [hnumeral] at h
  split at h
  · split at h <;> cases h
  · cases h
  · next hne hleading =>
    split at h
    · next hsize =>
      rw [List.drop_left] at h
      cases h
      exact ⟨numeral, rfl, isNumeral_of_no_leading_zero hne hdigits hleading, hsize, rfl⟩
    · cases h

/-! ## Segments -/

theorem hasLeadingZero_eq_false_iff (hne : cs ≠ []) :
    hasLeadingZero cs = false ↔ ((∀ c ∈ cs, c.isDigit = true) → IsNumeral cs) := by
  unfold hasLeadingZero
  split
  · next c digits => simp [IsNumeral]
  · next hleading =>
    exact ⟨fun _ hdigits => isNumeral_of_no_leading_zero hne hdigits hleading, fun _ => rfl⟩

/-- The two checks at the end of a segment. -/
theorem isSegment_iff (hchars : ∀ c ∈ cs, isSegmentChar c = true) :
    IsSegment part cs ↔
      cs.isEmpty = false ∧ (part == .preRelease && hasLeadingZero cs) = false := by
  rw [IsSegment, List.isEmpty_eq_false_iff]
  refine and_congr_right fun hne => (and_iff_right hchars).trans ?_
  rw [← hasLeadingZero_eq_false_iff hne]
  cases part <;> simp

theorem dotted_cons_cons (first second : List Char) (others : List (List Char)) :
    dotted (first :: second :: others) = first ++ '.' :: dotted (second :: others) := by
  simp [dotted]

/-- The last segment ends before these. -/
abbrev Closes (rest : List Char) : Prop := Stops (fun c => isSegmentChar c || c == '.') rest

theorem readSegments_segment {current : List Char} (hchars : ∀ c ∈ cs, isSegmentChar c = true) :
    readSegments part done current (cs ++ rest) =
      readSegments part done (cs.reverse ++ current) rest := by
  induction cs generalizing current with
  | nil => rfl
  | cons c cs ih =>
    obtain ⟨hc, hcs⟩ := List.forall_mem_cons.mp hchars
    rw [List.cons_append, readSegments, if_pos hc, ih hcs]
    simp

theorem readSegments_of_closes {current : List Char} (hcurrent : IsSegment part current.reverse)
    (hrest : Closes rest) :
    readSegments part done current rest = .ok (done.reverse ++ [current.reverse], rest) := by
  obtain ⟨hempty, hzero⟩ := (isSegment_iff hcurrent.2.1).mp hcurrent
  rw [List.isEmpty_reverse] at hempty
  have hfinish (rest : List Char) : readSegments.finish part done current rest =
      .ok (done.reverse ++ [current.reverse], rest) := by
    simp [readSegments.finish, hempty, hzero]
  cases rest with
  | nil => exact hfinish []
  | cons c rest =>
    obtain ⟨hsegment, hdot⟩ := Bool.or_eq_false_iff.mp (stops_cons.mp hrest)
    rw [readSegments, hsegment, hdot]
    exact hfinish (c :: rest)

theorem readSegments_dot {current : List Char} (hcurrent : IsSegment part current.reverse) :
    readSegments part done current ('.' :: rest) =
      readSegments part (current.reverse :: done) [] rest := by
  obtain ⟨hempty, hzero⟩ := (isSegment_iff hcurrent.2.1).mp hcurrent
  rw [List.isEmpty_reverse] at hempty
  have hdot : isSegmentChar '.' = false := by decide
  rw [readSegments, hdot]
  simp [hempty, hzero]

/-- Segments are read to their end, after those that are already done. -/
theorem readSegments_append {first : List Char} {others : List (List Char)}
    (hsegments : ∀ s ∈ first :: others, IsSegment part s) (hrest : Closes rest) :
    readSegments part done [] (dotted (first :: others) ++ rest) =
      .ok (done.reverse ++ first :: others, rest) := by
  obtain ⟨hfirst, hothers⟩ := List.forall_mem_cons.mp hsegments
  have hcurrent : IsSegment part (first.reverse ++ []).reverse := by simpa using hfirst
  induction others generalizing first done with
  | nil =>
    rw [dotted, List.intercalate_singleton, readSegments_segment hfirst.2.1,
      readSegments_of_closes hcurrent hrest]
    simp
  | cons second others ih =>
    obtain ⟨hsecond, hrest_others⟩ := List.forall_mem_cons.mp hothers
    rw [dotted_cons_cons, List.append_assoc, readSegments_segment hfirst.2.1, List.cons_append,
      readSegments_dot hcurrent, ih hothers hsecond hrest_others (by simpa using hsecond)]
    simp

theorem segment_of_finish {current ends : List Char}
    (hcurrent : ∀ c ∈ current, isSegmentChar c = true)
    (h : readSegments.finish part done current ends = .ok (segments, rest)) :
    IsSegment part current.reverse ∧ ends = rest ∧
      segments = done.reverse ++ [current.reverse] := by
  rw [isSegment_iff (by simpa using hcurrent), List.isEmpty_reverse]
  rw [readSegments.finish] at h
  split at h
  · cases h
  · next hempty =>
    split at h
    · cases h
    · next hzero =>
      cases h
      exact ⟨⟨by simpa using hempty, by simpa using hzero⟩, rfl, by simp⟩

/-- What is read are segments: the rest of the current one and, after dots, others. -/
theorem segments_of_readSegments {current : List Char}
    (hcurrent : ∀ c ∈ current, isSegmentChar c = true)
    (h : readSegments part done current cs = .ok (segments, rest)) :
    ∃ first others, cs = dotted (first :: others) ++ rest ∧
      segments = done.reverse ++ (current.reverse ++ first) :: others ∧
      IsSegment part (current.reverse ++ first) ∧ ∀ s ∈ others, IsSegment part s := by
  induction cs generalizing current done with
  | nil =>
    obtain ⟨hsegment, rfl, rfl⟩ := segment_of_finish hcurrent h
    exact ⟨[], [], rfl, by simp, by simpa using hsegment, by simp⟩
  | cons c cs ih =>
    rw [readSegments] at h
    split at h
    · next hc =>
      obtain ⟨first, others, rfl, rfl, hsegment, hothers⟩ :=
        ih (List.forall_mem_cons.mpr ⟨hc, hcurrent⟩) h
      refine ⟨c :: first, others, ?_, by simp, by simpa using hsegment, hothers⟩
      cases others <;> simp [dotted]
    · split at h
      · next hdot =>
        obtain rfl : c = '.' := by simpa using hdot
        split at h
        · cases h
        · next hempty =>
          split at h
          · cases h
          · next hzero =>
            obtain ⟨first, others, rfl, rfl, hsegment, hothers⟩ := ih (by simp) h
            refine ⟨[], first :: others, by simp [dotted_cons_cons], by simp, ?_, ?_⟩
            · rw [List.append_nil, isSegment_iff (by simpa using hcurrent), List.isEmpty_reverse]
              exact ⟨by simpa using hempty, by simpa using hzero⟩
            · exact List.forall_mem_cons.mpr ⟨hsegment, hothers⟩
      · obtain ⟨hsegment, rfl, rfl⟩ := segment_of_finish hcurrent h
        exact ⟨[], [], rfl, by simp, by simpa using hsegment, by simp⟩

/-! ## Pre-releases and build metadata -/

/-- Segments after a mark, each read on its own; none if the mark does not follow. -/
def readMarked {α : Type} (mark : Char) (part : Part) (read : List Char → α) :
    List Char → Except ReadError (Option (List α) × List Char)
  | [] => .ok (none, [])
  | c :: cs =>
    if c = mark then do
      let (segments, rest) ← readSegments part [] [] cs
      return (some (segments.map read), rest)
    else .ok (none, c :: cs)

theorem readPreRelease_eq (cs : List Char) :
    readPreRelease cs = readMarked '-' .preRelease Segment.ofChars cs := by
  unfold readPreRelease
  split
  · simp [readMarked]
  · next hdash =>
    cases cs with
    | nil => rfl
    | cons c cs =>
      rw [readMarked, if_neg]
      rintro rfl
      exact hdash cs rfl

theorem readBuild_eq (cs : List Char) :
    readBuild cs = readMarked '+' .build String.ofList cs := by
  unfold readBuild
  split
  · simp [readMarked]
  · next hplus =>
    cases cs with
    | nil => rfl
    | cons c cs =>
      rw [readMarked, if_neg]
      rintro rfl
      exact hplus cs rfl

section Marked

variable {α : Type} {mark : Char} {read : List Char → α}

theorem segments_of_readMarked {found : Option (List α)}
    (h : readMarked mark part read cs = .ok (found, rest)) :
    ∃ segments, cs = marked mark segments ++ rest ∧ (∀ s ∈ segments, IsSegment part s) ∧
      found.getD [] = segments.map read := by
  have hnone : ∃ segments, rest = marked mark segments ++ rest ∧
      (∀ s ∈ segments, IsSegment part s) ∧ ([] : List α) = segments.map read :=
    ⟨[], rfl, by simp, rfl⟩
  unfold readMarked at h
  split at h
  · cases h
    exact hnone
  · split at h
    · next hmark =>
      obtain ⟨⟨segments, after⟩, hread, heq⟩ := bind_eq_ok_iff.mp h
      cases heq
      obtain ⟨first, others, rfl, rfl, hfirst, hothers⟩ := segments_of_readSegments (by simp) hread
      exact ⟨first :: others, by rw [hmark]; rfl, List.forall_mem_cons.mpr ⟨hfirst, hothers⟩, rfl⟩
    · cases h
      exact hnone

theorem readMarked_append (mark : Char) (read : List Char → α)
    (hsegments : ∀ s ∈ segments, IsSegment part s) (hrest : Closes rest)
    (hmark : Stops (· == mark) rest) :
    ∃ found, readMarked mark part read (marked mark segments ++ rest) = .ok (found, rest) ∧
      found.getD [] = segments.map read := by
  cases segments with
  | nil =>
    refine ⟨none, ?_, rfl⟩
    cases rest with
    | nil => rfl
    | cons c rest =>
      have hne : c ≠ mark := by simpa using hmark
      simp [marked, readMarked, hne]
  | cons first others =>
    refine ⟨some ((first :: others).map read), ?_, rfl⟩
    rw [marked, List.cons_append, readMarked, if_pos rfl, readSegments_append hsegments hrest]
    · rfl
    · simp

theorem stops_marked {p : Char → Bool} (mark : Char) (hmark : p mark = false)
    (hrest : Stops p rest) : Stops p (marked mark segments ++ rest) := by
  unfold marked
  split
  · exact hrest
  · exact stops_cons.mpr hmark

end Marked

/-! ## Whole versions -/

theorem readDot_eq_ok_iff : readDot part cs = .ok rest ↔ cs = '.' :: rest := by
  cases cs with
  | nil => simp [readDot]
  | cons c cs => by_cases hdot : c = '.' <;> simp [readDot, hdot]

theorem exists_spelling_of_ofChars {v : Version} (h : ofChars cs = .ok v) :
    ∃ s : Spelling, s.WellFormed ∧ s.numerals.length = 3 ∧ s.text = cs ∧ s.version = v := by
  rw [ofChars] at h
  split at h
  · cases h
  · simp only [bind_eq_ok_iff, Prod.exists, readDot_eq_ok_iff] at h
    obtain ⟨major, _, hmajor, _, rfl, minor, _, hminor, _, rfl, patch, _, hpatch, pre, _, hpre,
      build, _, hbuild, hend⟩ := h
    obtain ⟨first, rfl, hfirst, hfirst_size, rfl⟩ := numeral_of_readNumber hmajor
    obtain ⟨second, rfl, hsecond, hsecond_size, rfl⟩ := numeral_of_readNumber hminor
    obtain ⟨third, rfl, hthird, hthird_size, rfl⟩ := numeral_of_readNumber hpatch
    rw [readPreRelease_eq] at hpre
    rw [readBuild_eq] at hbuild
    obtain ⟨preSegments, rfl, hpreSegments, hpreFound⟩ := segments_of_readMarked hpre
    obtain ⟨buildSegments, rfl, hbuildSegments, hbuildFound⟩ := segments_of_readMarked hbuild
    split at hend
    · cases hend
      refine ⟨⟨[first, second, third], preSegments, buildSegments⟩,
        ⟨by simp, by simp, ?_, hpreSegments, hbuildSegments⟩, rfl, ?_, ?_⟩
      · simp [hfirst, hsecond, hthird, hfirst_size, hsecond_size, hthird_size]
      · simp [Spelling.text, Spelling.suffix, dotted]
      · rw [Spelling.version, hpreFound, hbuildFound]
        rfl
    · cases hend

theorem Spelling.WellFormed.ofChars_text {s : Spelling} (hs : s.WellFormed)
    (hnumerals : s.numerals.length = 3) : ofChars s.text = .ok s.version := by
  obtain ⟨numerals, pre, build⟩ := s
  obtain ⟨first, second, third, rfl⟩ := List.length_eq_three.mp hnumerals
  obtain ⟨⟨hfirst, hfirst_size⟩, ⟨hsecond, hsecond_size⟩, hthird, hthird_size⟩ :
      (IsNumeral first ∧ _) ∧ (IsNumeral second ∧ _) ∧ (IsNumeral third ∧ _) := by
    simpa using hs.numerals
  have htext : text ⟨[first, second, third], pre, build⟩ = first ++ '.' :: (second ++
      '.' :: (third ++ (marked '-' pre ++ (marked '+' build ++ [])))) := by
    simp [text, suffix, dotted]
  have hsuffix : Stops Char.isDigit (marked '-' pre ++ (marked '+' build ++ [])) :=
    stops_marked '-' (by decide) (stops_marked '+' (by decide) stops_nil)
  obtain ⟨preFound, hpre, hpreFound⟩ := readMarked_append '-' Segment.ofChars hs.pre
    (stops_marked '+' (by decide) stops_nil) (stops_marked '+' (by decide) stops_nil)
  obtain ⟨buildFound, hbuild, hbuildFound⟩ := readMarked_append '+' String.ofList hs.build
    stops_nil stops_nil
  rw [← readPreRelease_eq] at hpre
  rw [← readBuild_eq] at hbuild
  rw [htext, ofChars, if_neg (by simp)]
  simp only [bind_eq_ok_iff, Prod.exists, readDot_eq_ok_iff]
  refine ⟨_, _, readNumber_append hfirst hfirst_size (by simp), _, rfl,
    _, _, readNumber_append hsecond hsecond_size (by simp), _, rfl,
    _, _, readNumber_append hthird hthird_size hsuffix, _, _, hpre, _, _, hbuild, ?_⟩
  rw [version, hpreFound, hbuildFound]
  rfl

/-- The strict reader accepts exactly the spellings with three numbers. -/
theorem ofChars_eq_ok_iff {v : Version} :
    ofChars cs = .ok v ↔
      ∃ s : Spelling, s.WellFormed ∧ s.numerals.length = 3 ∧ s.text = cs ∧ s.version = v := by
  constructor
  · exact exists_spelling_of_ofChars
  · rintro ⟨s, hs, hnumerals, rfl, rfl⟩
    exact hs.ofChars_text hnumerals

end ReleaseBuilds.Version
