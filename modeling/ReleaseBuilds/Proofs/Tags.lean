import ReleaseBuilds.Proofs.Spelling

/-!
# Release tags as versions

A tag is a version between blanks, with at most one `v` or `V` in front of it and with up to two of
its numbers left out. Reading a tag adds the missing numbers as text, before anything has been
checked. This cannot turn a malformed tag into a version: dots delimit the numbers on both sides of
the padding, so whatever is read with it is well formed without it.
-/

namespace ReleaseBuilds.Version

open Text

variable {segments : List (List Char)} {s : Spelling}

/-! ## Padding -/

theorem length_splitOn (cs : List Char) : (cs.splitOn '.').length = cs.count '.' + 1 := by
  induction cs with
  | nil => simp
  | cons c cs ih =>
    rw [List.splitOn_cons_eq_if_modifyHead, List.count_cons]
    split
    next => simp [ih]
    next => simp [ih]

/-- The numbers that padding adds are zeros. -/
theorem splitOn_append_padding (core : List Char) :
    (core ++ padding core).splitOn '.' =
      core.splitOn '.' ++ List.replicate (2 - core.count '.') ['0'] := by
  unfold padding
  split
  next hcount =>
    change (core ++ '.' :: ['0', '.', '0']).splitOn '.' = _
    rw [List.splitOn_append_cons_self, hcount]
    rfl
  next hcount =>
    change (core ++ '.' :: ['0']).splitOn '.' = _
    rw [List.splitOn_append_cons_self, hcount]
    rfl
  next hnone hone =>
    change core.count '.' ≠ 0 at hnone
    change core.count '.' ≠ 1 at hone
    have hcount : 2 - core.count '.' = 0 := by omega
    rw [List.append_nil, hcount, List.replicate_zero, List.append_nil]

theorem forall_mem_dotted {p : Char → Prop} (hdot : p '.')
    (hsegments : ∀ s ∈ segments, ∀ c ∈ s, p c) : ∀ c ∈ dotted segments, p c := by
  induction segments with
  | nil => simp [dotted]
  | cons first others ih =>
    obtain ⟨hfirst, hothers⟩ := List.forall_mem_cons.mp hsegments
    cases others with
    | nil => simpa [dotted] using hfirst
    | cons second others =>
      rw [dotted_cons_cons, List.forall_mem_append, List.forall_mem_cons]
      exact ⟨hfirst, hdot, ih hothers⟩

theorem forall_mem_marked {p : Char → Prop} {mark : Char} (hmark : p mark) (hdot : p '.')
    (hsegments : ∀ s ∈ segments, ∀ c ∈ s, p c) : ∀ c ∈ marked mark segments, p c := by
  unfold marked
  split
  · simp
  · exact List.forall_mem_cons.mpr ⟨hmark, forall_mem_dotted hdot hsegments⟩

/-- The characters before a suffix. -/
def inCore (c : Char) : Bool := !(c == '-' || c == '+')

theorem inCore_of_isDigit {c : Char} (hc : c.isDigit = true) : inCore c = true := by
  simp only [inCore, Bool.not_eq_true', Bool.or_eq_false_iff, beq_eq_false_iff_ne]
  constructor <;> rintro rfl <;> cases hc

theorem inCore_of_mem_padding {core : List Char} : ∀ c ∈ padding core, inCore c = true := by
  unfold padding
  split <;> simp [inCore]

namespace Spelling

theorem WellFormed.splitOn_dotted (hs : s.WellFormed) :
    (dotted s.numerals).splitOn '.' = s.numerals := by
  refine List.splitOn_intercalate '.' ?_ (List.ne_nil_of_length_pos hs.atLeast)
  intro numeral hnumeral hdot
  have hdigit := (hs.numerals numeral hnumeral).1.2.1 '.' hdot
  cases hdigit

theorem WellFormed.inCore_of_mem (hs : s.WellFormed) : ∀ c ∈ dotted s.numerals, inCore c = true := by
  refine forall_mem_dotted (by decide) fun numeral hnumeral c hc => ?_
  exact inCore_of_isDigit ((hs.numerals numeral hnumeral).1.2.1 c hc)

theorem stops_suffix (s : Spelling) : Stops inCore s.suffix := by
  rw [suffix, ← List.append_nil (marked '+' s.build)]
  exact stops_marked '-' (by decide) (stops_marked '+' (by decide) stops_nil)

theorem WellFormed.takeWhile_text (hs : s.WellFormed) :
    s.text.takeWhile inCore = dotted s.numerals :=
  takeWhile_append_of_stops hs.inCore_of_mem s.stops_suffix

theorem WellFormed.dropWhile_text (hs : s.WellFormed) : s.text.dropWhile inCore = s.suffix :=
  dropWhile_append_of_stops hs.inCore_of_mem s.stops_suffix

/-- The text tells the numbers. -/
theorem WellFormed.numerals_eq {t : Spelling} (hs : s.WellFormed) (ht : t.WellFormed)
    (htext : s.text = t.text) : s.numerals = t.numerals := by
  rw [← hs.splitOn_dotted, ← hs.takeWhile_text, htext, ht.takeWhile_text, ht.splitOn_dotted]

/-- Numbers that are written as zero count as much as numbers that are left out. -/
theorem number_append_zeros (numerals pre build : List (List Char)) (k i : Nat) :
    number ⟨numerals ++ List.replicate k ['0'], pre, build⟩ i =
      number ⟨numerals, pre, build⟩ i := by
  simp only [number, List.getElem?_append]
  split
  next hlength => rfl
  next hlength =>
    rw [List.getElem?_eq_none (Nat.not_lt.mp hlength), List.getElem?_replicate]
    split <;> rfl

/-- Whatever is read with padding is spelled without it. -/
theorem exists_of_padded {core suffix : List Char} {v : Version}
    (hcore : ∀ c ∈ core, inCore c = true) (hsuffix : Stops inCore suffix)
    (h : ofChars (core ++ padding core ++ suffix) = .ok v) :
    ∃ s : Spelling, s.WellFormed ∧ s.text = core ++ suffix ∧ s.version = v := by
  obtain ⟨s, hs, hnumerals, htext, rfl⟩ := exists_spelling_of_ofChars h
  have hpadded : ∀ c ∈ core ++ padding core, inCore c = true :=
    List.forall_mem_append.mpr ⟨hcore, inCore_of_mem_padding⟩
  have hcore_eq : dotted s.numerals = core ++ padding core := by
    rw [← hs.takeWhile_text, htext, takeWhile_append_of_stops hpadded hsuffix]
  have hsuffix_eq : s.suffix = suffix := by
    rw [← hs.dropWhile_text, htext, dropWhile_append_of_stops hpadded hsuffix]
  have hsplit : s.numerals = core.splitOn '.' ++ List.replicate (2 - core.count '.') ['0'] := by
    rw [← hs.splitOn_dotted, hcore_eq, splitOn_append_padding]
  obtain ⟨numerals, pre, build⟩ := s
  subst hsplit
  refine ⟨⟨core.splitOn '.', pre, build⟩, ⟨?_, ?_, ?_, hs.pre, hs.build⟩, ?_, ?_⟩
  · rw [length_splitOn]
    omega
  · have hlength := hs.atMost
    rw [List.length_append] at hlength
    exact Nat.le_trans (Nat.le_add_right _ _) hlength
  · intro numeral hnumeral
    exact hs.numerals numeral (List.mem_append_left _ hnumeral)
  · rw [text, dotted, List.intercalate_splitOn]
    exact congrArg (core ++ ·) hsuffix_eq
  · simp only [version, number_append_zeros]

/-- A spelling is read once zeros stand for the numbers that it leaves out. -/
theorem WellFormed.ofChars_padded (hs : s.WellFormed) :
    ofChars (dotted s.numerals ++ padding (dotted s.numerals) ++ s.suffix) = .ok s.version := by
  obtain ⟨numerals, pre, build⟩ := s
  have hsplit : (dotted numerals).splitOn '.' = numerals := hs.splitOn_dotted
  have hlength : numerals.length = (dotted numerals).count '.' + 1 := by
    rw [← length_splitOn, hsplit]
  have hcount : (numerals ++
      List.replicate (2 - (dotted numerals).count '.') ['0']).length = 3 := by
    have hatMost : numerals.length ≤ 3 := hs.atMost
    rw [List.length_append, List.length_replicate]
    omega
  have hcore : dotted (numerals ++ List.replicate (2 - (dotted numerals).count '.') ['0']) =
      dotted numerals ++ padding (dotted numerals) := by
    have hzeros := splitOn_append_padding (dotted numerals)
    rw [hsplit] at hzeros
    rw [← hzeros, dotted, List.intercalate_splitOn]
  have hzero : IsNumeral ['0'] ∧ digitsValue ['0'] < UInt64.size := by
    simp [IsNumeral, digitsValue, UInt64.size]
  have hpadded : WellFormed
      ⟨numerals ++ List.replicate (2 - (dotted numerals).count '.') ['0'], pre, build⟩ := by
    refine ⟨hcount.symm ▸ (by decide), Nat.le_of_eq hcount, ?_, hs.pre, hs.build⟩
    intro numeral hnumeral
    rcases List.mem_append.mp hnumeral with hgiven | hadded
    · exact hs.numerals numeral hgiven
    · rwa [List.eq_of_mem_replicate hadded]
  have hread := hpadded.ofChars_text hcount
  rw [text, hcore] at hread
  simpa only [version, number_append_zeros, suffix] using hread

end Spelling

/-! ## Bodies of tags -/

theorem not_isBlank_of_isSegmentChar {c : Char} (hc : isSegmentChar c = true) :
    isBlank c = false := by
  have hrange : 65 ≤ c.toNat ∧ c.toNat ≤ 90 ∨ 97 ≤ c.toNat ∧ c.toNat ≤ 122 ∨
      48 ≤ c.toNat ∧ c.toNat ≤ 57 ∨ c.toNat = 45 := by
    have halpha : c.isAlpha = (c.isUpper || c.isLower) := rfl
    have hupper : c.isUpper = decide (65 ≤ c.val ∧ c.val ≤ 90) := rfl
    have hlower : c.isLower = (decide (97 ≤ c.val) && decide (c.val ≤ 122)) := rfl
    simpa [isSegmentChar, Char.isAlphanum, halpha, hupper, hlower, Char.isDigit,
      UInt32.le_iff_toNat_le, or_assoc, Char.ext_iff, ← UInt32.toNat_inj] using hc
  simp [isBlank]
  omega

theorem Spelling.WellFormed.not_isBlank (hs : s.WellFormed) : ∀ c ∈ s.text, isBlank c = false := by
  have hsegment {part : Part} {segments : List (List Char)}
      (h : ∀ s ∈ segments, IsSegment part s) : ∀ s ∈ segments, ∀ c ∈ s, isBlank c = false :=
    fun s hmem c hc => not_isBlank_of_isSegmentChar ((h s hmem).2.1 c hc)
  rw [text, suffix, List.forall_mem_append, List.forall_mem_append]
  refine ⟨?_, ?_, ?_⟩
  · refine forall_mem_dotted (by decide) fun numeral hnumeral c hc => ?_
    exact isBlank_of_isDigit ((hs.numerals numeral hnumeral).1.2.1 c hc)
  · exact forall_mem_marked (by decide) (by decide) (hsegment hs.pre)
  · exact forall_mem_marked (by decide) (by decide) (hsegment hs.build)

/-- A spelling begins with a digit. -/
theorem Spelling.WellFormed.exists_digit (hs : s.WellFormed) :
    ∃ c rest, s.text = c :: rest ∧ c.isDigit = true := by
  obtain ⟨numerals, pre, build⟩ := s
  cases numerals with
  | nil => exact absurd hs.atLeast (Nat.not_succ_le_zero 0)
  | cons first others =>
    obtain ⟨hne, hdigits, -⟩ := (hs.numerals first List.mem_cons_self).1
    cases first with
    | nil => exact absurd rfl hne
    | cons c digits =>
      obtain ⟨rest, hrest⟩ : ∃ rest, dotted ((c :: digits) :: others) = c :: rest := by
        cases others <;> simp [dotted]
      exact ⟨c, _, by rw [text, hrest, List.cons_append], hdigits c List.mem_cons_self⟩

/-- A body between blanks, with at most one `v` or `V` in front of it. -/
def Encloses (tag body : List Char) : Prop :=
  ∃ before mark after, tag = before ++ (mark ++ body ++ after) ∧
    (∀ c ∈ before ++ after, isBlank c = true) ∧ (mark = [] ∨ mark = ['v'] ∨ mark = ['V'])

theorem encloses_tagBody (tag : String) : Encloses tag.toList (tagBody tag) := by
  obtain ⟨before, after, htag, hblank⟩ := exists_trimChars tag.toList
  have henclosed (mark : List Char) (hmark : mark = [] ∨ mark = ['v'] ∨ mark = ['V'])
      (htrim : trimChars tag.toList = mark ++ tagBody tag) : Encloses tag.toList (tagBody tag) :=
    ⟨before, mark, after, htrim ▸ htag, hblank, hmark⟩
  cases htrim : trimChars tag.toList with
  | nil => exact henclosed [] (.inl rfl) (by simp [tagBody, htrim])
  | cons c body =>
    by_cases hv : c = 'v'
    · exact henclosed ['v'] (.inr (.inl rfl)) (by simp [tagBody, htrim, hv])
    · by_cases hV : c = 'V'
      · exact henclosed ['V'] (.inr (.inr rfl)) (by simp [tagBody, htrim, hV])
      · exact henclosed [] (.inl rfl) (by simp [tagBody, htrim, hv, hV])

/-- No more is taken away than blanks and a `v`, since a spelling has no blanks and begins with a
digit. -/
theorem tagBody_of_encloses (hs : s.WellFormed) {tag : String} (h : Encloses tag.toList s.text) :
    tagBody tag = s.text := by
  obtain ⟨before, mark, after, htag, hblank, hmark⟩ := h
  obtain ⟨c, body, htext, hdigit⟩ := hs.exists_digit
  have hstops : ∀ c ∈ mark ++ s.text, isBlank c = false := by
    rw [List.forall_mem_append]
    refine ⟨?_, hs.not_isBlank⟩
    rcases hmark with rfl | rfl | rfl <;> simp [isBlank]
  have htrim : trimChars tag.toList = mark ++ s.text := by
    rw [htag]
    apply trimChars_append hblank
    · exact fun c hc => hstops c (List.mem_of_mem_head? hc)
    · exact fun c hc => hstops c (List.mem_reverse.mp (List.mem_of_mem_head? hc))
  rw [tagBody, htrim, htext]
  rcases hmark with rfl | rfl | rfl
  · rw [List.nil_append]
    split
    next hv =>
      cases hv
      cases hdigit
    next hV =>
      cases hV
      cases hdigit
    next => rfl
  · rfl
  · rfl

theorem tagBody_eq_text_iff (hs : s.WellFormed) (tag : String) :
    tagBody tag = s.text ↔ Encloses tag.toList s.text :=
  ⟨fun h => h ▸ encloses_tagBody tag, tagBody_of_encloses hs⟩

/-! ## Tags -/

theorem ofTag_eq (tag : String) :
    ofTag tag =
      match ofChars (tagBody tag) with
      | .ok version => .ok version
      | .error _ =>
        ofChars ((tagBody tag).takeWhile inCore ++ padding ((tagBody tag).takeWhile inCore) ++
          (tagBody tag).dropWhile inCore) := rfl

theorem ofTag_eq_ok_iff {tag : String} {version : Version} :
    ofTag tag = .ok version ↔
      ∃ s : Spelling, s.WellFormed ∧ tagBody tag = s.text ∧ s.version = version := by
  rw [ofTag_eq]
  constructor
  · intro h
    split at h
    next hstrict =>
      cases h
      obtain ⟨s, hs, -, htext, hversion⟩ := exists_spelling_of_ofChars hstrict
      exact ⟨s, hs, htext.symm, hversion⟩
    next =>
      obtain ⟨s, hs, htext, hversion⟩ :=
        Spelling.exists_of_padded (forall_mem_takeWhile _ _) (stops_dropWhile _ _) h
      rw [List.takeWhile_append_dropWhile] at htext
      exact ⟨s, hs, htext.symm, hversion⟩
  · rintro ⟨s, hs, htext, rfl⟩
    rw [htext]
    split
    next hstrict =>
      -- a text that is accepted at once has three numbers, so nothing was left out
      obtain ⟨t, ht, hnumerals, htext, -⟩ := exists_spelling_of_ofChars hstrict
      rw [ht.numerals_eq hs htext] at hnumerals
      rw [← hstrict, hs.ofChars_text hnumerals]
    next => rw [hs.takeWhile_text, hs.dropWhile_text, hs.ofChars_padded]

/-- A tag is read exactly if it encloses a spelling, and then as what is spelled. The strict reader
accepts its body exactly if no number is left out, and then with the same meaning. -/
theorem reads_exactly_spellings (tag : String) (version : Version) :
    (ofTag tag = .ok version ↔
        ∃ s : Spelling, s.WellFormed ∧ Encloses tag.toList s.text ∧ s.version = version) ∧
      (ofChars (tagBody tag) = .ok version ↔
        ∃ s : Spelling, s.WellFormed ∧ Encloses tag.toList s.text ∧ s.version = version ∧
          s.numerals.length = 3) := by
  constructor
  · rw [ofTag_eq_ok_iff]
    refine exists_congr fun s => and_congr_right fun hs => ?_
    rw [tagBody_eq_text_iff hs]
  · rw [ofChars_eq_ok_iff]
    refine exists_congr fun s => and_congr_right fun hs => ?_
    rw [← tagBody_eq_text_iff hs]
    constructor
    · rintro ⟨hnumerals, htext, hversion⟩
      exact ⟨htext.symm, hversion, hnumerals⟩
    · rintro ⟨htext, hversion, hnumerals⟩
      exact ⟨hnumerals, htext.symm, hversion⟩

/-- Dots, dashes and plus signs within a suffix do not count as those of the version. -/
example :
    ofTag " v1.2-rc.1-x+b.-.01\n" = .ok
      { major := 1, minor := 2, patch := 0, pre := [.word "rc", .word "1-x"]
        build := ["b", "-", "01"] } ∧
      ofTag "v1.-2" = .error (.unexpectedChar .minor '.') := by
  decide +kernel

end ReleaseBuilds.Version
