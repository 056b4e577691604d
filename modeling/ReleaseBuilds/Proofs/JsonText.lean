import Mathlib.Tactic.IntervalCases
import Mathlib.Tactic.SplitIfs
import ReleaseBuilds.Json.Reader
import ReleaseBuilds.Json.Writer
import ReleaseBuilds.Proofs.Digits

/-!
# Reading JSON text back

A value whose numbers are integers and whose texts are well formed is read back from its text as it
was: every character of a text, members in their order and repeated names included.
-/

namespace ReleaseBuilds.Text

theorem not_surrogate (c : Char) :
    isHighSurrogate c.toNat = false ∧ isLowSurrogate c.toNat = false := by
  have hvalid := c.valid
  change c.toNat.isValidChar at hvalid
  simp only [Nat.isValidChar] at hvalid
  simp [isHighSurrogate, isLowSurrogate]
  omega

theorem ofUnits?_toNat (seen cs : List Char) :
    ofUnits? seen (cs.map Char.toNat) = some (String.ofList (seen.reverse ++ cs)) := by
  induction cs generalizing seen with
  | nil => simp [ofUnits?]
  | cons c cs ih =>
    obtain ⟨hhigh, hlow⟩ := not_surrogate c
    rw [List.map_cons, ofUnits?.eq_def]
    simp [hhigh, hlow, ih]

end ReleaseBuilds.Text

namespace ReleaseBuilds.Json

open Text

variable {rest : List Char}

/-! ## Texts -/

theorem readUnits_writeUnit {n : Nat} (hn : n < 0x20) (seen : List Nat) :
    readUnits seen ((writeUnit n).toList ++ rest) = readUnits (n :: seen) rest := by
  rw [writeUnit, String.toList_ofList]
  interval_cases n <;> rfl

theorem readUnits_writeChar (c : Char) (seen : List Nat) :
    readUnits seen ((writeChar c).toList ++ rest) = readUnits (c.toNat :: seen) rest := by
  unfold writeChar
  split_ifs with hquote hslash hback hfeed hline hreturn htab hcontrol
  case pos => rw [eq_of_beq hquote]; rfl
  case pos => rw [eq_of_beq hslash]; rfl
  case pos => rw [eq_of_beq hback]; rfl
  case pos => rw [eq_of_beq hfeed]; rfl
  case pos => rw [eq_of_beq hline]; rfl
  case pos => rw [eq_of_beq hreturn]; rfl
  case pos => rw [eq_of_beq htab]; rfl
  case pos => exact readUnits_writeUnit hcontrol seen
  case neg =>
    rw [beq_iff_eq] at hquote hslash
    simp [readUnits, hslash, hcontrol]

theorem readUnits_flatMap (cs : List Char) (seen : List Nat) :
    readUnits seen (cs.flatMap (fun c => (writeChar c).toList) ++ '"' :: rest) =
      some (seen.reverse ++ cs.map Char.toNat, rest) := by
  induction cs generalizing seen with
  | nil => simp [readUnits]
  | cons c cs ih =>
    rw [List.flatMap_cons, List.append_assoc, readUnits_writeChar, ih]
    simp

theorem toList_writeText (s : String) :
    (writeText s).toList = '"' :: s.toList.flatMap (fun c => (writeChar c).toList) ++ ['"'] := by
  have hfold : ∀ (cs : List Char) (out : String),
      (cs.foldl (fun out c => out ++ writeChar c) out).toList =
        out.toList ++ cs.flatMap fun c => (writeChar c).toList := by
    intro cs
    induction cs with
    | nil => simp
    | cons c cs ih => simp [ih]
  simp [writeText, hfold]

theorem readText_writeText (s : String) (rest : List Char) :
    readText (s.toList.flatMap (fun c => (writeChar c).toList) ++ '"' :: rest) =
      some (some s, rest) := by
  simp [readText, readUnits_flatMap, ofUnits?_toNat]

/-! ## Numbers -/

/-- A character that could go on a number. -/
def extendsNumber (c : Char) : Bool := c.isDigit || c == '.' || c == 'e' || c == 'E'

theorem digits?_toDigits (n : Nat) : Decimal.digits? (Nat.toDigits 10 n) = some n :=
  Decimal.digits?_eq_some_iff.mpr ⟨Nat.toDigits_ne_nil,
    fun _ hc => Nat.isDigit_of_mem_toDigits (by decide) (by decide) hc,
    Nat.ofDigitChars_toDigits (by decide) (by decide)⟩

theorem exists_toDigits_eq_cons (n : Nat) :
    ∃ d ds, Nat.toDigits 10 n = d :: ds ∧ d.isDigit = true := by
  cases hdigits : Nat.toDigits 10 n with
  | nil => exact absurd hdigits Nat.toDigits_ne_nil
  | cons d ds =>
    exact ⟨d, ds, rfl,
      Nat.isDigit_of_mem_toDigits (by decide) (by decide) (hdigits ▸ List.mem_cons_self)⟩

/-- Only the digits of zero begin with a zero. -/
theorem toDigits_ne_zero_cons {n : Nat} (hn : 0 < n) (cs : List Char) :
    Nat.toDigits 10 n ≠ '0' :: cs := by
  induction n using Nat.strongRecOn generalizing cs with
  | ind n ih =>
    rw [Nat.toDigits_eq_if (by decide)]
    split
    · next hsmall =>
      intro hdigits
      have hchar := congrArg Char.toNat (List.cons.inj hdigits).1
      rw [Nat.toNat_digitChar_of_lt_ten hsmall] at hchar
      change 48 + n = 48 at hchar
      omega
    · next hlarge =>
      intro hdigits
      obtain ⟨d, ds, hfront, -⟩ := exists_toDigits_eq_cons (n / 10)
      rw [hfront] at hdigits
      obtain rfl : d = '0' := (List.cons.inj hdigits).1
      exact ih (n / 10) (by omega) (by omega) ds hfront

theorem readDigits_toDigits (n : Nat) (hrest : Stops extendsNumber rest) :
    readDigits (Nat.toDigits 10 n ++ rest) = some (Nat.toDigits 10 n, rest) := by
  have hstops : Stops Char.isDigit rest := by
    intro c hc
    have hextends := hrest c hc
    simp only [extendsNumber, Bool.or_eq_false_iff] at hextends
    exact hextends.1.1.1
  have hrun : (Nat.toDigits 10 n ++ rest).takeWhile Char.isDigit = Nat.toDigits 10 n :=
    takeWhile_append_of_stops
      (fun _ => Nat.isDigit_of_mem_toDigits (by decide) (by decide)) hstops
  simp [readDigits, hrun, Nat.toDigits_ne_nil]

theorem readPlaces_of_stops (hrest : Stops extendsNumber rest) :
    readPlaces rest = some (none, rest) := by
  unfold readPlaces
  split
  · simp [extendsNumber] at hrest
  · rfl

theorem readExponent_of_stops (hrest : Stops extendsNumber rest) :
    readExponent rest = some (none, rest) := by
  cases rest with
  | nil => rfl
  | cons c rest =>
    simp only [stops_cons, extendsNumber, Bool.or_eq_false_iff] at hrest
    simp [readExponent, hrest]

/-- A leading zero stands for itself only, so the digits of a number are read as a whole. -/
theorem readWhole_toDigits {β : Type} (n : Nat) (hrest : Stops extendsNumber rest)
    (next : List Char × List Char → Option β) :
    (match Nat.toDigits 10 n ++ rest with
      | '0' :: cs => (some (['0'], cs)).bind next
      | cs => (readDigits cs).bind next) = next (Nat.toDigits 10 n, rest) := by
  rcases Nat.eq_zero_or_pos n with rfl | hpositive
  · rfl
  · split
    · next cs hzero =>
      obtain ⟨d, ds, hdigits, -⟩ := exists_toDigits_eq_cons n
      rw [hdigits] at hzero
      obtain rfl : d = '0' := (List.cons.inj hzero).1
      exact absurd hdigits (toDigits_ne_zero_cons hpositive ds)
    · rw [readDigits_toDigits n hrest]
      rfl

theorem readUnsigned_toDigits {negative : Bool} {n : Nat} (hn : negative = true → 0 < n)
    (hrest : Stops extendsNumber rest) :
    readUnsigned negative (Nat.toDigits 10 n ++ rest) =
      some (.integer (if negative then -(n : Int) else n), rest) := by
  unfold readUnsigned
  refine (readWhole_toDigits n hrest _).trans ?_
  simp [readPlaces_of_stops hrest, readExponent_of_stops hrest, digits?_toDigits]
  intro hnegative
  exact Nat.ne_of_gt (hn hnegative)

theorem readNumber_toString (n : Int) (hrest : Stops extendsNumber rest) :
    readNumber ((toString n).toList ++ rest) = some (.integer n, rest) := by
  rw [Int.toString_eq_repr, Int.repr_eq_if]
  split
  · next hnonneg =>
    rw [Nat.toList_repr]
    unfold readNumber
    split
    · next cs hminus =>
      obtain ⟨d, ds, hdigits, hdigit⟩ := exists_toDigits_eq_cons n.toNat
      rw [hdigits] at hminus
      obtain rfl : d = '-' := (List.cons.inj hminus).1
      cases hdigit
    · rw [readUnsigned_toDigits (by simp) hrest]
      simp
      omega
  · next hnegative =>
    rw [String.toList_append, Nat.toList_repr]
    change readUnsigned true (Nat.toDigits 10 (-n).toNat ++ rest) = _
    rw [readUnsigned_toDigits (by omega) hrest]
    simp
    omega

/-- A character with which an integer can begin. -/
def startsNumber (c : Char) : Bool := c == '-' || c.isDigit

theorem exists_toString_eq_cons (n : Int) :
    ∃ c cs, (toString n).toList = c :: cs ∧ startsNumber c = true := by
  rw [Int.toString_eq_repr, Int.repr_eq_if]
  split
  · obtain ⟨d, ds, hdigits, hdigit⟩ := exists_toDigits_eq_cons n.toNat
    exact ⟨d, ds, by rw [Nat.toList_repr, hdigits], by simp [startsNumber, hdigit]⟩
  · rw [String.toList_append]
    exact ⟨'-', _, rfl, rfl⟩

theorem isSpace_of_startsNumber {c : Char} (h : startsNumber c = true) : isSpace c = false := by
  by_contra hspace
  simp only [isSpace, Bool.not_eq_false, Bool.or_eq_true, beq_iff_eq] at hspace
  rcases hspace with ((rfl | rfl) | rfl) | rfl <;> cases h

/-! ## Values -/

/-- A value that its text gives back: its numbers are integers, and all of it is well formed. -/
inductive Exact : Json → Prop where
  | null : Exact .null
  | bool (b : Bool) : Exact (.bool b)
  | integer (n : Int) : Exact (.number (.integer n))
  | text (s : String) : Exact (.text s)
  | array (items : List Json) (h : ∀ item ∈ items, Exact item) : Exact (.array items)
  | object (members : List (String × Json)) (h : ∀ m ∈ members, Exact m.2) :
      Exact (.object members)

/-- The text of a value is read as that value, whatever follows it, with two units of fuel for each
character. -/
def IsRead (j : Json) : Prop :=
  ∀ (rest : List Char) (fuel : Nat), Stops extendsNumber rest →
    2 * j.toText.toList.length ≤ fuel →
    readValue fuel (j.toText.toList ++ rest) = some (j, rest)

theorem skipSpace_of_stops (h : Stops isSpace rest) : skipSpace rest = rest := h.dropWhile_eq

/-- Neither space nor the end of an array comes first in the text of a value. -/
theorem Exact.exists_cons {j : Json} (h : j.Exact) :
    ∃ c cs, j.toText.toList = c :: cs ∧ isSpace c = false ∧ c ≠ ']' := by
  cases h with
  | null => exact ⟨'n', _, rfl, by decide⟩
  | bool b =>
    cases b with
    | false => exact ⟨'f', _, rfl, by decide⟩
    | true => exact ⟨'t', _, rfl, by decide⟩
  | integer n =>
    obtain ⟨c, cs, htext, hstarts⟩ := exists_toString_eq_cons n
    refine ⟨c, cs, htext, isSpace_of_startsNumber hstarts, ?_⟩
    rintro rfl
    cases hstarts
  | text s => exact ⟨'"', _, by rw [toText, toList_writeText]; rfl, by decide⟩
  | array items => exact ⟨'[', (itemsText items ++ "]").toList, by rw [toText]; simp, by decide⟩
  | object members =>
    exact ⟨'\x7b', (membersText members ++ "\x7d").toList, by rw [toText]; simp, by decide⟩

theorem isRead_null : IsRead .null := by
  intro rest fuel hrest hfuel
  cases fuel with
  | zero => simp [toText] at hfuel
  | succ fuel => rfl

theorem isRead_bool (b : Bool) : IsRead (.bool b) := by
  intro rest fuel hrest hfuel
  cases fuel with
  | zero => cases b <;> simp [toText] at hfuel
  | succ fuel => cases b <;> rfl

theorem isRead_text (s : String) : IsRead (.text s) := by
  intro rest fuel hrest hfuel
  rw [toText, toList_writeText] at *
  cases fuel with
  | zero => simp at hfuel
  | succ fuel =>
    have hread := readText_writeText s rest
    simp [readValue, skipSpace, isSpace, hread]

theorem readValue_of_startsNumber {c : Char} (h : startsNumber c = true) (cs : List Char)
    (fuel : Nat) :
    readValue (fuel + 1) (c :: cs) =
      (readNumber (c :: cs)).map fun (n, rest) => (.number n, rest) := by
  rw [readValue, skipSpace_of_stops (stops_cons.mpr (isSpace_of_startsNumber h))]
  split
  case h_7 => rfl
  all_goals
    next heq =>
      rw [(List.cons.inj heq).1] at h
      cases h

theorem isRead_integer (n : Int) : IsRead (.number (.integer n)) := by
  intro rest fuel hrest hfuel
  obtain ⟨c, cs, hcons, hstarts⟩ := exists_toString_eq_cons n
  have hread := readNumber_toString n hrest
  change 2 * (toString n).toList.length ≤ fuel at hfuel
  change readValue fuel ((toString n).toList ++ rest) = _
  rw [hcons] at hfuel hread ⊢
  cases fuel with
  | zero => cases hfuel
  | succ fuel =>
    rw [List.cons_append] at hread ⊢
    rw [readValue_of_startsNumber hstarts, hread]
    rfl

theorem toList_itemsText_cons_cons (item next : Json) (more : List Json) :
    (itemsText (item :: next :: more)).toList =
      item.toText.toList ++ ',' :: (itemsText (next :: more)).toList := by
  rw [itemsText]
  · simp
  · simp

theorem itemsText_singleton (item : Json) : itemsText [item] = item.toText := by
  rw [itemsText]

/-- An item is read, then what follows it. -/
theorem readItems_item {item : Json} (hitem : item.IsRead) {fuel : Nat} {next : Char}
    (hnext : extendsNumber next = false) (hspace : isSpace next = false)
    (hfuel : 2 * item.toText.toList.length ≤ fuel) :
    readItems (fuel + 1) (item.toText.toList ++ next :: rest) =
      if next = ',' then (readItems fuel rest).map fun (items, rest) => (item :: items, rest)
      else if next = ']' then some ([item], rest)
      else none := by
  rw [readItems, hitem (next :: rest) fuel (stops_cons.mpr hnext) hfuel]
  simp only
  rw [skipSpace_of_stops (stops_cons.mpr hspace)]
  split <;> simp_all

theorem readItems_itemsText {items : List Json} (hne : items ≠ [])
    (h : ∀ item ∈ items, IsRead item) {fuel : Nat}
    (hfuel : 2 * (itemsText items).toList.length + 1 ≤ fuel) :
    readItems fuel ((itemsText items).toList ++ ']' :: rest) = some (items, rest) := by
  induction items generalizing fuel with
  | nil => exact absurd rfl hne
  | cons item more ih =>
    obtain ⟨fuel, rfl⟩ : ∃ n, fuel = n + 1 := ⟨fuel - 1, by omega⟩
    have hitem := h item List.mem_cons_self
    cases more with
    | nil =>
      rw [itemsText_singleton] at *
      rw [readItems_item hitem (by decide) (by decide) (by omega), if_neg (by decide), if_pos rfl]
    | cons next more =>
      rw [toList_itemsText_cons_cons, List.length_append, List.length_cons] at hfuel
      rw [toList_itemsText_cons_cons, List.append_assoc, List.cons_append,
        readItems_item hitem (by decide) (by decide) (by omega), if_pos rfl,
        ih (by simp) (fun j hj => h j (List.mem_cons_of_mem _ hj)) (by omega)]
      rfl

theorem exists_itemsText_eq_cons {item : Json} (h : item.Exact) (more : List Json) :
    ∃ c cs, (itemsText (item :: more)).toList = c :: cs ∧ isSpace c = false ∧ c ≠ ']' := by
  obtain ⟨c, cs, hcons, hfirst⟩ := h.exists_cons
  cases more with
  | nil => exact ⟨c, cs, by rw [itemsText_singleton, hcons], hfirst⟩
  | cons next more => exact ⟨c, _, by rw [toList_itemsText_cons_cons, hcons]; rfl, hfirst⟩

theorem readValue_bracket {c : Char} (hspace : isSpace c = false) (hclose : c ≠ ']')
    (cs : List Char) (fuel : Nat) :
    readValue (fuel + 1) ('[' :: c :: cs) =
      (readItems fuel (c :: cs)).map fun (items, rest) => (.array items, rest) := by
  rw [readValue, skipSpace_of_stops (stops_cons.mpr (by decide))]
  simp only
  rw [skipSpace_of_stops (stops_cons.mpr hspace)]
  split
  · next heq => exact absurd (List.cons.inj heq).1 hclose
  · rfl

theorem isRead_array {items : List Json} (hexact : ∀ item ∈ items, Exact item)
    (h : ∀ item ∈ items, IsRead item) : IsRead (.array items) := by
  intro rest fuel hrest hfuel
  have htext : (toText (.array items)).toList = '[' :: ((itemsText items).toList ++ [']']) := by
    simp [toText]
  rw [htext] at hfuel ⊢
  simp only [List.length_append, List.length_cons, List.length_nil] at hfuel
  obtain ⟨fuel, rfl⟩ : ∃ n, fuel = n + 1 := ⟨fuel - 1, by omega⟩
  cases items with
  | nil => rfl
  | cons item more =>
    have hread : readItems fuel ((itemsText (item :: more)).toList ++ ']' :: rest) = _ :=
      readItems_itemsText (by simp) h (by omega)
    obtain ⟨c, cs, hcons, hspace, hclose⟩ :=
      exists_itemsText_eq_cons (hexact item List.mem_cons_self) more
    rw [hcons] at hread ⊢
    simp only [List.cons_append, List.append_assoc, List.nil_append] at hread ⊢
    rw [readValue_bracket hspace hclose, hread]
    rfl

/-- A member from the first character of its name on. -/
theorem toList_membersText_singleton (name : String) (value : Json) :
    (membersText [(name, value)]).toList =
      (writeText name).toList ++ ':' :: value.toText.toList := by
  rw [membersText]
  simp

theorem toList_membersText_cons_cons (name : String) (value : Json) (next : String × Json)
    (more : List (String × Json)) :
    (membersText ((name, value) :: next :: more)).toList =
      (writeText name).toList ++ ':' :: (value.toText.toList ++
        ',' :: (membersText (next :: more)).toList) := by
  rw [membersText]
  · simp
  · simp

/-- The name and the value of a member are read in turn, then what follows it. -/
theorem readMembers_member {name : String} {value : Json} (hvalue : value.IsRead) {fuel : Nat}
    {next : Char} (hnext : extendsNumber next = false) (hspace : isSpace next = false)
    (hfuel : 2 * value.toText.toList.length ≤ fuel) :
    readMembers (fuel + 1)
        ((writeText name).toList ++ ':' :: (value.toText.toList ++ next :: rest)) =
      if next = ',' then
        (readMembers fuel rest).map fun (members, rest) => ((some name, value) :: members, rest)
      else if next = '\x7d' then some ([(some name, value)], rest)
      else none := by
  have hname := readText_writeText name (':' :: (value.toText.toList ++ next :: rest))
  have hread := hvalue (next :: rest) fuel (stops_cons.mpr hnext) hfuel
  rw [toList_writeText, readMembers, skipSpace_of_stops (by simp; decide)]
  simp only [List.cons_append, List.append_assoc, List.nil_append, hname]
  rw [skipSpace_of_stops (stops_cons.mpr (by decide))]
  simp only [hread]
  rw [skipSpace_of_stops (stops_cons.mpr hspace)]
  split <;> simp_all

theorem readMembers_membersText {members : List (String × Json)} (hne : members ≠ [])
    (h : ∀ m ∈ members, IsRead m.2) {fuel : Nat}
    (hfuel : 2 * (membersText members).toList.length + 1 ≤ fuel) :
    readMembers fuel ((membersText members).toList ++ '\x7d' :: rest) =
      some (members.map fun m => (some m.1, m.2), rest) := by
  induction members generalizing fuel with
  | nil => exact absurd rfl hne
  | cons head more ih =>
    obtain ⟨name, value⟩ := head
    obtain ⟨fuel, rfl⟩ : ∃ n, fuel = n + 1 := ⟨fuel - 1, by omega⟩
    have hvalue : value.IsRead := h (name, value) List.mem_cons_self
    cases more with
    | nil =>
      rw [toList_membersText_singleton] at hfuel ⊢
      simp only [List.length_append, List.length_cons] at hfuel
      rw [List.append_assoc, List.cons_append,
        readMembers_member hvalue (by decide) (by decide) (by omega), if_neg (by decide),
        if_pos rfl]
      rfl
    | cons next more =>
      rw [toList_membersText_cons_cons] at hfuel ⊢
      simp only [List.length_append, List.length_cons] at hfuel
      simp only [List.append_assoc, List.cons_append]
      rw [readMembers_member hvalue (by decide) (by decide) (by omega), if_pos rfl,
        ih (by simp) (fun m hm => h m (List.mem_cons_of_mem _ hm)) (by omega)]
      rfl

theorem ofReadMembers_map (members : List (String × Json)) :
    ofReadMembers (members.map fun m => (some m.1, m.2)) = .object members := by
  have hnames : (members.map fun m => (some m.1, m.2)).mapM
      (fun m => m.1.map fun name => (name, m.2)) = some members := by
    induction members with
    | nil => rfl
    | cons m more ih => simp [List.mapM_cons, ih]
  rw [ofReadMembers, hnames]

theorem readValue_brace (cs : List Char) (fuel : Nat) :
    readValue (fuel + 1) ('\x7b' :: '"' :: cs) =
      (readMembers fuel ('"' :: cs)).map fun (members, rest) => (ofReadMembers members, rest) := by
  rw [readValue, skipSpace_of_stops (stops_cons.mpr (by decide))]
  simp only
  rw [skipSpace_of_stops (stops_cons.mpr (by decide))]
  rfl

theorem isRead_object {members : List (String × Json)} (h : ∀ m ∈ members, IsRead m.2) :
    IsRead (.object members) := by
  intro rest fuel hrest hfuel
  have htext : (toText (.object members)).toList =
      '\x7b' :: ((membersText members).toList ++ ['\x7d']) := by
    simp [toText]
  rw [htext] at hfuel ⊢
  simp only [List.length_append, List.length_cons, List.length_nil] at hfuel
  obtain ⟨fuel, rfl⟩ : ∃ n, fuel = n + 1 := ⟨fuel - 1, by omega⟩
  cases members with
  | nil => rfl
  | cons head more =>
    have hread : readMembers fuel ((membersText (head :: more)).toList ++ '\x7d' :: rest) = _ :=
      readMembers_membersText (by simp) h (by omega)
    obtain ⟨cs, hcons⟩ : ∃ cs, (membersText (head :: more)).toList = '"' :: cs := by
      cases more with
      | nil => exact ⟨_, by rw [toList_membersText_singleton, toList_writeText]; rfl⟩
      | cons next more => exact ⟨_, by rw [toList_membersText_cons_cons, toList_writeText]; rfl⟩
    rw [hcons] at hread ⊢
    simp only [List.cons_append, List.append_assoc, List.nil_append] at hread ⊢
    rw [readValue_brace, hread]
    simp only [Option.map_some, ofReadMembers_map]

theorem Exact.isRead {j : Json} (h : j.Exact) : j.IsRead := by
  induction h with
  | null => exact isRead_null
  | bool b => exact isRead_bool b
  | integer n => exact isRead_integer n
  | text s => exact isRead_text s
  | array items hexact ih => exact isRead_array hexact ih
  | object members hexact ih => exact isRead_object ih

theorem Exact.ofText?_toText {j : Json} (h : j.Exact) : ofText? j.toText = some j := by
  have hread := h.isRead [] (2 * j.toText.toList.length + 2) (by simp) (by omega)
  rw [List.append_nil] at hread
  simp [ofText?, hread, skipSpace]

end ReleaseBuilds.Json
