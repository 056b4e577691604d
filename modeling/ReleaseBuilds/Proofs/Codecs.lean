import Mathlib.Data.List.Forall2
import Mathlib.Data.List.Nodup
import ReleaseBuilds.Json.Record
import ReleaseBuilds.Proofs.JsonText
import ReleaseBuilds.Repository.Encoding

/-!
# Written forms that are read back

A written form is faithful if reading gives back each value that was written. Faithful forms make
up faithful lists, maps and records: in a record each field reads what the member of its name holds,
and a member that is left out stands for the default.
-/

namespace ReleaseBuilds

namespace TextMap

variable {α : Type}

/-- A key after all others goes to the end. -/
theorem insertEntry_of_lt {key : String} {es : List (String × α)} (value : α)
    (h : ∀ e ∈ es, e.1 < key) : insertEntry key value es = es ++ [(key, value)] := by
  induction es with
  | nil => rfl
  | cons head rest ih =>
    have hhead : head.1 < key := h head List.mem_cons_self
    have hnot : ¬key < head.1 := String.lt_asymm hhead
    have hne : key ≠ head.1 := fun heq => String.lt_irrefl _ (heq ▸ hhead)
    rw [insertEntry, if_neg hnot, if_neg hne, ih fun e he => h e (List.mem_cons_of_mem _ he)]
    rfl

theorem entries_foldl_insert (m : TextMap α) (es : List (String × α))
    (h : (m.entries ++ es).Pairwise fun e f => e.1 < f.1) :
    (es.foldl (fun m e => m.insert e.1 e.2) m).entries = m.entries ++ es := by
  induction es generalizing m with
  | nil => simp
  | cons head rest ih =>
    have hlast : (m.insert head.1 head.2).entries = m.entries ++ [head] :=
      insertEntry_of_lt head.2 fun e he =>
        (List.pairwise_append.mp h).2.2 e he head List.mem_cons_self
    rw [List.foldl_cons, ih, hlast, List.append_assoc]
    · rfl
    · rw [hlast, List.append_assoc]
      exact h

theorem eq_of_entries_eq {m n : TextMap α} (h : m.entries = n.entries) : m = n := by
  cases m
  cases n
  cases h
  rfl

theorem ofList_entries (m : TextMap α) : ofList m.entries = m :=
  eq_of_entries_eq (entries_foldl_insert empty m.entries m.sorted)

end TextMap

namespace Json

variable {α : Type} {encode : α → Json} {read : Json → Option α}

/-- Each value is read back from its written form, which is never `null` and which its text
gives back. -/
structure Faithful (encode : α → Json) (read : Json → Option α) : Prop where
  read_encode : ∀ a, read (encode a) = some a
  exact : ∀ a, (encode a).Exact
  ne_null : ∀ a, encode a ≠ .null

/-- Each value is read back from its text. -/
def RoundTrips (encode : α → Json) (read : Json → Option α) : Prop :=
  ∀ a, (ofText? (encode a).toText).bind read = some a

theorem Faithful.roundTrips (h : Faithful encode read) : RoundTrips encode read := by
  intro a
  rw [(h.exact a).ofText?_toText, Option.bind_some, h.read_encode]

/-! ## Plain values -/

attribute [simp] Exact.null Exact.bool Exact.text

@[simp] theorem asText?_text (s : String) : asText? (.text s) = some s := rfl

@[simp] theorem asBool?_bool (b : Bool) : asBool? (.bool b) = some b := rfl

theorem faithful_text : Faithful .text asText? := ⟨asText?_text, .text, by simp⟩

theorem faithful_bool : Faithful .bool asBool? := ⟨asBool?_bool, .bool, by simp⟩

theorem asNat?_ofNat {bound n : Nat} (h : n < bound) : asNat? bound (ofNat n) = some n := by
  simp only [asNat?, ofNat, ofInt, asInt?]
  rw [if_pos (by omega)]
  rfl

theorem exact_ofNat (n : Nat) : (ofNat n).Exact := .integer n

theorem ofNat_ne_null (n : Nat) : ofNat n ≠ .null := by simp [ofNat, ofInt]

/-! ## Options, lists and maps -/

theorem exact_ofOption (h : ∀ a, (encode a).Exact) (o : Option α) :
    (ofOption encode o).Exact := by
  cases o with
  | none => exact .null
  | some a => exact h a

theorem Faithful.asOption?_encode (h : Faithful encode read) (a : α) :
    asOption? read (encode a) = some (some a) := by
  have hread := h.read_encode a
  have hnull := h.ne_null a
  unfold asOption?
  split
  · next heq => exact absurd heq hnull
  · rw [hread, Option.map_some]

theorem Faithful.asOption?_ofOption (h : Faithful encode read) (o : Option α) :
    asOption? read (ofOption encode o) = some o := by
  cases o with
  | none => rfl
  | some a => exact h.asOption?_encode a

theorem readAll?_map (h : ∀ a, read (encode a) = some a) (as : List α) :
    readAll? read (as.map encode) = some as := by
  induction as with
  | nil => rfl
  | cons a as ih => simp [readAll?, h, ih]

theorem readEntries?_map (h : ∀ a, read (encode a) = some a) (es : List (String × α)) :
    readEntries? read (es.map fun e => (e.1, encode e.2)) = some es := by
  induction es with
  | nil => rfl
  | cons e es ih => simp [readEntries?, h, ih]

theorem Faithful.list (h : Faithful encode read) : Faithful (ofList encode) (asList? read) where
  read_encode as := readAll?_map h.read_encode as
  exact as := .array _ fun item hitem => by
    obtain ⟨a, -, rfl⟩ := List.mem_map.mp hitem
    exact h.exact a
  ne_null as := by simp [ofList]

theorem Faithful.map (h : Faithful encode read) : Faithful (ofMap encode) (asMap? read) where
  read_encode m := by
    simp [ofMap, asMap?, readEntries?_map h.read_encode, TextMap.ofList_entries]
  exact m := .object _ fun member hmember => by
    obtain ⟨e, -, rfl⟩ := List.mem_map.mp hmember
    exact h.exact e.2
  ne_null m := by simp [ofMap]

theorem Faithful.perArtifact (h : Faithful encode read) :
    Faithful (PerArtifact.toJson encode) (PerArtifact.ofJson? read) where
  read_encode m := by
    obtain ⟨assets, container⟩ := m
    cases assets <;> cases container <;>
      simp [PerArtifact.toJson, PerArtifact.ofJson?, PerArtifact.toList, ArtifactType.all,
        PerArtifact.get?, readEntries?, h.read_encode, ArtifactType.text, ArtifactType.ofText?,
        PerArtifact.insert, PerArtifact.set]
  exact m := .object _ fun member hmember => by
    obtain ⟨e, -, rfl⟩ := List.mem_map.mp hmember
    exact h.exact e.2
  ne_null m := by simp [PerArtifact.toJson]

/-! ## Records -/

/-- What is written for a member, if anything, is given back by its text. -/
def ExactMember (member : Option (String × Json)) : Prop := ∀ e ∈ member, e.2.Exact

theorem exactMember_always {value : Json} (name : String) (h : value.Exact) :
    ExactMember (always name value) := by
  simpa [ExactMember, always] using h

theorem Faithful.exactMember_whenPresent (h : Faithful encode read) (name : String)
    (o : Option α) : ExactMember (whenPresent name encode o) := by
  intro e he
  obtain ⟨a, -, rfl⟩ := Option.map_eq_some_iff.mp he
  exact h.exact a

/-- A list that is left out if it is empty. -/
theorem Faithful.exactMember_unlessEmpty (h : Faithful encode read) (name : String) (as : List α) :
    ExactMember (if as.isEmpty then none else always name (ofList encode as)) := by
  cases as with
  | nil => simp [ExactMember]
  | cons a as => exact exactMember_always name (h.list.exact (a :: as))

theorem exact_ofMembers {members : List (Option (String × Json))}
    (h : ∀ member ∈ members, ExactMember member) : (ofMembers members).Exact := by
  refine .object _ fun e he => ?_
  obtain ⟨member, hmember, hsome⟩ := List.mem_filterMap.mp he
  exact h member hmember e hsome

/-- What a record has for a field that is written like this. -/
def Slot.of : Option Json → Slot
  | some value => .present value
  | none => .absent

/-- Each member that is written bears the name that is due. -/
def Named (names : List String) (members : List (Option (String × Json))) : Prop :=
  List.Forall₂ (fun name member => ∀ e ∈ member, e.1 = name) names members

@[simp] theorem named_nil : Named [] [] := .nil

@[simp] theorem named_cons {name : String} {names : List String}
    {member : Option (String × Json)} {members : List (Option (String × Json))} :
    Named (name :: names) (member :: members) ↔
      (∀ e ∈ member, e.1 = name) ∧ Named names members := List.forall₂_cons

theorem Named.sublist {names : List String} {members : List (Option (String × Json))}
    (h : Named names members) : List.Sublist ((members.filterMap id).map Prod.fst) names := by
  induction h with
  | nil => exact .slnil
  | @cons name member names members hname hrest ih =>
    cases member with
    | none => exact ih.cons name
    | some e =>
      rw [← hname e rfl]
      exact ih.cons_cons e.1

/-- The members that are written are found under the names that are due. -/
theorem Named.lookup_eq {names : List String} {members : List (Option (String × Json))}
    (h : Named names members) (hnodup : names.Nodup) (name : String) :
    (members.filterMap id).lookup name =
      ((names.zip members).lookup name).join.map Prod.snd := by
  induction h with
  | nil => rfl
  | @cons head member names members hname hrest ih =>
    obtain ⟨hhead, hnodup⟩ := List.nodup_cons.mp hnodup
    have ih := ih hnodup
    by_cases heq : name = head
    · subst heq
      cases member with
      | none =>
        have hmissing : ∀ e ∈ members.filterMap id, (name != e.1) = true := fun e he =>
          bne_iff_ne.mpr fun hsame =>
            hhead (hsame ▸ (Named.sublist hrest).subset (List.mem_map_of_mem he))
        simpa using List.lookup_eq_none_iff.mpr hmissing
      | some e =>
        obtain ⟨first, value⟩ := e
        obtain rfl : first = name := hname _ rfl
        simp
    · have hne : (name == head) = false := by simpa using heq
      cases member with
      | none => simpa [List.lookup_cons, hne] using ih
      | some e =>
        obtain ⟨first, value⟩ := e
        obtain rfl : first = head := hname _ rfl
        simpa [List.lookup_cons, hne] using ih

theorem record?_object {names : List String} {members : List (String × Json)}
    (h : ∀ name ∈ names, (members.filter fun m => m.1 == name).length ≤ 1) :
    record? names (.object members) = some fun name => .of (members.lookup name) := by
  rw [record?, if_pos (List.all_eq_true.mpr fun name hname => decide_eq_true (h name hname))]
  rfl

theorem record?_object_eq_some {names : List String} {members : List (String × Json)}
    {fields : Fields} (h : record? names (.object members) = some fields) :
    (∀ name ∈ names, (members.filter fun m => m.1 == name).length ≤ 1) ∧
      fields = fun name => .of (members.lookup name) := by
  have honce : ∀ name ∈ names, (members.filter fun m => m.1 == name).length ≤ 1 := by
    intro name hname
    rw [record?, Option.ite_none_right_eq_some, List.all_eq_true] at h
    exact of_decide_eq_true (h.1 name hname)
  rw [record?_object honce] at h
  exact ⟨honce, (Option.some.inj h).symm⟩

theorem record?_of_sublist {names : List String} {members : List (String × Json)}
    (h : List.Sublist (members.map Prod.fst) names) (hnodup : names.Nodup) :
    record? names (.object members) = some fun name => .of (members.lookup name) := by
  apply record?_object
  intro name _
  have hcount := List.nodup_iff_count_le_one.mp (hnodup.sublist h) name
  rwa [List.count, List.countP_map, List.countP_eq_length_filter] at hcount

/-- A record is read field by field from the members that are written. -/
theorem record?_ofMembers {names : List String} {members : List (Option (String × Json))}
    (h : Named names members) (hnodup : names.Nodup) :
    record? names (ofMembers members) =
      some fun name => .of (((names.zip members).lookup name).join.map Prod.snd) := by
  rw [ofMembers, record?_of_sublist h.sublist hnodup]
  simp only [h.lookup_eq hnodup]

@[simp] theorem map_snd_always (name : String) (value : Json) :
    (always name value).map Prod.snd = some value := rfl

@[simp] theorem map_snd_whenPresent (name : String) (o : Option α) :
    (whenPresent name encode o).map Prod.snd = o.map encode := by
  cases o <;> rfl

theorem Faithful.orElse_unlessEmpty (h : Faithful encode read) (name : String) (as : List α) :
    (Slot.of ((if as.isEmpty then none else always name (ofList encode as)).map Prod.snd)).orElse []
      (asList? read) = some as := by
  cases as with
  | nil => rfl
  | cons a as => exact h.list.read_encode (a :: as)

@[simp] theorem Slot.required_of_some (value : Json) :
    (Slot.of (some value)).required read = read value := rfl

@[simp] theorem Slot.orElse_of_some (default : α) (value : Json) :
    (Slot.of (some value)).orElse default read = read value := rfl

@[simp] theorem Slot.optional_of_some (value : Json) :
    (Slot.of (some value)).optional read = asOption? read value := rfl

theorem Faithful.optional_of_map (h : Faithful encode read) (o : Option α) :
    (Slot.of (o.map encode)).optional read = some o := by
  cases o with
  | none => rfl
  | some a => exact h.asOption?_encode a

end Json

end ReleaseBuilds
