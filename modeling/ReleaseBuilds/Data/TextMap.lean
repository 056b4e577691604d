/-!
# Maps keyed by text

Finite maps from texts, listed in the order of their keys' code points, which is also the order of
their UTF-8 bytes. No key is listed twice, and the order is part of the type, so a map has one
listing. What the operations do is said on `get?`.
-/

namespace ReleaseBuilds

/-- Entries in strictly ascending order of their keys. -/
structure TextMap (α : Type) where
  entries : List (String × α)
  sorted : entries.Pairwise (fun e f => e.1 < f.1)
deriving DecidableEq

namespace TextMap

variable {α β : Type}

def empty : TextMap α := ⟨[], .nil⟩

instance : Inhabited (TextMap α) := ⟨empty⟩

def get? (m : TextMap α) (key : String) : Option α := m.entries.lookup key

def contains (m : TextMap α) (key : String) : Bool := (m.get? key).isSome

/-- Keys in ascending order. -/
def keys (m : TextMap α) : List String := m.entries.map Prod.fst

/-- Values in the order of their keys. -/
def values (m : TextMap α) : List α := m.entries.map Prod.snd

/-- The value of `key` replaced in its place, or a new entry where the key belongs. -/
def insertEntry (key : String) (value : α) : List (String × α) → List (String × α)
  | [] => [(key, value)]
  | (k, v) :: rest =>
    if key < k then (key, value) :: (k, v) :: rest
    else if key = k then (key, value) :: rest
    else (k, v) :: insertEntry key value rest

theorem lt_of_not_lt_of_ne {a b : String} (h : ¬a < b) (hne : a ≠ b) : b < a :=
  String.not_le.1 fun hle => hne (String.le_antisymm hle (String.not_lt.1 h))

theorem key_mem_insertEntry {key : String} {value : α} {e : String × α}
    {es : List (String × α)} (h : e ∈ insertEntry key value es) : e = (key, value) ∨ e ∈ es := by
  induction es with
  | nil => simpa [insertEntry] using h
  | cons head rest ih =>
    obtain ⟨k, v⟩ := head
    unfold insertEntry at h
    split at h
    · simpa using h
    · split at h
      · rcases List.mem_cons.1 h with h | h
        · exact .inl h
        · exact .inr (List.mem_cons_of_mem _ h)
      · rcases List.mem_cons.1 h with h | h
        · exact .inr (h ▸ List.mem_cons_self)
        · exact (ih h).imp_right (List.mem_cons_of_mem _)

theorem sorted_insertEntry (key : String) (value : α) (es : List (String × α))
    (h : es.Pairwise (fun e f => e.1 < f.1)) :
    (insertEntry key value es).Pairwise (fun e f => e.1 < f.1) := by
  induction es with
  | nil => exact List.pairwise_singleton ..
  | cons head rest ih =>
    obtain ⟨k, v⟩ := head
    obtain ⟨hhead, hrest⟩ := List.pairwise_cons.1 h
    unfold insertEntry
    split
    · next hlt =>
      refine List.pairwise_cons.2 ⟨fun e he => ?_, h⟩
      rcases List.mem_cons.1 he with he | he
      · exact he ▸ hlt
      · exact String.lt_trans hlt (hhead e he)
    · next hnlt =>
      split
      · next heq => exact List.pairwise_cons.2 ⟨fun e he => heq ▸ hhead e he, hrest⟩
      · next hne =>
        refine List.pairwise_cons.2 ⟨fun e he => ?_, ih hrest⟩
        rcases key_mem_insertEntry he with he | he
        · exact he ▸ lt_of_not_lt_of_ne hnlt hne
        · exact hhead e he

/-- The map with the value of `key` set. -/
def insert (m : TextMap α) (key : String) (value : α) : TextMap α :=
  ⟨insertEntry key value m.entries, sorted_insertEntry key value m.entries m.sorted⟩

/-- The map with the value of `key` computed from the one before, if there was one. -/
def update (m : TextMap α) (key : String) (f : Option α → α) : TextMap α :=
  m.insert key (f (m.get? key))

/-- The entries that satisfy a test. -/
def filter (m : TextMap α) (p : String → α → Bool) : TextMap α :=
  ⟨m.entries.filter fun e => p e.1 e.2, m.sorted.filter _⟩

/-- Every value replaced, the keys kept. -/
def map (m : TextMap α) (f : String → α → β) : TextMap β :=
  ⟨m.entries.map fun e => (e.1, f e.1 e.2), List.pairwise_map.2 m.sorted⟩

/-- The map of a list of entries; of several entries with one key the last counts. -/
def ofList (es : List (String × α)) : TextMap α :=
  es.foldl (fun m e => m.insert e.1 e.2) empty

@[simp] theorem get?_empty (key : String) : (empty : TextMap α).get? key = none := rfl

theorem lookup_cons_eq (k x : String) (v : α) (es : List (String × α)) :
    ((k, v) :: es).lookup x = if x = k then some v else es.lookup x := by
  by_cases h : x = k
  · simp [h]
  · have hb : (x == k) = false := by simpa using h
    simp [List.lookup_cons, h, hb]

theorem lookup_insertEntry (key x : String) (value : α) (es : List (String × α)) :
    (insertEntry key value es).lookup x = if x = key then some value else es.lookup x := by
  induction es with
  | nil => simp [insertEntry, lookup_cons_eq]
  | cons head rest ih =>
    obtain ⟨k, v⟩ := head
    unfold insertEntry
    split
    · rw [lookup_cons_eq]
    · split
      · next heq =>
        subst heq
        rw [lookup_cons_eq, lookup_cons_eq]
        split <;> rfl
      · next hne =>
        rw [lookup_cons_eq, lookup_cons_eq, ih]
        by_cases hx : x = k
        · simp [hx, Ne.symm hne]
        · simp [hx]

theorem get?_insert (m : TextMap α) (key x : String) (value : α) :
    (m.insert key value).get? x = if x = key then some value else m.get? x :=
  lookup_insertEntry key x value m.entries

@[simp] theorem get?_insert_self (m : TextMap α) (key : String) (value : α) :
    (m.insert key value).get? key = some value := by simp [get?_insert]

end TextMap

end ReleaseBuilds
