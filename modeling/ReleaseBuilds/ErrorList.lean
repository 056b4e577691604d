/-!
# Lists of errors

A step that goes on after a failure collects its errors in order and reports all of them
at its end. The list says how many there are and how they read together; what an error
means is left to its type.
-/

namespace ReleaseBuilds

/-- Errors of one kind, in the order in which they occurred. -/
structure ErrorList (ε : Type) where
  toList : List ε
deriving DecidableEq, Repr

namespace ErrorList

variable {ε : Type}

/-- No error so far. -/
def empty : ErrorList ε := ⟨[]⟩

instance : Inhabited (ErrorList ε) := ⟨empty⟩

/-- One more error, after all others. -/
def push (errors : ErrorList ε) (e : ε) : ErrorList ε := ⟨errors.toList ++ [e]⟩

/-- All errors of a second list, after those of the first. -/
def append (errors later : ErrorList ε) : ErrorList ε := ⟨errors.toList ++ later.toList⟩

instance : Append (ErrorList ε) := ⟨append⟩

def isEmpty (errors : ErrorList ε) : Bool := errors.toList.isEmpty

def size (errors : ErrorList ε) : Nat := errors.toList.length

/-- Success with `a` when nothing was collected, and the whole list as the error otherwise. -/
def orElse {α : Type} (errors : ErrorList ε) (a : α) : Except (ErrorList ε) α :=
  if errors.isEmpty then .ok a else .error errors

/-- The errors among the outcomes of several steps, in order. -/
def ofOutcomes {α : Type} (outcomes : List (Except ε α)) : ErrorList ε :=
  ⟨outcomes.filterMap fun
    | .ok _ => none
    | .error e => some e⟩

/-- The values among the outcomes of several steps, in order. -/
def values {α : Type} (outcomes : List (Except ε α)) : List α :=
  outcomes.filterMap fun
    | .ok a => some a
    | .error _ => none

/-- A single error reads as itself. Several are counted and then listed one to a line. -/
def text (message : ε → String) (errors : ErrorList ε) : String :=
  match errors.toList with
  | [] => "no errors"
  | [e] => message e
  | es =>
    es.foldl (fun shown e => shown ++ "\n\t* " ++ message e)
      (toString es.length ++ " errors occurred:")

@[simp] theorem toList_empty : (empty : ErrorList ε).toList = [] := rfl

@[simp] theorem toList_push (errors : ErrorList ε) (e : ε) :
    (errors.push e).toList = errors.toList ++ [e] := rfl

@[simp] theorem toList_append (errors later : ErrorList ε) :
    (errors ++ later).toList = errors.toList ++ later.toList := rfl

theorem mem_ofOutcomes_iff {α : Type} {outcomes : List (Except ε α)} {e : ε} :
    e ∈ (ofOutcomes outcomes).toList ↔ .error e ∈ outcomes := by
  rw [ofOutcomes, List.mem_filterMap]
  constructor
  · rintro ⟨outcome, houtcome, heq⟩
    cases outcome with
    | ok a => cases heq
    | error f =>
        cases heq
        exact houtcome
  · intro h
    exact ⟨_, h, rfl⟩

theorem mem_values_iff {α : Type} {outcomes : List (Except ε α)} {a : α} :
    a ∈ values outcomes ↔ .ok a ∈ outcomes := by
  rw [values, List.mem_filterMap]
  constructor
  · rintro ⟨outcome, houtcome, heq⟩
    cases outcome with
    | ok b =>
        cases heq
        exact houtcome
    | error e => cases heq
  · intro h
    exact ⟨_, h, rfl⟩

end ErrorList

end ReleaseBuilds
