import ReleaseBuilds.Data.TextMap

/-!
# Series and histograms

What is recorded under one name: values told apart by labels, or observations counted by size.
Nothing here knows how the recorded numbers are shown.
-/

namespace ReleaseBuilds.Metrics

/-- The latest value recorded under some label values. -/
structure Series (α : Type) where
  labels : List String
  value : α
deriving DecidableEq, Repr

/-- Series under one name. A series is found by its label values written one after another; lists of
values that read the same when joined share a series, which keeps the labels it was made with. -/
structure SeriesSet (α : Type) where
  byJoined : TextMap (Series α) := .empty

namespace SeriesSet

variable {α : Type}

def toList (s : SeriesSet α) : List (Series α) := s.byJoined.values

def get? (s : SeriesSet α) (labels : List String) : Option α :=
  (s.byJoined.get? (String.join labels)).map Series.value

/-- The value of a series computed from the one before, if there was one. -/
def update (s : SeriesSet α) (labels : List String) (f : Option α → α) : SeriesSet α :=
  ⟨s.byJoined.update (String.join labels) fun
    | some series => { series with value := f (some series.value) }
    | none => { labels, value := f none }⟩

def set (s : SeriesSet α) (labels : List String) (value : α) : SeriesSet α :=
  s.update labels fun _ => value

theorem get?_update (s : SeriesSet α) (labels other : List String) (f : Option α → α) :
    (s.update labels f).get? other =
      if String.join other = String.join labels then some (f (s.get? labels))
      else s.get? other := by
  unfold get? update TextMap.update
  rw [TextMap.get?_insert]
  split
  · cases s.byJoined.get? (String.join labels) <;> rfl
  · rfl

end SeriesSet

/-- One more than a count that may not have begun. -/
def oneMore (count : Option Nat) : Nat := count.getD 0 + 1

/-- An upper bound with the number of observations that do not exceed it. -/
structure Bucket where
  bound : Float
  count : Nat := 0

/-- Observations counted by size. -/
structure Histogram where
  buckets : List Bucket
  sum : Float := 0.0
  count : Nat := 0

namespace Histogram

def ofBounds (bounds : List Float) : Histogram :=
  { buckets := bounds.map fun bound => { bound } }

/-- One more observation. It is counted under every bound that it does not exceed. -/
def observe (h : Histogram) (x : Float) : Histogram :=
  { buckets := h.buckets.map fun b => if x ≤ b.bound then { b with count := b.count + 1 } else b
    sum := h.sum + x
    count := h.count + 1 }

end Histogram

end ReleaseBuilds.Metrics
