import ReleaseBuilds.Decimal.Shortest
import ReleaseBuilds.Metrics.Series

/-!
# Exposition of metrics

The text in which recorded numbers are published. A family has a line that explains it, a line
that gives its kind, and one line for each sample. The samples of a family are in the order of
their label values, compared in the order of the label names.
-/

namespace ReleaseBuilds.Metrics

/-- One published number. -/
structure Sample where
  name : String
  /-- Names and values of the labels, in the order of the names. -/
  labels : List (String × String) := []
  value : Float

namespace Sample

/-- A label value with backslashes, quotes and line ends escaped. -/
def escaped (value : String) : String :=
  String.join (value.toList.map fun
    | '\\' => "\\\\"
    | '"' => "\\\""
    | '\n' => "\\n"
    | c => c.toString)

/-- The name with the labels, if there are any, in braces. -/
def head (s : Sample) : String :=
  if s.labels.isEmpty then s.name
  else
    let shown := s.labels.map fun l => l.1 ++ "=\"" ++ escaped l.2 ++ "\""
    s.name ++ "\x7b" ++ ",".intercalate shown ++ "\x7d"

def valueText (s : Sample) : String := Decimal.plainText s.value

def line (s : Sample) : String := s.head ++ " " ++ s.valueText

end Sample

/-- How the numbers of a family behave. -/
inductive Family.Kind where
  | counter | gauge | histogram
deriving DecidableEq, Repr

def Family.Kind.text : Family.Kind → String
  | .counter => "counter"
  | .gauge => "gauge"
  | .histogram => "histogram"

/-- Numbers that are published under one name. -/
structure Family where
  name : String
  help : String
  kind : Family.Kind
  samples : List Sample

namespace Family

/-- A number that is never split by labels. -/
def ofNumber (name help : String) (kind : Kind) (value : Float) : Family :=
  { name, help, kind, samples := [{ name, value }] }

/-- The numbers of several series. -/
def ofSeries {α : Type} (name help : String) (kind : Kind) (labelNames : List String)
    (number : α → Float) (series : SeriesSet α) : Family :=
  let sample := fun (s : Series α) =>
    { name
      labels := (labelNames.zip s.labels).mergeSort fun l m => decide (l.1 ≤ m.1)
      value := number s.value : Sample }
  let inOrder := fun (s t : Sample) => !decide (t.labels.map Prod.snd < s.labels.map Prod.snd)
  { name, help, kind, samples := (series.toList.map sample).mergeSort inOrder }

/-- The cumulative counts of a histogram, all observations last, then their sum and number. -/
def ofHistogram (name help : String) (h : Histogram) : Family :=
  let bucket := fun (bound : String) (count : Nat) =>
    { name := name ++ "_bucket"
      labels := [("le", bound)]
      value := count.toUInt64.toFloat : Sample }
  { name, help
    kind := .histogram
    samples := h.buckets.map (fun b => bucket (Decimal.plainText b.bound) b.count) ++
      [bucket "+Inf" h.count,
        { name := name ++ "_sum", value := h.sum },
        { name := name ++ "_count", value := h.count.toUInt64.toFloat }] }

/-- The lines of a family; none if it has no samples. -/
def lines (f : Family) : List String :=
  if f.samples.isEmpty then []
  else
    ["# HELP " ++ f.name ++ " " ++ f.help, "# TYPE " ++ f.name ++ " " ++ f.kind.text] ++
      f.samples.map Sample.line

end Family

end ReleaseBuilds.Metrics
