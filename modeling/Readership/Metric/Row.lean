import Readership.Json.Record
import Readership.Number.FloatText

/-!
# Rows of a metric

Every selector answers with rows of three slots: `y` is always a number of
views, `x` and `z` are a label, a count or a percentage, depending on the
selector.
-/

namespace Readership

/-- **What stands in a slot.** -/
inductive MetricValue where
  | label (s : String)
  | count (n : Nat)
  | percent (p : Float)

/-- **One row of a metric.** -/
structure MetricRow where
  x : MetricValue
  y : Nat
  z : MetricValue

namespace MetricValue

/-- The label in a slot. -/
def label? : MetricValue → Option String
  | label s => some s
  | _ => none

/-- The count in a slot. -/
def count? : MetricValue → Option Nat
  | count n => some n
  | _ => none

/-- The percentage in a slot. -/
def percent? : MetricValue → Option Float
  | percent p => some p
  | _ => none

/-- A double in plain digits; what is no number has a word. -/
def percentText (p : Float) : String :=
  if p.isNaN then "NaN"
  else if p.isInf then (if p < 0 then "-inf" else "inf")
  else Number.floatText Number.plainLayout p

/-- What is shown of a slot. -/
def display : MetricValue → String
  | label s => s
  | count n => Numeral.ofNat n
  | percent p => percentText p

/-- A slot as JSON. -/
def toJson : MetricValue → Json
  | label s => .str s
  | count n => .ofNat n
  | percent p => .ofFloat p

/-- **A slot from JSON.** A text is a label, a natural number of 64 bits a
count, any other number a percentage. -/
def ofWritten? : Json.Written → Option MetricValue
  | .str s => s.map label
  | .num n => n.map fun n =>
    match n.unsigned? with
    | some k => .count k
    | none => .percent n.toFloat
  | _ => none

end MetricValue

namespace MetricRow

/-- The slots of a row as members, in their order. -/
def members (r : MetricRow) : List (String × Json) :=
  [("x", r.x.toJson), ("y", .ofNat r.y), ("z", r.z.toJson)]

/-- A row as JSON. -/
def toJson (r : MetricRow) : Json :=
  .obj r.members

/-- A row from its record. -/
def ofWritten? (w : Json.Written) : Option MetricRow := do
  match ← w.record? ["x", "y", "z"] with
  | [some x, some y, some z] =>
    pure ⟨← MetricValue.ofWritten? x, ← y.unsigned?, ← MetricValue.ofWritten? z⟩
  | _ => none

end MetricRow

end Readership
