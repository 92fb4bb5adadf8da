import Readership.Filter.Selection

/-!
# Date bounds

A ranking can be restricted to a stretch of time whose ends belong to it. An
end may be a bare date and then means the whole day: its first second at the
start of the stretch, its last whole second at the end.
-/

namespace Readership

/-- **A stretch of time**, open on the sides without an end. -/
structure DateBounds where
  start : Option Instant
  stop : Option Instant
deriving DecidableEq

namespace DateBounds

/-- All of time. -/
def always : DateBounds := ⟨none, none⟩

/-- The instant of an end, where a bare date means `ofDate` of it. -/
def parseEnd (ofDate : Date → Instant) (s : String) : Except Fault Instant :=
  match Calendar.bareDate? s with
  | some d => .ok (ofDate d)
  | none =>
    match Calendar.instant? s with
    | some t => .ok t
    | none => .error (.timeRange s)

/-- **The beginning of a stretch.** -/
def parseStart : String → Except Fault Instant :=
  parseEnd Instant.startOf

/-- **The end of a stretch.** -/
def parseStop : String → Except Fault Instant :=
  parseEnd Instant.endOf

/-- An end that may be left out or blank. -/
def optionalEnd (parse : String → Except Fault Instant) :
    Option String → Except Fault (Option Instant)
  | none => .ok none
  | some s => if Text.isBlankText s then .ok none else (parse s).map some

/-- **Bounds from two texts.** -/
def parse (start stop : Option String) : Except Fault DateBounds := do
  let start ← optionalEnd parseStart start
  let stop ← optionalEnd parseStop stop
  pure ⟨start, stop⟩

/-- Whether there is no restriction. -/
def isEmpty (b : DateBounds) : Bool :=
  b.start.isNone && b.stop.isNone

/-- The condition that a view lies on one side of an instant. -/
def condition (op : Operator) (t : Instant) : Condition :=
  ⟨Field.viewedAt.path, op, .str t.offsetText⟩

/-- **Bounds as conditions** on the time of a view. -/
def conditions (b : DateBounds) : List Condition :=
  (b.start.map (condition .gte)).toList ++ (b.stop.map (condition .lte)).toList

@[simp] theorem conditions_always : always.conditions = [] := rfl

end DateBounds

end Readership
