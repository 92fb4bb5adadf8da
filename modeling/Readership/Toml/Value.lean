import Readership.Calendar.Date

/-!
# Values of TOML

Settings are kept in TOML. Its values are texts, integers of 64 bits, doubles,
truth values, moments of time, arrays, and tables of values under keys.
-/

namespace Readership.Toml

/-- **A moment**: a date, a time of day or both, and with both perhaps the
offset from UTC in minutes. -/
structure Moment where
  date : Option Date
  /-- The second of the day and the nanosecond. -/
  clock : Option (Nat × Nat)
  offset : Option Int
deriving DecidableEq

/-- **A value.** -/
inductive Value where
  | text (s : String)
  | integer (n : Int)
  | float (x : Float)
  | boolean (b : Bool)
  | moment (m : Moment)
  | array (items : List Value)
  | table (members : List (String × Value))

instance : Inhabited Value := ⟨.table []⟩

end Readership.Toml
