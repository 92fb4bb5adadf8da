/-!
# Punycode

A label of a domain name holds letters of ASCII only. Other letters are written
behind the last dash as a row of numbers: each says how far to walk over all
pairs of a character and a place until the next one that is to be put in. The
numbers are written in digits of base 36, lowest first. At each place of a
number a threshold tells the last digit from the others, and the thresholds
adapt to the numbers read so far.
-/

namespace Readership.Url.Punycode

/-- The value of a digit: letters come before the digits of ASCII. -/
def digit? (c : Char) : Option Nat :=
  if 'a' ≤ c && c ≤ 'z' then some (c.toNat - 'a'.toNat)
  else if 'A' ≤ c && c ≤ 'Z' then some (c.toNat - 'A'.toNat)
  else if '0' ≤ c && c ≤ '9' then some (c.toNat - '0'.toNat + 26)
  else none

/-- The least digit that is not the last one, at place `k` of a number. -/
def threshold (k bias : Nat) : Nat :=
  if k ≤ bias then 1 else if bias + 26 ≤ k then 26 else k - bias

/-- A number divided by 35 until it is at most 455, and 36 for each division. -/
def reduce (delta k : Nat) : Nat × Nat :=
  if 455 < delta then reduce (delta / 35) (k + 36) else (delta, k)
termination_by delta
decreasing_by exact Nat.div_lt_self (by omega) (by omega)

/-- The bias for the next number, after a number that put in the character that
made it `count` characters. -/
def adapted (delta count : Nat) (first : Bool) : Nat :=
  let scaled := if first then delta / 700 else delta / 2
  let (rest, k) := reduce (scaled + scaled / count) 0
  k + 36 * rest / (rest + 38)

/-- **Where the walk has come to.** -/
structure State where
  /-- The characters so far. -/
  output : List Char
  /-- The character and the place that come next. -/
  code : Nat
  place : Nat
  bias : Nat
  /-- The number that is being read: the place before it, the worth of its next
  digit and where that stands. -/
  start : Nat
  weight : Nat
  k : Nat
deriving DecidableEq, Repr

namespace State

/-- Nothing put in yet. -/
def ofBasic (basic : List Char) : State :=
  ⟨basic, 128, 0, 72, 0, 1, 36⟩

/-- Whether a number has begun and not ended. -/
def midway (s : State) : Bool :=
  s.k != 36

/-- The character of the number that has ended, put in at its place. -/
def put (s : State) : Option State :=
  let count := s.output.length + 1
  let code := s.code + s.place / count
  let place := s.place % count
  if code < 0xD800 || (0xDFFF < code && code < 0x110000) then
    some
      { output := s.output.take place ++ Char.ofNat code :: s.output.drop place
        code := code
        place := place + 1
        bias := adapted (s.place - s.start) count (s.start == 0)
        start := place + 1
        weight := 1
        k := 36 }
  else none

/-- One more digit. -/
def next (s : State) (c : Char) : Option State := do
  let d ← digit? c
  let s := { s with place := s.place + d * s.weight }
  let t := threshold s.k s.bias
  if d < t then s.put else some { s with weight := s.weight * (36 - t), k := s.k + 36 }

end State

/-- What stands before the last dash and after it. Without anything before a dash
there is none that divides. -/
def parts (cs : List Char) : List Char × List Char :=
  let tail := (cs.reverse.takeWhile (· != '-')).reverse
  let basic := cs.take (cs.length - tail.length - 1)
  if basic.isEmpty then ([], cs) else (basic, tail)

/-- **The text that a label stands for**, given what follows its mark. -/
def decode? (cs : List Char) : Option (List Char) := do
  let (basic, digits) := parts cs
  let s ← digits.foldlM State.next (State.ofBasic basic)
  if s.midway then none else some s.output

/-- A number has at least one digit that can be its last. -/
theorem threshold_pos (k bias : Nat) : 0 < threshold k bias := by
  unfold threshold
  split
  · exact Nat.one_pos
  · split <;> omega

/-- No threshold exceeds 26, so that every digit but the last adds to the weight. -/
theorem threshold_le (k bias : Nat) : threshold k bias ≤ 26 := by
  unfold threshold
  split
  · omega
  · split <;> omega

/-- Each character that is put in makes the text longer by one. -/
theorem State.length_put {s t : State} (h : s.put = some t) :
    t.output.length = s.output.length + 1 := by
  unfold put at h
  dsimp only at h
  split at h
  · have hp : s.place % (s.output.length + 1) ≤ s.output.length :=
      Nat.le_of_lt_succ (Nat.mod_lt _ (Nat.succ_pos _))
    rw [← Option.some.inj h]
    simp [Nat.min_eq_left hp]
    omega
  · exact absurd h (by simp)

end Readership.Url.Punycode
