import Readership.Number.Numeral

/-!
# Reading from the front of a text

A reader takes something off the front of a text and leaves the rest, or it
fails. Readers follow one another in the monad of `Option`, the rest of one
being the text of the next.
-/

namespace Readership.Text

/-- Reads something from the front of a text and leaves the rest. -/
abbrev Reader (α : Type) : Type := List Char → Option (α × List Char)

/-- A character. -/
def literal (c : Char) : Reader Unit
  | [] => none
  | x :: rest => if x = c then some ((), rest) else none

/-- A run of at least `least` and at most `most` digits, as long as possible. -/
def digitRun (least most : Nat) : Reader (List Char) := fun cs =>
  let run := (cs.take most).takeWhile Char.isDigit
  if least ≤ run.length then some (run, cs.drop run.length) else none

/-- A number of exactly `width` digits. -/
def fixedNumber (width : Nat) : Reader Nat := fun cs => do
  let (run, rest) ← digitRun width width cs
  pure (Numeral.value run, rest)

/-- **As often as possible, to the end of the text.** A reading that takes
nothing is a failure, since it could be repeated for ever. -/
def readAll? {α : Type} (read : Reader α) (cs : List Char) : Option (List α) :=
  if cs.isEmpty then some []
  else match read cs with
    | none => none
    | some (a, rest) =>
      if rest.length < cs.length then (readAll? read rest).map (a :: ·) else none
termination_by cs.length

/-- **A list between brackets**, after the opening one: `filler` stands around
the items, a comma between them, `closing` at the end. Unless `trailing` commas
are welcome there is an item after every comma. -/
def readItems? {α : Type} (filler : List Char → List Char) (closing : Char)
    (trailing : Bool) (read : Reader α) (cs : List Char) : Option (List α × List Char) := do
  let (a, rest) ← read (filler cs)
  match filler rest with
  | [] => none
  | c :: rest =>
    if c = closing then pure ([a], rest)
    else if c = ',' then
      match filler rest with
      | [] => none
      | d :: beyond =>
        if trailing && d = closing then pure ([a], beyond)
        else if rest.length < cs.length then do
          let (more, rest) ← readItems? filler closing trailing read rest
          pure (a :: more, rest)
        else none
    else none
termination_by cs.length

/-- A list between brackets that may be empty, after the opening one. -/
def readList? {α : Type} (filler : List Char → List Char) (closing : Char)
    (trailing : Bool) (read : Reader α) (cs : List Char) : Option (List α × List Char) :=
  match filler cs with
  | [] => none
  | c :: rest =>
    if c = closing then some ([], rest) else readItems? filler closing trailing read cs

end Readership.Text
