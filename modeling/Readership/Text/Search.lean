/-!
# Looking for one text in another

Substring tests, cuts at the first occurrence, and splits at a separator, on
texts as lists of characters.
-/

namespace Readership.Text

/-- **An occurrence.** Whether `needle` stands in the text as it is. -/
def occursIn (needle : List Char) : List Char → Bool
  | [] => needle.isEmpty
  | c :: rest => needle.isPrefixOf (c :: rest) || occursIn needle rest

/-- The text before the first occurrence of `mark`, if there is one. -/
def before? (mark : List Char) : List Char → Option (List Char)
  | [] => if mark.isEmpty then some [] else none
  | c :: rest =>
    if mark.isPrefixOf (c :: rest) then some [] else (before? mark rest).map (c :: ·)

/-- The text after `mark`, if the text starts with it. -/
def after? (mark : List Char) (cs : List Char) : Option (List Char) :=
  if mark.isPrefixOf cs then some (cs.drop mark.length) else none

/-- **The pieces between separators**; a text without one is its only piece. -/
def splitAt (separator : Char) : List Char → List (List Char)
  | [] => [[]]
  | c :: rest =>
    if c = separator then [] :: splitAt separator rest
    else match splitAt separator rest with
      | [] => [[c]]
      | piece :: pieces => (c :: piece) :: pieces

/-- Texts one after the other with a separator between neighbours. -/
def joinWith (separator : String) : List String → String
  | [] => ""
  | [s] => s
  | s :: t :: rest => s ++ separator ++ joinWith separator (t :: rest)

theorem splitAt_ne_nil (separator : Char) (cs : List Char) : splitAt separator cs ≠ [] := by
  cases cs with
  | nil => simp [splitAt]
  | cons c rest =>
    by_cases h : c = separator
    · simp [splitAt, h]
    · simp only [splitAt, h, if_false]
      split <;> simp

@[simp] theorem joinWith_nil (separator : String) : joinWith separator [] = "" := rfl

@[simp] theorem joinWith_singleton (separator s : String) : joinWith separator [s] = s := rfl

@[simp] theorem joinWith_cons_cons (separator s t : String) (rest : List String) :
    joinWith separator (s :: t :: rest) = s ++ separator ++ joinWith separator (t :: rest) :=
  rfl

end Readership.Text
