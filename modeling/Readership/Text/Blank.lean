/-!
# White space

Field paths, dates and parameters are read with the white space around them
left out. What counts as white space is the property `White_Space` of
Unicode, so a no-break space or an ideographic space is dropped like a plain
one; the classes of the core library know the ASCII part only.
-/

namespace Readership.Text

/-- **White space** is the property `White_Space` of Unicode: twenty-five
characters in ten runs. -/
def isBlank (c : Char) : Bool :=
  let n := c.toNat
  (9 ≤ n && n ≤ 13) || n == 0x20 || n == 0x85 || n == 0xA0 || n == 0x1680
    || (0x2000 ≤ n && n ≤ 0x200A) || n == 0x2028 || n == 0x2029 || n == 0x202F
    || n == 0x205F || n == 0x3000

/-- The characters from the first one that is not white space. -/
def trimStart (cs : List Char) : List Char :=
  cs.dropWhile isBlank

/-- The characters up to the last one for which `p` fails. -/
def dropTrailing (p : Char → Bool) (cs : List Char) : List Char :=
  (cs.reverse.dropWhile p).reverse

/-- The characters up to the last one that is not white space. -/
def trimEnd (cs : List Char) : List Char :=
  dropTrailing isBlank cs

/-- The characters between the white space at either end. -/
def trim (cs : List Char) : List Char :=
  trimEnd (trimStart cs)

/-- A text without the white space at either end. -/
def trimmed (s : String) : String :=
  String.ofList (trim s.toList)

/-- A text that holds nothing but white space. -/
def isBlankText (s : String) : Bool :=
  s.toList.all isBlank

@[simp] theorem trimStart_nil : trimStart [] = [] := rfl

@[simp] theorem dropTrailing_nil (p : Char → Bool) : dropTrailing p [] = [] := rfl

/-- A run of characters that all satisfy `p` disappears from the end. -/
theorem dropTrailing_append_of_all {p : Char → Bool} (cs : List Char) {tail : List Char}
    (h : ∀ c ∈ tail, p c = true) : dropTrailing p (cs ++ tail) = dropTrailing p cs := by
  have hr : ∀ c ∈ tail.reverse, p c = true := fun c hc => h c (List.mem_reverse.1 hc)
  simp [dropTrailing, List.reverse_append, List.dropWhile_append_of_pos hr]

/-- A last character that fails `p` is kept with all before it. -/
theorem dropTrailing_concat_of_not {p : Char → Bool} (cs : List Char) {c : Char}
    (h : p c = false) : dropTrailing p (cs ++ [c]) = cs ++ [c] := by
  simp [dropTrailing, h]

end Readership.Text
