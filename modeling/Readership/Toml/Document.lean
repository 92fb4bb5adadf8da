import Readership.Toml.Line

/-!
# TOML documents

The lines of a document are taken one after the other. A pair belongs to the
table whose header came last, and to the root if there was none.
-/

namespace Readership.Toml

/-- **A document, read in part**: the path of the table that is open, and all
tables. -/
structure Document where
  current : List String
  root : Members

namespace Document

/-- The document before its first line. -/
def empty : Document := ⟨[], []⟩

/-- A header: something is opened at the end of its path, and stays open. -/
def enter (d : Document) (k : Key)
    (openNode : String → Origin → Members → Option Members) : Option Document := do
  let root ← d.root.change false (openNode k.last) k.path .header
  pure ⟨k.path ++ [k.last], root⟩

/-- **One more line.** -/
def add (d : Document) : Line → Option Document
  | .blank => some d
  | .header k => d.enter k Members.openTable
  | .element k => d.enter k Members.openElement
  | .pair p => do
    let root ← d.root.change false (Members.assign p.key.path p.key.last p.value) d.current .header
    pure { d with root := root }

/-- The document that lines make up. -/
def ofLines? (lines : List Line) : Option Document :=
  lines.foldlM add empty

end Document

/-- A text without the mark of its byte order. -/
def dropByteOrderMark : List Char → List Char
  | c :: rest => if c.toNat = 0xFEFF then rest else c :: rest
  | [] => []

/-- **Reading a document**: the members of its root. -/
def read? (s : String) : Option (List (String × Value)) := do
  let lines ← lines? (dropByteOrderMark s.toList)
  let d ← Document.ofLines? lines
  pure (memberValues d.root)

end Readership.Toml
