import Readership.Json.Token
import Readership.Json.Written

/-!
# Reading JSON texts

The tokens of a text are read from left to right with a stack of the arrays and
objects that are open. A text is accepted if exactly one value is complete and
nothing is open when the tokens end.
-/

namespace Readership.Json

/-- **An open array or object**, with its complete items last one first. -/
inductive OpenFrame where
  /-- An array. -/
  | items (done : List Written)
  /-- An object between two members. -/
  | members (done : List (Option String × Written))
  /-- An object after a key and its colon. -/
  | member (done : List (Option String × Written)) (key : Option String)

/-- **What may come next.** -/
inductive Expectation where
  /-- A value. -/
  | value
  /-- The first item of an array, or its end. -/
  | firstItem
  /-- The first key of an object, or its end. -/
  | firstKey
  /-- A key. -/
  | key
  /-- The colon after a key. -/
  | colon (key : Option String)
  /-- Whatever follows a complete value. -/
  | after (value : Written)

/-- The state of reading: the open frames, innermost first. -/
structure ReadState where
  frames : List OpenFrame
  expects : Expectation

namespace ReadState

/-- A token that begins a value. -/
def beginValue (frames : List OpenFrame) : Token → Option ReadState
  | .null => some ⟨frames, .after .null⟩
  | .bool b => some ⟨frames, .after (.bool b)⟩
  | .num n => some ⟨frames, .after (.num n)⟩
  | .str s => some ⟨frames, .after (.str s)⟩
  | .openArray => some ⟨.items [] :: frames, .firstItem⟩
  | .openObject => some ⟨.members [] :: frames, .firstKey⟩
  | .closeArray | .closeObject | .comma | .colon => none

/-- A token after a complete value. -/
def afterValue (value : Written) : List OpenFrame → Token → Option ReadState
  | .items done :: frames, .comma => some ⟨.items (value :: done) :: frames, .value⟩
  | .items done :: frames, .closeArray =>
    some ⟨frames, .after (.arr (value :: done).reverse)⟩
  | .member done key :: frames, .comma =>
    some ⟨.members ((key, value) :: done) :: frames, .key⟩
  | .member done key :: frames, .closeObject =>
    some ⟨frames, .after (.obj ((key, value) :: done).reverse)⟩
  | _, _ => none

/-- **One token.** -/
def step (state : ReadState) (token : Token) : Option ReadState :=
  match state.expects, token with
  | .after value, _ => afterValue value state.frames token
  | .value, _ => beginValue state.frames token
  | .firstItem, .closeArray =>
    match state.frames with
    | .items done :: frames => some ⟨frames, .after (.arr done.reverse)⟩
    | _ => none
  | .firstItem, _ => beginValue state.frames token
  | .firstKey, .closeObject =>
    match state.frames with
    | .members done :: frames => some ⟨frames, .after (.obj done.reverse)⟩
    | _ => none
  | .firstKey, .str key => some ⟨state.frames, .colon key⟩
  | .key, .str key => some ⟨state.frames, .colon key⟩
  | .colon key, .colon =>
    match state.frames with
    | .members done :: frames => some ⟨.member done key :: frames, .value⟩
    | _ => none
  | _, _ => none

/-- The value of a text whose tokens have all been read. -/
def result? : ReadState → Option Written
  | ⟨[], .after value⟩ => some value
  | _ => none

/-- The state after more tokens. -/
def run (state : ReadState) : List Token → Option ReadState
  | [] => some state
  | token :: rest =>
    match state.step token with
    | some state => run state rest
    | none => none

end ReadState

/-- The text that tokens make up. -/
def ofTokens? (tokens : List Token) : Option Written := do
  let state ← (ReadState.mk [] .value).run tokens
  state.result?

/-- **Reading a text** as it is written. -/
def written? (s : String) : Option Written := do
  let tokens ← tokens? s.toList
  ofTokens? tokens

/-- **Reading the value of a text.** -/
def read? (s : String) : Option Json := do
  let text ← written? s
  text.value? maxDepth

end Readership.Json
