import Readership.Json.NumberLexeme

/-!
# Tokens of a JSON text

The characters of a text go one by one through a small machine that is either
between tokens or inside one of three kinds: a word, a number, a string. A
token is delivered when its last character is seen, a number when the
character after it is seen.
-/

namespace Readership.Json

/-- **A token.** Numbers and strings carry what they denote, if anything. -/
inductive Token where
  | openArray
  | closeArray
  | openObject
  | closeObject
  | comma
  | colon
  | null
  | bool (b : Bool)
  | num (n : Option Number)
  | str (s : Option String)

/-- A piece of a string: a character, or a 16-bit unit spelled by `\u`. -/
inductive Piece where
  | char (c : Char)
  | unit (u : Nat)
deriving DecidableEq, Repr

namespace Piece

/-- Units that come first in a pair. -/
def isLeading (u : Nat) : Bool := 0xD800 ≤ u && u ≤ 0xDBFF

/-- Units that come second in a pair. -/
def isTrailing (u : Nat) : Bool := 0xDC00 ≤ u && u ≤ 0xDFFF

/-- **The characters of a string.** Two units of a pair are one character; a
unit of a pair without its partner denotes nothing. -/
def decode : List Piece → Option (List Char)
  | [] => some []
  | .char c :: rest => (decode rest).map (c :: ·)
  | .unit u :: .unit v :: rest =>
    if isLeading u then
      if isTrailing v then
        (decode rest).map (Char.ofNat (0x10000 + (u - 0xD800) * 1024 + (v - 0xDC00)) :: ·)
      else none
    else if isTrailing u then none
    else (decode (.unit v :: rest)).map (Char.ofNat u :: ·)
  | .unit u :: rest =>
    if isLeading u || isTrailing u then none else (decode rest).map (Char.ofNat u :: ·)

end Piece

/-- The part of a number that has been read; digits stand last one first. -/
inductive NumberPhase where
  /-- After a minus sign. -/
  | sign
  /-- After a leading zero, which is the whole integer part. -/
  | zero
  /-- Within the integer part. -/
  | whole (digits : List Char)
  /-- After the decimal point. -/
  | point (whole : List Char)
  /-- Within the decimals. -/
  | decimals (whole digits : List Char)
  /-- After the letter of the exponent. -/
  | exponent (whole : List Char) (decimals : Option (List Char))
  /-- After the sign of the exponent. -/
  | exponentSign (whole : List Char) (decimals : Option (List Char)) (negative : Bool)
  /-- Within the exponent. -/
  | exponentDigits (whole : List Char) (decimals : Option (List Char)) (negative : Bool)
      (digits : List Char)

namespace NumberPhase

/-- The phase after one more character, if the number goes on. -/
def next (c : Char) : NumberPhase → Option NumberPhase
  | sign =>
    if c = '0' then some .zero else if c.isDigit then some (.whole [c]) else none
  | zero =>
    if c = '.' then some (.point ['0'])
    else if c = 'e' || c = 'E' then some (.exponent ['0'] none)
    else none
  | whole ds =>
    if c.isDigit then some (.whole (c :: ds))
    else if c = '.' then some (.point ds)
    else if c = 'e' || c = 'E' then some (.exponent ds none)
    else none
  | point ws => if c.isDigit then some (.decimals ws [c]) else none
  | decimals ws ds =>
    if c.isDigit then some (.decimals ws (c :: ds))
    else if c = 'e' || c = 'E' then some (.exponent ws (some ds))
    else none
  | exponent ws fs =>
    if c.isDigit then some (.exponentDigits ws fs false [c])
    else if c = '+' then some (.exponentSign ws fs false)
    else if c = '-' then some (.exponentSign ws fs true)
    else none
  | exponentSign ws fs negative =>
    if c.isDigit then some (.exponentDigits ws fs negative [c]) else none
  | exponentDigits ws fs negative ds =>
    if c.isDigit then some (.exponentDigits ws fs negative (c :: ds)) else none

/-- The number, if it may end here. -/
def lexeme? (negative : Bool) : NumberPhase → Option NumberLexeme
  | zero => some ⟨negative, ['0'], none, none⟩
  | whole ds => some ⟨negative, ds.reverse, none, none⟩
  | decimals ws ds => some ⟨negative, ws.reverse, some ds.reverse, none⟩
  | exponentDigits ws fs en ds =>
    some ⟨negative, ws.reverse, fs.map List.reverse, some (en, ds.reverse)⟩
  | sign | point _ | exponent _ _ | exponentSign _ _ _ => none

end NumberPhase

/-- **Where the machine stands.** Pieces of a string stand last one first. -/
inductive LexState where
  | between
  | word (rest : List Char) (token : Token)
  | number (negative : Bool) (phase : NumberPhase)
  | string (pieces : List Piece)
  | escape (pieces : List Piece)
  | unicode (pieces : List Piece) (unit : Nat) (digitsLeft : Nat)

namespace LexState

/-- The white space of JSON. -/
def isSpace (c : Char) : Bool :=
  c = ' ' || c = '\n' || c = '\t' || c = '\r'

/-- The character that a one-letter escape stands for. -/
def escaped? (c : Char) : Option Char :=
  match c with
  | '"' => some '"'
  | '\\' => some '\\'
  | '/' => some '/'
  | 'b' => some (Char.ofNat 8)
  | 'f' => some (Char.ofNat 12)
  | 'n' => some '\n'
  | 'r' => some '\r'
  | 't' => some '\t'
  | _ => none

/-- The first character of a token, or white space: a token that is one
character long, and the state after it. -/
def start (c : Char) : Option (List Token × LexState) :=
  if isSpace c then some ([], .between)
  else match c with
    | '[' => some ([.openArray], .between)
    | ']' => some ([.closeArray], .between)
    | '\x7b' => some ([.openObject], .between)
    | '\x7d' => some ([.closeObject], .between)
    | ',' => some ([.comma], .between)
    | ':' => some ([.colon], .between)
    | 'n' => some ([], .word ['u', 'l', 'l'] .null)
    | 't' => some ([], .word ['r', 'u', 'e'] (.bool true))
    | 'f' => some ([], .word ['a', 'l', 's', 'e'] (.bool false))
    | '"' => some ([], .string [])
    | '-' => some ([], .number true .sign)
    | '0' => some ([], .number false .zero)
    | _ => if c.isDigit then some ([], .number false (.whole [c])) else none

/-- **One character.** The tokens it completes and the state after it. -/
def step (c : Char) : LexState → Option (List Token × LexState)
  | between => start c
  | word rest token =>
    match rest with
    | [last] => if c = last then some ([token], .between) else none
    | letter :: more => if c = letter then some ([], .word more token) else none
    | [] => none
  | number negative phase =>
    match phase.next c with
    | some phase => some ([], .number negative phase)
    | none => do
      let lexeme ← phase.lexeme? negative
      let (tokens, state) ← start c
      pure (.num lexeme.number? :: tokens, state)
  | string pieces =>
    if c = '"' then
      some ([.str ((Piece.decode pieces.reverse).map String.ofList)], .between)
    else if c = '\\' then some ([], .escape pieces)
    else if c.toNat < 32 then none
    else some ([], .string (.char c :: pieces))
  | escape pieces =>
    if c = 'u' then some ([], .unicode pieces 0 4)
    else (escaped? c).map fun plain => ([], .string (.char plain :: pieces))
  | unicode pieces unit digitsLeft => do
    let digit ← Numeral.hexValue? c
    let unit := 16 * unit + digit
    if digitsLeft ≤ 1 then pure ([], .string (.unit unit :: pieces))
    else pure ([], .unicode pieces unit (digitsLeft - 1))

/-- The tokens that the end of the text completes. -/
def finish : LexState → Option (List Token)
  | between => some []
  | number negative phase => (phase.lexeme? negative).map fun lexeme => [.num lexeme.number?]
  | word _ _ | string _ | escape _ | unicode _ _ _ => none

/-- The tokens of the characters that follow, after those already complete,
which stand last one first. -/
def run (state : LexState) (done : List Token) : List Char → Option (List Token)
  | [] => state.finish.map fun last => done.reverse ++ last
  | c :: rest =>
    match state.step c with
    | some (tokens, state) => run state (tokens.reverse ++ done) rest
    | none => none

end LexState

/-- **The tokens of a text**, if it has no others. -/
def tokens? (cs : List Char) : Option (List Token) :=
  LexState.between.run [] cs

end Readership.Json
