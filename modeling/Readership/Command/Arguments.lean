import Readership.Text.Search

/-!
# Arguments of a command line

An argument is an option, by its long name or its letter, with its value
attached or in the argument after it, or it is an operand. What stands after a
lone `--` are operands, whatever they look like. A value in an argument of its
own cannot look like an option. No option may be given twice, and the first
thing that is wrong decides; a request for help or for the version is met
where it stands.
-/

namespace Readership.Command

/-- **An option**, which takes a value. -/
inductive Flag where
  | config
  | logLevel
  | object
  | range
  | data
  | filters
  | format
  | start
  | stop
  | user
deriving DecidableEq, Repr

namespace Flag

/-- Every option. -/
def all : List Flag :=
  [config, logLevel, object, range, data, filters, format, start, stop, user]

/-- The long name of an option. -/
def name : Flag → String
  | config => "config"
  | logLevel => "log-level"
  | object => "object"
  | range => "range"
  | data => "data"
  | filters => "filters"
  | format => "format"
  | start => "start"
  | stop => "end"
  | user => "user"

/-- The letter of an option, if it has one. -/
def letter? : Flag → Option Char
  | config => some 'c'
  | logLevel => some 'l'
  | object => some 'o'
  | range => some 'r'
  | data => some 'd'
  | format => some 'f'
  | user => some 'u'
  | filters | start | stop => none

/-- Whether the value is a path, which cannot be empty. -/
def isPath : Flag → Bool
  | config | data => true
  | _ => false

/-- Whether a text can be the value of an option. -/
def accepts (f : Flag) (value : String) : Bool :=
  !(f.isPath && value == "")

end Flag

/-- **What an argument looks like.** -/
inductive Shape where
  /-- The mark after which there are only operands. -/
  | separator
  /-- A long name, and the value after its sign of equality. -/
  | long (name : String) (value : Option String)
  /-- A letter, and what is attached to it. -/
  | short (letter : Char) (value : Option String)
  | plain (s : String)
deriving DecidableEq, Repr

namespace Shape

/-- The value attached to a letter; a sign of equality may come first. -/
def attached? : List Char → Option String
  | [] => none
  | '=' :: cs => some (String.ofList cs)
  | cs => some (String.ofList cs)

/-- A long name and the value attached to it. -/
def ofLong (cs : List Char) : Shape :=
  match Text.before? ['='] cs with
  | some name => long (String.ofList name) (some (String.ofList (cs.drop (name.length + 1))))
  | none => long (String.ofList cs) none

/-- What an argument looks like. A lone dash looks like nothing special. -/
def ofText (s : String) : Shape :=
  match s.toList with
  | ['-', '-'] => separator
  | '-' :: '-' :: cs => ofLong cs
  | '-' :: c :: cs => short c (attached? cs)
  | _ => plain s

/-- Whether an argument can be the value of the option before it. -/
def isPlain : Shape → Bool
  | plain _ => true
  | _ => false

end Shape

/-- **Why arguments come to an end early.** -/
inductive Stop where
  | help
  | version
  | misuse
deriving DecidableEq, Repr

/-- **What may stand at a place** of the command line. -/
structure Grammar where
  flags : List Flag
  /-- Whether the version can be asked for. -/
  version : Bool
  /-- The words that end this place and begin another. -/
  words : List String
  /-- The number of operands. -/
  operands : Nat

/-- **What was found**: options with their values and operands, both last one
first. -/
structure Found where
  flags : List (Flag × String)
  operands : List String
deriving DecidableEq, Repr

namespace Found

/-- Nothing yet. -/
def empty : Found := ⟨[], []⟩

/-- The value of an option. -/
def value? (found : Found) (f : Flag) : Option String :=
  found.flags.lookup f

/-- One more option. -/
def addFlag (found : Found) (f : Flag) (value : String) : Except Stop Found :=
  if (found.value? f).isSome || !f.accepts value then .error .misuse
  else .ok { found with flags := (f, value) :: found.flags }

/-- One more operand. -/
def addOperand (found : Found) (g : Grammar) (s : String) : Except Stop Found :=
  if found.operands.length < g.operands then
    .ok { found with operands := s :: found.operands }
  else .error .misuse

/-- Operands only. -/
def addOperands (g : Grammar) : Found → List String → Except Stop Found
  | found, [] => .ok found
  | found, s :: rest => do
    let found ← found.addOperand g s
    addOperands g found rest

end Found

namespace Grammar

/-- What an option stands for: a value to come, or an end. -/
inductive Meaning where
  | flag (f : Flag)
  | stop (s : Stop)

/-- The meaning of a long name. -/
def ofName? (g : Grammar) (name : String) : Option Meaning :=
  if name == "help" then some (.stop .help)
  else if g.version && name == "version" then some (.stop .version)
  else (g.flags.find? (·.name == name)).map .flag

/-- The meaning of a letter. -/
def ofLetter? (g : Grammar) (letter : Char) : Option Meaning :=
  if letter = 'h' then some (.stop .help)
  else if g.version && letter = 'V' then some (.stop .version)
  else (g.flags.find? (·.letter? == some letter)).map .flag

/-- What an argument that looks like an option means, and the value that is
attached to it. A long name that takes no value must not have one. -/
def meaning? (g : Grammar) : Shape → Option (Meaning × Option String)
  | .long name value =>
    match g.ofName? name with
    | some (.stop s) => if value.isSome then none else some (.stop s, none)
    | some (.flag f) => some (.flag f, value)
    | none => none
  | .short letter value => (g.ofLetter? letter).map fun meaning => (meaning, value)
  | .separator | .plain _ => none

/-- **Reading arguments** at a place: what is found there, and the word that
begins another place with the arguments after it. -/
def read (g : Grammar) (found : Found) :
    List String → Except Stop (Found × Option (String × List String))
  | [] => .ok (found, none)
  | s :: rest =>
    match Shape.ofText s with
    | .plain s =>
      if g.words.contains s then .ok (found, some (s, rest))
      else do
        let found ← found.addOperand g s
        read g found rest
    | .separator => (found.addOperands g rest).map fun found => (found, none)
    | shape =>
      match g.meaning? shape with
      | none => .error .misuse
      | some (.stop stop, _) => .error stop
      | some (.flag f, some value) => do
        let found ← found.addFlag f value
        read g found rest
      | some (.flag f, none) =>
        match rest with
        | [] => .error .misuse
        | value :: rest =>
          if (Shape.ofText value).isPlain then do
            let found ← found.addFlag f value
            read g found rest
          else .error .misuse

end Grammar

end Readership.Command
