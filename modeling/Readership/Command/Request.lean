import Readership.Command.Arguments

/-!
# Requests

The four commands: grouped metrics, rankings, growth, and the inspection of a
filter. Each has options of its own; the settings file and the level of the log
may be named before the command or after it, and after it counts more.
-/

namespace Readership.Command

/-- **What every selector takes**: the dataset, the filter document, and the
word for the form of the report. -/
structure SelectorOptions where
  data : Option String
  filters : Option String
  format : String
deriving DecidableEq, Repr

/-- **A request.** Parameters are still words. -/
inductive Request where
  | grouped (object range : String) (options : SelectorOptions)
  | top (top : String) (start stop : Option String) (options : SelectorOptions)
  | growth (compare : String) (user : Option String) (options : SelectorOptions)
  | inspect (filters format : String)
deriving DecidableEq, Repr

/-- **A call of the program.** -/
structure Call where
  config : Option String
  logLevel : Option String
  request : Request
deriving DecidableEq, Repr

/-- The words for the commands. -/
inductive Word where
  | grouped
  | top
  | growth
  | inspect
deriving DecidableEq, Repr

namespace Word

/-- Every command. -/
def all : List Word := [grouped, top, growth, inspect]

/-- The word itself. -/
def name : Word → String
  | grouped => "grouped"
  | top => "top"
  | growth => "growth"
  | inspect => "inspect"

/-- The command with a name. -/
def ofName? (s : String) : Option Word :=
  all.find? (·.name == s)

/-- The options that may stand anywhere. -/
def globalFlags : List Flag := [.config, .logLevel]

/-- The options of a command. -/
def flags : Word → List Flag
  | grouped => [.object, .range, .data, .filters, .format]
  | top => [.start, .stop, .data, .filters, .format]
  | growth => [.user, .data, .filters, .format]
  | inspect => [.format]

/-- The number of operands of a command. -/
def operands : Word → Nat
  | grouped => 0
  | top | growth | inspect => 1

/-- What may stand after a command. -/
def grammar (w : Word) : Grammar :=
  ⟨w.flags ++ globalFlags, false, [], w.operands⟩

end Word

/-- The word that asks for help. -/
def helpWord : String := "help"

/-- What may stand before a command. -/
def rootGrammar : Grammar :=
  ⟨Word.globalFlags, true, helpWord :: Word.all.map Word.name, 0⟩

/-- The word for the form of a report where none is given. -/
def usualFormat : String := "table"

/-- What was found for a selector. -/
def Found.selectorOptions (found : Found) : SelectorOptions :=
  ⟨found.value? .data, found.value? .filters, (found.value? .format).getD usualFormat⟩

/-- The request that a command and what was found after it make, unless an
operand is missing. -/
def Found.request? (found : Found) : Word → Option Request
  | .grouped =>
    some (.grouped ((found.value? .object).getD "country") ((found.value? .range).getD "month")
      found.selectorOptions)
  | .top => found.operands.head?.map fun top =>
      .top top (found.value? .start) (found.value? .stop) found.selectorOptions
  | .growth => found.operands.head?.map fun compare =>
      .growth compare (found.value? .user) found.selectorOptions
  | .inspect => found.operands.head?.map fun filters =>
      .inspect filters ((found.value? .format).getD usualFormat)

/-- The value of an option that may stand before a command and after it. -/
def globalValue (root found : Found) (f : Flag) : Option String :=
  found.value? f <|> root.value? f

/-- The call that a command makes with the arguments after it. -/
def Word.call (w : Word) (root : Found) (rest : List String) : Except Stop Call := do
  let (found, _) ← w.grammar.read .empty rest
  match found.request? w with
  | some request =>
    pure ⟨globalValue root found .config, globalValue root found .logLevel, request⟩
  | none => .error .misuse

/-- Help is about the program, about one of its commands, or about help. -/
def helpAbout : List String → Stop
  | [] => .help
  | [s] => if s == helpWord || (Word.ofName? s).isSome then .help else .misuse
  | _ => .misuse

/-- **The call that arguments make.** -/
def Call.ofArguments (arguments : List String) : Except Stop Call := do
  let (root, next) ← rootGrammar.read .empty arguments
  match next with
  | none => .error .misuse
  | some (word, rest) =>
    if word == helpWord then .error (helpAbout rest)
    else
      match Word.ofName? word with
      | some w => w.call root rest
      | none => .error .misuse

end Readership.Command
