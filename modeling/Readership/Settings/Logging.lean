import Readership.Text.Blank
import Readership.Text.Case
import Readership.Text.Search

/-!
# How much is logged

A level says how much the program logs about itself. The directive made from
it names the program's parts one by one and keeps everything else quiet, but
never quieter than the level asks for. A directive may also be given directly.
-/

namespace Readership

/-- **How much is logged**, the most first. -/
inductive LogLevel where
  | trace
  | debug
  | info
  | warn
  | error
deriving DecidableEq, Repr

/-- The form of log lines. -/
inductive LogFormat where
  | console
  | json
deriving DecidableEq, Repr

/-- **What settings say about the log.** -/
structure LogSettings where
  level : LogLevel
  format : LogFormat
deriving DecidableEq, Repr

namespace LogFormat

/-- Every form. -/
def all : List LogFormat := [console, json]

/-- The word for a form. -/
def name : LogFormat → String
  | console => "console"
  | json => "json"

end LogFormat

namespace LogLevel

/-- Every level. -/
def all : List LogLevel := [trace, debug, info, warn, error]

/-- The word for a level. -/
def name : LogLevel → String
  | trace => "trace"
  | debug => "debug"
  | info => "info"
  | warn => "warn"
  | error => "error"

/-- The other words for a level. -/
def variants : LogLevel → List String
  | warn => ["warning"]
  | _ => []

/-- **The level that a text names**, in small or capital letters and with white
space around it. -/
def ofText? (s : String) : Option LogLevel :=
  let word := Text.lowercaseAscii (Text.trimmed s)
  all.find? fun level => word == level.name || level.variants.contains word

/-- The level of everything that is not the program itself. -/
def ofOthers : LogLevel → LogLevel
  | error => error
  | _ => warn

/-- The parts of the program that log. -/
def parts : List String :=
  ["blogstat", "blogstat_analytics", "blogstat_query", "blogstat_config"]

/-- **The directive of a level.** -/
def directive (level : LogLevel) : String :=
  Text.joinWith "," (level.ofOthers.name :: parts.map fun part => part ++ "=" ++ level.name)

end LogLevel

namespace LogSettings

/-- The settings of the log where nothing is said. -/
def usual : LogSettings := ⟨.info, .console⟩

/-- **The directive in force.** A text that is not blank takes the place of the
level: it names another level, or it is a directive itself. -/
def directive (settings : LogSettings) (override : Option String) : String :=
  match (override.map Text.trimmed).filter (· != "") with
  | none => settings.level.directive
  | some text =>
    match LogLevel.ofText? text with
    | some level => level.directive
    | none => text

end LogSettings

end Readership
