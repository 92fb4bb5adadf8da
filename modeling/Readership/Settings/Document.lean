import Readership.Settings.Logging
import Readership.Settings.Source
import Readership.Toml.Document

/-!
# Settings from a document

Settings are a TOML document with a section on the log and one on the source of
views. Every key may be left out, and unknown keys are passed over. Settings
for a dataset in memory that name no file are accepted as they are, since the
file can still be named when the program is called.
-/

namespace Readership

open Toml (Value)

/-- **Settings.** -/
structure Settings where
  log : LogSettings
  source : SourceSettings
deriving DecidableEq, Repr

namespace Toml.Value

/-- **The fields of a section**, in the order of their names; `none` stands for
a field that is left out. A section may also be an array of its fields in
order, which may end early or run on; a moment has none of the fields. -/
def fields? (names : List String) : Value → Option (List (Option Value))
  | .table members => some (names.map fun name => members.lookup name)
  | .array items => some ((List.range names.length).map fun i => items[i]?)
  | .moment _ => some (names.map fun _ => none)
  | _ => none

/-- A text. -/
def text? : Value → Option String
  | .text s => some s
  | _ => none

/-- A natural number. -/
def natural? : Value → Option Nat
  | .integer n => if 0 ≤ n then some n.toNat else none
  | _ => none

/-- Whether a value holds nothing. -/
def isHollow : Value → Bool
  | .table [] => true
  | .array [] => true
  | _ => false

/-- The name of a case without contents: a text, or a table whose only key it is
and whose value holds nothing. -/
def caseName? : Value → Option String
  | .text s => some s
  | .table [(name, content)] => if content.isHollow then some name else none
  | _ => none

/-- The case that a value names, among some. -/
def case? {α : Type} (all : List α) (name : α → String) (v : Value) : Option α := do
  let word ← v.caseName?
  all.find? fun a => name a == word

end Toml.Value

/-- A field that may be left out: what stands there, or what is usual. -/
def fieldOr {α : Type} (usual : α) (read? : Value → Option α) : Option Value → Option α
  | none => some usual
  | some v => read? v

/-- A field that may be left out and then has no value. -/
def optionalField {α : Type} (read? : Value → Option α) (v : Option Value) :
    Option (Option α) :=
  fieldOr none (fun v => (read? v).map some) v

/-- The settings of the log from their section. -/
def LogSettings.ofValue? (v : Value) : Option LogSettings := do
  match ← v.fields? ["level", "format"] with
  | [level, format] =>
    pure
      { level := ← fieldOr usual.level (Value.case? LogLevel.all LogLevel.name) level
        format := ← fieldOr usual.format (Value.case? LogFormat.all LogFormat.name) format }
  | _ => none

/-- The keys of the section on the source. -/
def SourceSettings.keys : List String :=
  ["backend", "data_path", "url", "database", "table", "username", "password",
    "max_execution_time"]

/-- The settings of the source from their section. -/
def SourceSettings.ofValue? (v : Value) : Option SourceSettings := do
  match ← v.fields? keys with
  | [kind, dataPath, url, database, table, username, password, maxExecutionTime] =>
    pure
      { kind := ← fieldOr usual.kind (Value.case? SourceKind.all SourceKind.name) kind
        dataPath := ← optionalField Value.text? dataPath
        url := ← optionalField Value.text? url
        database := ← fieldOr usual.database Value.text? database
        table := ← fieldOr usual.table Value.text? table
        username := ← optionalField Value.text? username
        password := ← optionalField Value.text? password
        maxExecutionTime :=
          ← fieldOr usual.maxExecutionTime Value.natural? maxExecutionTime }
  | _ => none

namespace Settings

/-- The settings where nothing is said. -/
def usual : Settings := ⟨.usual, .usual⟩

/-- Settings from a document, not looked at further. -/
def ofValue? (v : Value) : Option Settings := do
  match ← v.fields? ["log", "query"] with
  | [log, source] =>
    pure
      { log := ← fieldOr LogSettings.usual LogSettings.ofValue? log
        source := ← fieldOr SourceSettings.usual SourceSettings.ofValue? source }
  | _ => none

/-- What is wrong with settings. -/
def fault? (s : Settings) : Option SettingsFault :=
  if s.source.kind = .memory ∧ s.source.dataPath = none then none else s.source.fault?

/-- **Settings that are accepted.** -/
def accept (s : Settings) : Except SettingsFault Settings :=
  match s.fault? with
  | some fault => .error fault
  | none => .ok s

/-- **Settings from the text of a document.** -/
def ofText (text : String) : Except SettingsFault Settings :=
  match (Toml.read? text).bind fun members => ofValue? (.table members) with
  | some settings => accept settings
  | none => .error .malformed

end Settings

end Readership
