import Readership.Command.Failure
import Readership.Command.Request
import Readership.Filter.Document
import Readership.Metric.Selector
import Readership.Report.Inspection
import Readership.Report.Metrics
import Readership.Settings.Document

/-!
# Answering requests

A request is answered in a fixed order, and the first thing that is wrong ends
it: the parameters of the command, the form of the report, the filter document,
the source of the views, and then the question to the views itself. Reading
files and posting to a server is left to a host.
-/

namespace Readership

/-- **What the program needs from outside**: the text of a file, if it can be
read, and a way to post requests. -/
structure Host (m : Type → Type) where
  fileText : String → m (Option String)
  post : Post m

/-- The connection to the server that settings name. -/
def SourceSettings.connection (s : SourceSettings) (url : String) : Connection :=
  { Connection.toUrl url with
    database := s.database
    credentials := do
      let user ← s.username
      let password ← s.password
      pure (user, password)
    maxExecutionTime := s.maxExecutionTime }

namespace Command

/-- **What a request comes to**: the text of its report, and the name of the
store that was asked, if one was. -/
structure Reply where
  text : String
  store : Option String
deriving DecidableEq, Repr

variable {m : Type → Type} [Monad m]

/-- A computation that a failure ends, or that breaks off. -/
abbrev Answering (m : Type → Type) : Type → Type := ExceptT Failure (OptionT m)

/-- Something that must be there. -/
def demand {α : Type} (failure : Failure) : Option α → Answering m α
  | some a => pure a
  | none => throw failure

/-- Something that may have been refused. -/
def settle {α : Type} (failure : Fault → Failure) : Except Fault α → Answering m α
  | .ok a => pure a
  | .error cause => throw (failure cause)

/-- The text of a file. -/
def fileText (host : Host m) (path : String) : Answering m (Option String) :=
  ExceptT.lift (OptionT.lift (host.fileText path))

/-- The form of a report. -/
def formatOf (word : String) : Answering m ReportFormat :=
  demand (.format word) (ReportFormat.ofText? word)

/-- The text of a filter document, given itself or, after `@`, by the path of its
file. -/
def filterText (host : Host m) (given : String) : Answering m String :=
  match given.toList with
  | '@' :: path => do
    let path := String.ofList path
    demand (.filtersUnreadable path) (← fileText host path)
  | _ => pure given

/-- A filter document. -/
def filterDocument (host : Host m) (given : String) : Answering m Json := do
  let text ← filterText host given
  demand .filtersNotJson (Json.read? text)

/-- A filter document, or none. -/
def filterDocument? (host : Host m) : Option String → Answering m (Option Json)
  | none => pure none
  | some given => do
    let document ← filterDocument host given
    pure (some document)

/-- The store of a dataset file. -/
def datasetStore (host : Host m) (path : String) : Answering m (Store (OptionT m)) := do
  match ← fileText host path with
  | none => throw (.datasetRefused path (.dataset (.unreadable path)))
  | some text => do
    let tables ← settle (.datasetRefused path) (Tables.ofText text)
    pure (.ofTables? tables)

/-- **The store to ask.** A dataset named in the call comes before everything
that settings say. -/
def storeOf (host : Host m) (source : SourceSettings) (data : Option String) :
    Answering m (Store (OptionT m)) :=
  match data with
  | some path => datasetStore host path
  | none =>
    match source.kind with
    | .memory => do
      let path ← demand .noDataset source.dataPath
      datasetStore host path
    | .server => do
      let url ← demand .noServer source.url
      let post : Post (OptionT m) := fun request => OptionT.lift (host.post request)
      pure (.ofDatabase ((source.connection url).toDatabase post) source.table)

/-- The report of a selector, given what it asks of a store with a filter. -/
def selectorReport (host : Host m) (source : SourceSettings) (options : SelectorOptions)
    (titles : Report.Titles)
    (ask : Store (OptionT m) → Option Json → OptionT m (Except Fault (List MetricRow))) :
    Answering m Reply := do
  let format ← formatOf options.format
  let document ← filterDocument? host options.filters
  let store ← storeOf host source options.data
  let rows ← ExceptT.lift (ask store document)
  let rows ← settle .refused rows
  pure ⟨Report.text format titles rows, some store.name⟩

/-- The report on a filter. -/
def inspectionReport (host : Host m) (filters format : String) : Answering m Reply := do
  let document ← filterDocument host filters
  let compiled ← settle .filterRefused (Filter.compile (some document))
  let inspection ← settle .filterInapplicable
    (Report.Inspection.ofPredicate compiled.predicate)
  pure ⟨inspection.text format, none⟩

/-- **Answering a request** with the source of views that settings name. -/
def Request.answer (host : Host m) (source : SourceSettings) : Request → Answering m Reply
  | .grouped objectWord rangeWord options => do
    let object ← settle .refused (ObjectType.parse objectWord)
    let range ← settle .refused (RangeType.parse rangeWord)
    selectorReport host source options (Report.groupedTitles object)
      fun store document => store.groupedMetrics object range document
  | .top word start stop options => do
    let ranked ← settle .refused (TopType.parse word)
    selectorReport host source options (Report.rankingTitles ranked)
      fun store document => store.topRanked ranked start stop document
  | .growth word user options => do
    let width ← settle .refused (CompareType.parse word)
    selectorReport host source options Report.growthTitles
      fun store document => store.timeSeries width user document
  | .inspect filters format => inspectionReport host filters format

/-- The settings that a call names, or the usual ones. -/
def settingsOf (host : Host m) : Option String → Answering m Settings
  | none => pure .usual
  | some path => do
    match ← fileText host path with
    | none => throw (.settings path (.unreadable path))
    | some text =>
      match Settings.ofText text with
      | .ok settings => pure settings
      | .error cause => throw (.settings path cause)

/-- **Answering a call.** Settings come before everything else. -/
def Call.answer (host : Host m) (call : Call) : Answering m Reply := do
  let settings ← settingsOf host call.config
  call.request.answer host settings.source

end Command

end Readership
