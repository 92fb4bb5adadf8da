import Readership.Fault
import Readership.Report.Format
import Readership.Settings.Source

/-!
# Failed requests

A request fails for a reason of its own, or because settings or a question to
the views were refused. The message is a chain of texts, from what was being
done to the cause of the failure.
-/

namespace Readership.Command

/-- **Why a request fails.** -/
inductive Failure where
  /-- The settings are refused. -/
  | settings (path : String) (cause : SettingsFault)
  /-- The word for the form of the report names none. -/
  | format (word : String)
  | filtersUnreadable (path : String)
  | filtersNotJson
  /-- No dataset is named anywhere. -/
  | noDataset
  /-- No server is named. -/
  | noServer
  | datasetRefused (path : String) (cause : Fault)
  | filterRefused (cause : Fault)
  | filterInapplicable (cause : Fault)
  /-- The question itself is refused. -/
  | refused (cause : Fault)

namespace Failure

/-- What was being done, or what is wrong if no deeper cause is known. -/
def contexts : Failure → List String
  | settings path _ => ["failed to load config from " ++ path]
  | format word => [ReportFormat.unknownMessage word ++ " (use table, json or csv)"]
  | filtersUnreadable path => ["failed to read filters from " ++ path]
  | filtersNotJson => ["filters must be a JSON document"]
  | noDataset => ["no dataset: pass --data or set [query] data_path in the config file"]
  | noServer => [SettingsFault.urlMissing.message]
  | datasetRefused path _ => ["failed to load dataset " ++ path]
  | filterRefused _ => ["invalid filter document"]
  | filterInapplicable _ => ["filter cannot be applied"]
  | refused _ => []

/-- The refused question behind a failure. -/
def cause? : Failure → Option Fault
  | datasetRefused _ cause | filterRefused cause | filterInapplicable cause
  | refused cause => some cause
  | settings _ _ | format _ | filtersUnreadable _ | filtersNotJson | noDataset
  | noServer => none

/-- The message of the cause of a failure. -/
def causeMessage? : Failure → Option String
  | settings _ cause => some cause.message
  | failure => failure.cause?.map Fault.message

/-- **The message of a failure**, from the outside to its cause. -/
def messages (failure : Failure) : List String :=
  failure.contexts ++ failure.causeMessage?.toList

end Failure

end Readership.Command
