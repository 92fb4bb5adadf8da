import Readership.Filter.Operator
import Readership.Json.Printer
import Readership.Server.Fault

/-!
# What can go wrong with a question

Every way in which a filter, a parameter, a dataset or a query can be refused
is a cause of its own. A message is made from the cause in one place,
`Fault.message`.
-/

namespace Readership

/-- Why a filter document is refused as a whole. -/
inductive FilterFault where
  | unknownOperator (text : String)
  | tooDeep (limit : Nat)
  | notJson
deriving DecidableEq, Repr

/-- **Why a literal does not fit** its field or operator. -/
inductive Mismatch where
  | notAnInteger (got : Json)
  | notAText (got : Json)
  | notAnInstant (got : Json)
  | nullComparison (op : Operator)
  | notAList (got : Json)
  | notAPattern (got : Json)

/-- The parameters of the selectors. -/
inductive Parameter where
  | bucket
  | objectType
  | range
  | topType
  | compareType
deriving DecidableEq, Repr

/-- **Why an entry is refused**: its key is taken, or it refers to something
that is not there. -/
inductive ReferenceFault where
  | countryCodeTaken (code : String)
  | countryNameTaken (name : String)
  | userTaken (id : String)
  | blogTaken (id : Int)
  | ownerMissing (blog : Int) (user : String)
  | blogCountryMissing (blog : Int) (code : String)
  | viewTaken (id : Int)
  | blogMissing (view blog : Int)
  | viewerMissing (view : Int) (user : String)
  | viewerCountryMissing (view : Int) (code : String)
deriving DecidableEq, Repr

/-- Why the rows of a server cannot be understood. -/
inductive ResultFault where
  | missingColumn (name : String)
  | bucketText (text : String)
  | bucketCell (cell : Json)
  | countCell (cell : Json)

/-- Why a dataset cannot be read. -/
inductive DatasetFault where
  | unreadable (path : String)
  | notADataset
deriving DecidableEq, Repr

/-- **A refused question.** -/
inductive Fault where
  | filter (cause : FilterFault)
  | field (path : String)
  | mismatch (field : String) (cause : Mismatch)
  | timeRange (text : String)
  | parameter (parameter : Parameter) (text : String)
  | reference (cause : ReferenceFault)
  | dataset (cause : DatasetFault)
  | result (cause : ResultFault)
  | server (cause : ServerFault)

/-- The message of a refused filter document. -/
def FilterFault.message : FilterFault → String
  | unknownOperator text => "unknown operator: " ++ text
  | tooDeep limit => "filter nested deeper than " ++ Numeral.ofNat limit ++ " levels"
  | notJson => "malformed filter JSON"

/-- The message about a literal that does not fit. -/
def Mismatch.message : Mismatch → String
  | notAnInteger got => "expected an integer, got " ++ got.compact
  | notAText got => "expected a string, got " ++ got.compact
  | notAnInstant got => "expected an ISO-8601 timestamp, got " ++ got.compact
  | nullComparison op => "`" ++ op.key ++ "` cannot compare against null"
  | notAList got => "`in` expects a list of values, got " ++ got.compact
  | notAPattern got => "`contains` expects a string, got " ++ got.compact

/-- The message about a parameter whose text means nothing. -/
def Parameter.message (text : String) : Parameter → String
  | bucket => "unknown time bucket: " ++ text
  | objectType => "unknown object type: " ++ text ++ " (use country or user)"
  | range => "unknown range: " ++ text ++ " (use month, week or year)"
  | topType => "unknown top type: " ++ text ++ " (use user, country or blog)"
  | compareType => "unknown compare type: " ++ text ++ " (use day, week, month or year)"

/-- The message about an entry that is refused. -/
def ReferenceFault.message : ReferenceFault → String
  | countryCodeTaken code => "duplicate country code: " ++ code
  | countryNameTaken name => "duplicate country name: " ++ name
  | userTaken id => "duplicate user: " ++ id
  | blogTaken id => "duplicate blog: " ++ Numeral.ofInt id
  | ownerMissing blog user =>
    "blog " ++ Numeral.ofInt blog ++ " owned by unknown user " ++ user
  | blogCountryMissing blog code =>
    "blog " ++ Numeral.ofInt blog ++ " in unknown country " ++ code
  | viewTaken id => "duplicate view: " ++ Numeral.ofInt id
  | blogMissing view blog =>
    "view " ++ Numeral.ofInt view ++ " of unknown blog " ++ Numeral.ofInt blog
  | viewerMissing view user =>
    "view " ++ Numeral.ofInt view ++ " by unknown user " ++ user
  | viewerCountryMissing view code =>
    "view " ++ Numeral.ofInt view ++ " from unknown country " ++ code

/-- The message about rows that cannot be understood. -/
def ResultFault.message : ResultFault → String
  | missingColumn name => "result is missing column '" ++ name ++ "'"
  | bucketText text => "invalid bucket date: " ++ text
  | bucketCell cell => "invalid bucket date: " ++ cell.compact
  | countCell cell => "invalid count: " ++ cell.compact

/-- The message about a dataset that cannot be read. -/
def DatasetFault.message : DatasetFault → String
  | unreadable path => path ++ ": cannot be read"
  | notADataset => "not a dataset document"

/-- **The message of a refused question.** -/
def Fault.message : Fault → String
  | filter cause => "invalid filter: " ++ cause.message
  | field path => "unknown filter field: " ++ path
  | mismatch path cause => "type mismatch on '" ++ path ++ "': " ++ cause.message
  | timeRange text =>
    "invalid time range: invalid date: " ++ text
      ++ " (use YYYY-MM-DD or an ISO-8601 date-time)"
  | parameter p text => "invalid parameter: " ++ p.message text
  | reference cause => "invalid reference: " ++ cause.message
  | dataset cause => "invalid dataset: " ++ cause.message
  | result cause => "query failed: " ++ cause.message
  | server cause => "backend error: " ++ cause.message

end Readership
