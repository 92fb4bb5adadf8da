import Readership.Number.Numeral
import Readership.Text.Search

/-!
# Where views come from

Views come from a dataset file, which is loaded into memory, or from a table of
a database server. Settings say which, and must be complete for it: a file
needs its path, a server its URL, and a user name and a password belong
together. The name of the table enters statements, so it is kept to one or two
plain identifiers.
-/

namespace Readership

/-- **The kinds of sources.** -/
inductive SourceKind where
  /-- A dataset in memory. -/
  | memory
  /-- A table of a server. -/
  | server
deriving DecidableEq, Repr

/-- **What settings say about the source of views.** -/
structure SourceSettings where
  kind : SourceKind
  dataPath : Option String
  url : Option String
  database : String
  table : String
  username : Option String
  password : Option String
  /-- The time in seconds after which the server gives up. -/
  maxExecutionTime : Nat
deriving DecidableEq, Repr

/-- **Why settings are refused.** -/
inductive SettingsFault where
  /-- Their file cannot be read. -/
  | unreadable (path : String)
  /-- Their text is not a document of the expected form. -/
  | malformed
  | dataPathMissing
  | urlMissing
  | urlUnusable (url : String)
  | credentialsIncomplete
  | noExecutionTime
  | tableName (table : String)
deriving DecidableEq, Repr

/-- The word for a kind of source. -/
def SourceKind.name : SourceKind → String
  | memory => "memory"
  | server => "clickhouse"

/-- Every kind of source. -/
def SourceKind.all : List SourceKind := [.memory, .server]

namespace SettingsFault

/-- The message about a key that a kind of source needs. -/
def missing (kind : SourceKind) (key : String) : String :=
  "[query] backend '" ++ kind.name ++ "' requires '" ++ key ++ "'"

/-- The message about a key with a value that cannot be used. -/
def invalid (key reason : String) : String :=
  "[query] has invalid " ++ key ++ ": " ++ reason

/-- **The message about settings that are refused.** -/
def message : SettingsFault → String
  | unreadable path => "failed to read config file '" ++ path ++ "'"
  | malformed => "failed to parse config"
  | dataPathMissing => missing .memory "data_path"
  | urlMissing => missing .server "url"
  | urlUnusable url => invalid "url" ("'" ++ url ++ "' is not an http(s) URL")
  | credentialsIncomplete =>
    invalid "username" "username and password must be set together"
  | noExecutionTime => invalid "max_execution_time" "must be greater than zero"
  | tableName table => invalid "table" ("'" ++ table ++ "' is not a plain identifier")

end SettingsFault

/-- The first character of an identifier. -/
def isIdentifierStart (c : Char) : Bool :=
  c.isAlpha || c = '_'

/-- The other characters of an identifier. -/
def isIdentifierChar (c : Char) : Bool :=
  c.isAlphanum || c = '_'

/-- **A plain identifier.** -/
def isIdentifier : List Char → Bool
  | [] => false
  | c :: rest => isIdentifierStart c && rest.all isIdentifierChar

/-- **The name of a table**: an identifier, perhaps after that of a database and
a dot. -/
def isTableName (s : String) : Bool :=
  let parts := Text.splitAt '.' s.toList
  parts.length ≤ 2 && parts.all isIdentifier

/-- Whether a URL is one of HTTP. -/
def isHttpUrl (url : String) : Bool :=
  "http://".toList.isPrefixOf url.toList || "https://".toList.isPrefixOf url.toList

namespace SourceSettings

/-- The settings of the source where nothing is said. -/
def usual : SourceSettings :=
  { kind := .memory, dataPath := none, url := none, database := "default",
    table := "blog_views", username := none, password := none, maxExecutionTime := 60 }

/-- What a dataset in memory lacks. -/
def memoryFault? (s : SourceSettings) : Option SettingsFault :=
  if s.dataPath.isNone then some .dataPathMissing else none

/-- What a server lacks. -/
def serverFault? (s : SourceSettings) : Option SettingsFault :=
  match s.url with
  | none => some .urlMissing
  | some url =>
    if !isHttpUrl url then some (.urlUnusable url)
    else if s.username.isSome != s.password.isSome then some .credentialsIncomplete
    else none

/-- What the source in use lacks. -/
def kindFault? (s : SourceSettings) : Option SettingsFault :=
  match s.kind with
  | .memory => s.memoryFault?
  | .server => s.serverFault?

/-- **The first thing that is wrong** with the settings of a source. What the
kind of source needs is looked at first. -/
def fault? (s : SourceSettings) : Option SettingsFault :=
  match s.kindFault? with
  | some fault => some fault
  | none =>
    if s.maxExecutionTime = 0 then some .noExecutionTime
    else if !isTableName s.table then some (.tableName s.table)
    else none

end SourceSettings

end Readership
