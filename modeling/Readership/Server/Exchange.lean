import Readership.Server.Answer
import Readership.Url.Host
import Readership.Sql.Guard
import Readership.Text.Base64
import Readership.Text.Diagnostic

/-!
# Talking to a server

A statement is posted over HTTP with a few settings, of which one forbids
writing, and what comes back decides the outcome. The network is not part of
this module: a request is a value, and so is whatever became of it, so that
the whole conversation is a function.
-/

namespace Readership

/-- **Where the server is** and how it is used. -/
structure Connection where
  url : String
  database : String
  /-- User name and password. -/
  credentials : Option (String × String)
  /-- The time in seconds after which the server gives up. -/
  maxExecutionTime : Nat
deriving DecidableEq, Repr

/-- **A request**, posted to the server. -/
structure Request where
  settings : List (String × String)
  authorization : Option String
  statement : String
deriving DecidableEq, Repr

/-- **What became of a request.** -/
inductive Delivery where
  /-- It never arrived. -/
  | unreachable
  /-- No answer came in time. -/
  | late
  /-- An answer began and broke off. -/
  | broken
  /-- An answer arrived, with a status and a body. -/
  | answered (status : Nat) (body : String)
deriving DecidableEq, Repr

namespace Connection

/-- The connection to the default database of a server, nobody logged in. -/
def toUrl (url : String) : Connection :=
  ⟨url, "default", none, 60⟩

/-- The settings of every request. Reading only, but with the settings beside
it in force. -/
def settings (c : Connection) : List (String × String) :=
  [("database", c.database), ("readonly", "2"),
    ("max_execution_time", Numeral.ofNat c.maxExecutionTime),
    ("output_format_json_quote_64bit_integers", "0")]

/-- The header that names the user. -/
def authorization (c : Connection) : Option String :=
  c.credentials.map fun (user, password) => "Basic " ++ Text.base64 (user ++ ":" ++ password)

/-- The seconds after which the asking side gives up: a little later than the
server. -/
def timeout (c : Connection) : Nat :=
  c.maxExecutionTime + 5

/-- Whether the URL has a scheme and a host, without which nothing can be sent. -/
def isUsable (c : Connection) : Bool :=
  (Url.host? c.url.toList).isSome

/-- The request that posts a statement. -/
def request (c : Connection) (statement : String) : Request :=
  ⟨c.settings, c.authorization, statement⟩

/-- **The statement that is sent for a text**: without white space around it,
without semicolons at its end, and with the form of the answer. -/
def statementChars (cs : List Char) : List Char :=
  Sql.dropSemicolons (Text.trim cs) ++ " FORMAT JSONCompact".toList

/-- The statement that asks for nothing but a sign of life. -/
def healthStatement : String := "SELECT 1"

/-- How diagnostics show a connection; the password stays out. -/
def diagnostic (c : Connection) : String :=
  "ClickHouseBackend \x7b url: " ++ Text.diagnostic c.url
    ++ ", database: " ++ Text.diagnostic c.database
    ++ ", authenticated: " ++ (if c.credentials.isSome then "true" else "false") ++ " \x7d"

end Connection

/-- **The message in the body of an error.** Its first line, up to the version
of the server. -/
def exceptionChars (body : List Char) : List Char :=
  let line := Text.trim ((Text.trim body).takeWhile (· != '\n'))
  (Text.before? " (version ".toList line).getD line

/-- What became of a request, as the body of a successful answer. -/
def Delivery.body : Delivery → Except ServerFault String
  | unreachable => .error (.connection "no route to the server")
  | late => .error (.timeout "no answer in time")
  | broken => .error (.answer "the answer breaks off")
  | answered status body =>
    if 200 ≤ status && status ≤ 299 then .ok body
    else .error (.status status (String.ofList (exceptionChars body.toList)))

/-- **A way to post requests**; `m` is what posting may do besides. -/
abbrev Post (m : Type → Type) : Type := Request → m Delivery

namespace Connection

variable {m : Type → Type} [Monad m]

/-- The body of the answer to a statement. A URL that is none keeps the
statement from being sent. -/
def fetch (c : Connection) (post : Post m) (statement : String) :
    m (Except ServerFault String) :=
  if c.isUsable then do
    let delivery ← post (c.request statement)
    pure delivery.body
  else pure (.error (.connection "not a usable URL"))

/-- **Running a statement.** Only what passes the guard is sent. -/
def execute (c : Connection) (post : Post m) (sql : String) : m (Except ServerFault Answer) :=
  match Sql.refusal? sql.toList with
  | some refusal => pure (.error (.statement refusal.message))
  | none => do
    let body ← c.fetch post (String.ofList (statementChars sql.toList))
    pure (body >>= Answer.ofBody)

/-- **Asking for a sign of life.** -/
def health (c : Connection) (post : Post m) : m (Except ServerFault Unit) := do
  let body ← c.fetch post healthStatement
  pure (body.map fun _ => ())

end Connection

end Readership
