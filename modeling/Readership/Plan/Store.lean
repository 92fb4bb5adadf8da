import Readership.Archive.Aggregation
import Readership.Server.Exchange
import Readership.Server.Rows

/-!
# Stores

A store answers plans. Two kinds: the tables of an archive held in memory, and
a table of a database server, which is asked by statement. What asking may do
besides – nothing for tables, talking to the network for a server – is the
parameter `m`.
-/

namespace Readership

/-- **A database that runs statements**, with the name it has in diagnostics. -/
structure Database (m : Type → Type) where
  name : String
  execute : String → m (Except ServerFault Answer)
  health : m (Except ServerFault Unit)

/-- **A store of views.** -/
structure Store (m : Type → Type) where
  name : String
  aggregate : Plan → m (Except Fault (List Row))
  health : m (Except Fault Unit)

variable {m : Type → Type} [Monad m]

/-- The database behind a connection. -/
def Connection.toDatabase (c : Connection) (post : Post m) : Database m :=
  { name := "clickhouse", execute := c.execute post, health := c.health post }

/-- A failed query as a refused question. -/
def Fault.ofServer {α : Type} : Except ServerFault α → Except Fault α
  | .ok a => .ok a
  | .error cause => .error (.server cause)

namespace Store

/-- **A store in memory**, for which weeks may begin before the calendar. -/
def ofTables (t : Tables) : Store m :=
  { name := "memory"
    aggregate := fun plan => pure (t.aggregate plan)
    health := pure (.ok ()) }

/-- **A store in memory**, which breaks off where a week begins before the calendar. -/
def ofTables? (t : Tables) : Store (OptionT m) :=
  { name := "memory"
    aggregate := fun plan => OptionT.mk (pure (t.aggregate? plan))
    health := pure (.ok ()) }

/-- The answer of a database to a plan. A plan whose predicate does not pass
the check never reaches the database. -/
def askDatabase (db : Database m) (table : String) (plan : Plan) :
    m (Except Fault (List Row)) :=
  match Sql.planText plan table with
  | .error fault => pure (.error fault)
  | .ok sql => do
    let answer ← db.execute sql
    pure (Fault.ofServer answer >>= Answer.planRows plan)

/-- **A store in a table of a database.** -/
def ofDatabase (db : Database m) (table : String) : Store m :=
  { name := "sql"
    aggregate := askDatabase db table
    health := do
      let alive ← db.health
      pure (Fault.ofServer alive) }

/-- The table that views are kept in unless another is named. -/
def defaultTable : String := "blog_views"

/-- How diagnostics show a store in a database. -/
def diagnostic (db : Database m) (table : String) : String :=
  "SqlStore \x7b backend: " ++ Text.diagnostic db.name ++ ", table: "
    ++ Text.diagnostic table ++ " \x7d"

end Store

end Readership
