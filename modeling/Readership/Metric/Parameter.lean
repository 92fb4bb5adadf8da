import Readership.Calendar.Bucket
import Readership.Fault
import Readership.Text.Blank
import Readership.View.Field

/-!
# Parameters of the selectors

Each selector has a parameter with a few values, every one a word. White space
around the word and its capital letters do not matter.
-/

namespace Readership

/-- A word as a parameter is compared by. -/
def parameterWord (s : String) : String :=
  Text.lowercase (Text.trimmed s)

/-- The value whose word a text is, or the fault that the text means nothing. -/
def parseParameter {α : Type} (p : Parameter) (words : List (String × α)) (s : String) :
    Except Fault α :=
  match words.lookup (parameterWord s) with
  | some a => .ok a
  | none => .error (.parameter p s)

/-- **A bucket from a word**; the adverb is one too. -/
def Bucket.parse (s : String) : Except Fault Bucket :=
  parseParameter .bucket
    [("day", day), ("daily", day), ("week", week), ("weekly", week), ("month", month),
      ("monthly", month), ("year", year), ("yearly", year)] s

/-- **What viewers are grouped by.** -/
inductive ObjectType where
  | country
  | user
deriving DecidableEq, Repr

namespace ObjectType

/-- Every value. -/
def all : List ObjectType := [country, user]

/-- The word for a value. -/
def name : ObjectType → String
  | country => "country"
  | user => "user"

/-- A value from a word. -/
def parse : String → Except Fault ObjectType :=
  parseParameter .objectType (all.map fun o => (o.name, o))

/-- The field that groups are made by. -/
def dimension : ObjectType → Field
  | country => .viewerCountryCode
  | user => .viewerUser

end ObjectType

/-- **The size of the buckets of grouped metrics.** -/
inductive RangeType where
  | month
  | week
  | year
deriving DecidableEq, Repr

namespace RangeType

/-- Every value. -/
def all : List RangeType := [month, week, year]

/-- The word for a value. -/
def name : RangeType → String
  | month => "month"
  | week => "week"
  | year => "year"

/-- A value from a word. -/
def parse : String → Except Fault RangeType :=
  parseParameter .range (all.map fun r => (r.name, r))

/-- The bucket of a value. -/
def bucket : RangeType → Bucket
  | month => .month
  | week => .week
  | year => .year

end RangeType

/-- **What is ranked.** -/
inductive TopType where
  | user
  | country
  | blog
deriving DecidableEq, Repr

namespace TopType

/-- Every value. -/
def all : List TopType := [user, country, blog]

/-- The word for a value. -/
def name : TopType → String
  | user => "user"
  | country => "country"
  | blog => "blog"

/-- A value from a word. -/
def parse : String → Except Fault TopType :=
  parseParameter .topType (all.map fun t => (t.name, t))

/-- The field that a view must have to be ranked. -/
def rankedField : TopType → Field
  | user => .viewerUser
  | country => .viewerCountryCode
  | blog => .blogId

/-- The fields that groups are made by. -/
def groupBy : TopType → List Field
  | user => [.viewerUser]
  | country => [.viewerCountryCode]
  | blog => [.blogId, .blogTitle]

/-- The fields whose different values are counted, on either side of the number
of views. -/
def distinctFields : TopType → Field × Field
  | user => (.blogId, .viewerCountryCode)
  | country => (.viewerUser, .blogId)
  | blog => (.viewerUser, .viewerCountryCode)

end TopType

/-- **The size of the buckets that are compared.** -/
inductive CompareType where
  | day
  | week
  | month
  | year
deriving DecidableEq, Repr

namespace CompareType

/-- Every value. -/
def all : List CompareType := [day, week, month, year]

/-- The word for a value. -/
def name : CompareType → String
  | day => "day"
  | week => "week"
  | month => "month"
  | year => "year"

/-- A value from a word. -/
def parse : String → Except Fault CompareType :=
  parseParameter .compareType (all.map fun c => (c.name, c))

/-- The bucket of a value. -/
def bucket : CompareType → Bucket
  | day => .day
  | week => .week
  | month => .month
  | year => .year

end CompareType

end Readership
