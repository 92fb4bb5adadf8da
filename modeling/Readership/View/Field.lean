import Readership.Text.Blank
import Readership.Text.Search

/-!
# The fields of a view

A view of a blog is seen with everything that belongs to it: the blog, its
owner and country, the viewer and the country of the viewer. Ten fields of
that record can be asked for, each under a relation path and a few
abbreviations of it. Nothing outside this list can be named, whatever a filter
document says.
-/

namespace Readership

/-- **A field of a view** that filters and groupings may name. -/
inductive Field where
  | viewId
  | viewedAt
  | blogId
  | blogTitle
  | blogOwner
  | blogCountryCode
  | blogCountryName
  | viewerUser
  | viewerCountryCode
  | viewerCountryName
deriving DecidableEq, Repr

/-- The kind of value that a field holds. -/
inductive FieldKind where
  | integer
  | text
  | timestamp
deriving DecidableEq, Repr

/-- The word for a kind. -/
def FieldKind.name : FieldKind → String
  | integer => "integer"
  | text => "text"
  | timestamp => "timestamp"

namespace Field

/-- Every field. -/
def all : List Field :=
  [viewId, viewedAt, blogId, blogTitle, blogOwner, blogCountryCode, blogCountryName,
    viewerUser, viewerCountryCode, viewerCountryName]

/-- The relation path of a field, in full. -/
def path : Field → String
  | viewId => "id"
  | viewedAt => "viewed_at"
  | blogId => "blog__id"
  | blogTitle => "blog__title"
  | blogOwner => "blog__user__id"
  | blogCountryCode => "blog__country__code"
  | blogCountryName => "blog__country__name"
  | viewerUser => "viewer_user__id"
  | viewerCountryCode => "viewer_country__code"
  | viewerCountryName => "viewer_country__name"

/-- The shorter paths of a field: a relation stands for the key of what it
leads to. -/
def abbreviations : Field → List String
  | blogId => ["blog", "blog_id"]
  | blogOwner => ["blog__user", "blog__user_id"]
  | blogCountryCode => ["blog__country"]
  | viewerUser => ["viewer_user", "viewer_user_id"]
  | viewerCountryCode => ["viewer_country"]
  | _ => []

/-- Whether a path is one of the spellings of a field. -/
def answersTo (f : Field) (path : String) : Bool :=
  path == f.path || f.abbreviations.contains path

/-- A path without the white space around it and with two underscores for
every dot. -/
def normalizedPath (path : String) : String :=
  String.ofList ((Text.trim path.toList).flatMap fun c => if c = '.' then ['_', '_'] else [c])

/-- **The field that a path names**, if it names one. -/
def ofPath? (path : String) : Option Field :=
  all.find? (·.answersTo (normalizedPath path))

/-- The column of a field in the table of views. -/
def column : Field → String
  | viewId => "id"
  | viewedAt => "viewed_at"
  | blogId => "blog_id"
  | blogTitle => "blog_title"
  | blogOwner => "blog_user_id"
  | blogCountryCode => "blog_country_code"
  | blogCountryName => "blog_country_name"
  | viewerUser => "viewer_user_id"
  | viewerCountryCode => "viewer_country_code"
  | viewerCountryName => "viewer_country_name"

/-- The kind of a field. -/
def kind : Field → FieldKind
  | viewId | blogId => .integer
  | viewedAt => .timestamp
  | blogTitle | blogOwner | blogCountryCode | blogCountryName | viewerUser
  | viewerCountryCode | viewerCountryName => .text

/-- Whether a view may be without the field. -/
def nullable : Field → Bool
  | blogCountryCode | blogCountryName | viewerUser | viewerCountryCode
  | viewerCountryName => true
  | viewId | viewedAt | blogId | blogTitle | blogOwner => false

theorem mem_all (f : Field) : f ∈ all := by
  cases f <;> decide

end Field

end Readership
