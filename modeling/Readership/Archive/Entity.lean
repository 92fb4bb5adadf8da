import Readership.Calendar.Reader
import Readership.Json.Record
import Readership.Json.Reader

/-!
# Countries, users, blogs and views

The entries of an archive and the dataset that brings them. A dataset is a
JSON document with a list of each kind; a list that is left out is empty. An
entry is an object or the array of its fields.
-/

namespace Readership

/-- **A country**, known by its code. -/
structure Country where
  code : String
  name : String
deriving DecidableEq

/-- **A user**, known by an id without inner structure. -/
structure User where
  id : String
deriving DecidableEq

/-- **A blog** and its owner, and the code of its country if it has one. -/
structure Blog where
  id : Int
  title : String
  owner : String
  country : Option String
deriving DecidableEq

/-- **One view of a blog.** The viewer is unknown for an anonymous view, the
country for a view from nowhere in particular. -/
structure View where
  id : Int
  blog : Int
  viewer : Option String
  country : Option String
  time : Instant
deriving DecidableEq

/-- **A dataset.** -/
structure Dataset where
  countries : List Country
  users : List User
  blogs : List Blog
  views : List View
deriving DecidableEq

open Json (Written)

/-- A country from its record. -/
def Country.ofWritten? (w : Written) : Option Country := do
  match ← w.record? ["code", "name"] with
  | [some code, some name] => pure ⟨← code.str?, ← name.str?⟩
  | _ => none

/-- A user from its record. -/
def User.ofWritten? (w : Written) : Option User := do
  match ← w.record? ["id"] with
  | [some id] => pure ⟨← id.str?⟩
  | _ => none

/-- The text of a field that may be left out or null. -/
def optionalText? : Option Written → Option (Option String)
  | none => some none
  | some w => w.optional? Written.str?

/-- A blog from its record; the country may be left out. -/
def Blog.ofWritten? (w : Written) : Option Blog := do
  match ← w.record? ["id", "title", "user_id", "country"] with
  | [some id, some title, some owner, country] =>
    pure ⟨← id.signed?, ← title.str?, ← owner.str?, ← optionalText? country⟩
  | _ => none

/-- A view from its record; viewer and country may be left out. -/
def View.ofWritten? (w : Written) : Option View := do
  match ← w.record? ["id", "blog_id", "viewer_user", "viewer_country", "viewed_at"] with
  | [some id, some blog, viewer, country, some time] =>
    let id ← id.signed?
    let blog ← blog.signed?
    let viewer ← optionalText? viewer
    let country ← optionalText? country
    let time ← time.str?
    let time ← Calendar.recordedInstant? time
    pure ⟨id, blog, viewer, country, time⟩
  | _ => none

/-- A list of entries that may be left out. -/
def entries? {α : Type} (readOne? : Written → Option α) : Option Written → Option (List α)
  | none => some []
  | some w => w.list? readOne?

/-- **A dataset from its document.** -/
def Dataset.ofWritten? (w : Written) : Option Dataset := do
  match ← w.record? ["countries", "users", "blogs", "views"] with
  | [countries, users, blogs, views] =>
    pure
      ⟨← entries? Country.ofWritten? countries, ← entries? User.ofWritten? users,
        ← entries? Blog.ofWritten? blogs, ← entries? View.ofWritten? views⟩
  | _ => none

/-- A dataset from the text of its document. -/
def Dataset.ofText? (s : String) : Option Dataset := do
  let w ← Json.written? s
  Dataset.ofWritten? w

/-- A country as a record. -/
def Country.toJson (c : Country) : Json :=
  .object [("code", .str c.code), ("name", .str c.name)]

/-- A user as a record. -/
def User.toJson (u : User) : Json :=
  .object [("id", .str u.id)]

/-- A blog as a record. -/
def Blog.toJson (b : Blog) : Json :=
  .object [("id", .ofInt b.id), ("title", .str b.title), ("user_id", .str b.owner),
    ("country", .ofText? b.country)]

/-- A view as a record. -/
def View.toJson (v : View) : Json :=
  .object [("id", .ofInt v.id), ("blog_id", .ofInt v.blog),
    ("viewer_user", .ofText? v.viewer), ("viewer_country", .ofText? v.country),
    ("viewed_at", .str v.time.zuluText)]

/-- A dataset as a document. -/
def Dataset.toJson (d : Dataset) : Json :=
  .object [("countries", .arr (d.countries.map Country.toJson)),
    ("users", .arr (d.users.map User.toJson)), ("blogs", .arr (d.blogs.map Blog.toJson)),
    ("views", .arr (d.views.map View.toJson))]

end Readership
