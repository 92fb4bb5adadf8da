import Readership.Archive.Entity
import Readership.Fault
import Readership.Filter.Selection

/-!
# The tables of an archive

An archive holds countries, users, blogs and views in the order in which they
were entered, and the ids of its views. An entry is refused if its key is
taken or if it refers to an entry that is not there. Entering changes the tables
in place, so it could be refused half way (`Tables.Change`). Every view that is
held has its blog, and joining the views with what belongs to them loses none.
-/

namespace Readership

/-- **The tables of an archive.** -/
structure Tables where
  countries : List Country
  users : List User
  blogs : List Blog
  views : List View
  viewIds : List Int
deriving DecidableEq

namespace Tables

/-- The tables without entries. -/
def empty : Tables := ⟨[], [], [], [], []⟩

/-- The country with a code. -/
def country? (t : Tables) (code : String) : Option Country :=
  t.countries.find? (·.code == code)

/-- Whether there is a country with a code. -/
def hasCode (t : Tables) (code : String) : Bool := (t.country? code).isSome

/-- Whether there is a country with a name. -/
def hasName (t : Tables) (name : String) : Bool :=
  t.countries.any (·.name == name)

/-- Whether there is a user with an id. -/
def hasUser (t : Tables) (id : String) : Bool :=
  t.users.any (·.id == id)

/-- The blog with an id. -/
def blog? (t : Tables) (id : Int) : Option Blog :=
  t.blogs.find? (·.id == id)

/-- Whether there is a blog with an id. -/
def hasBlog (t : Tables) (id : Int) : Bool := (t.blog? id).isSome

/-! ## Changes -/

/-- **A change of the tables.** It ends with a result or is refused with a fault; either way
what it has written by then stays written. -/
abbrev Change : Type → Type := EStateM ReferenceFault Tables

/-- Refusing a change in a case. -/
def refuseIf (refused : Bool) (fault : ReferenceFault) : Change Unit :=
  if refused then throw fault else pure ()

/-- **Entering a country.** Codes and names are both taken once. -/
def insertCountry (c : Country) : Change Unit := do
  let t ← get
  refuseIf (t.hasCode c.code) (.countryCodeTaken c.code)
  refuseIf (t.hasName c.name) (.countryNameTaken c.name)
  set { t with countries := t.countries ++ [c] }

/-- Adding a user unless the id is there already, and whether it was not. -/
def addUser (u : User) : Change Bool :=
  modifyGet fun t =>
    if t.hasUser u.id then (false, t) else (true, { t with users := t.users ++ [u] })

/-- **Entering a user.** The user is added before it is known whether that is refused. -/
def insertUser (u : User) : Change Unit := do
  let isNew ← addUser u
  refuseIf (!isNew) (.userTaken u.id)

/-- **Entering a blog.** Its owner must be there, and its country if it has
one. -/
def insertBlog (b : Blog) : Change Unit := do
  let t ← get
  refuseIf (t.hasBlog b.id) (.blogTaken b.id)
  refuseIf (!t.hasUser b.owner) (.ownerMissing b.id b.owner)
  b.country.forM fun code => refuseIf (!t.hasCode code) (.blogCountryMissing b.id code)
  set { t with blogs := t.blogs ++ [b] }

/-- **Entering a view.** Its blog must be there, and its viewer and country if
they are known. -/
def insertView (v : View) : Change Unit := do
  let t ← get
  refuseIf (t.viewIds.contains v.id) (.viewTaken v.id)
  refuseIf (!t.hasBlog v.blog) (.blogMissing v.id v.blog)
  v.viewer.forM fun user => refuseIf (!t.hasUser user) (.viewerMissing v.id user)
  v.country.forM fun code => refuseIf (!t.hasCode code) (.viewerCountryMissing v.id code)
  modify fun t => { t with viewIds := v.id :: t.viewIds }
  modify fun t => { t with views := t.views ++ [v] }

/-- **Loading a dataset**: countries, users, blogs and views are entered in this order, up
to the first entry that is refused. -/
def load (d : Dataset) : Change Unit := do
  d.countries.forM insertCountry
  d.users.forM insertUser
  d.blogs.forM insertBlog
  d.views.forM insertView

/-- **The tables of a dataset.** What a load that is refused has written is given up. -/
def ofDataset (d : Dataset) : Except ReferenceFault Tables :=
  match (load d).run empty with
  | .ok _ t => .ok t
  | .error fault _ => .error fault

/-- The tables of a dataset given as text. -/
def ofText (s : String) : Except Fault Tables :=
  match Dataset.ofText? s with
  | none => .error (.dataset .notADataset)
  | some d =>
    match ofDataset d with
    | .ok t => .ok t
    | .error cause => .error (.reference cause)

/-! ## Records -/

/-- The number of views. -/
def viewCount (t : Tables) : Nat := t.views.length

/-- **A view together with its blog and the two countries**, field by field. -/
def recordOf (t : Tables) (v : View) (b : Blog) : ViewRecord
  | .viewId => .int v.id
  | .viewedAt => .instant v.time
  | .blogId => .int b.id
  | .blogTitle => .text b.title
  | .blogOwner => .text b.owner
  | .blogCountryCode => .ofText? b.country
  | .blogCountryName => .ofText? ((b.country.bind t.country?).map (·.name))
  | .viewerUser => .ofText? v.viewer
  | .viewerCountryCode => .ofText? v.country
  | .viewerCountryName => .ofText? ((v.country.bind t.country?).map (·.name))

/-- The record of a view, if its blog is there. -/
def record? (t : Tables) (v : View) : Option (View × ViewRecord) :=
  (t.blog? v.blog).map fun b => (v, t.recordOf v b)

/-- The views with their records, in the order in which they were entered. -/
def records (t : Tables) : List (View × ViewRecord) :=
  t.views.filterMap t.record?

/-- **The views that a selection selects.** -/
def matching (t : Tables) (s : Selection) : List (View × ViewRecord) :=
  t.records.filter fun r => s.holds r.2

/-- **The ids of the views that a predicate selects**, in the order in which
they were entered. -/
def filterIds (t : Tables) (p : Predicate) : Except Fault (List Int) :=
  p.check.map fun s => (t.matching s).map fun r => r.1.id

end Tables

end Readership
