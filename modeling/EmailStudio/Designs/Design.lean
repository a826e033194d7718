import EmailStudio.Publishing.Publisher
import EmailStudio.Time

/-!
# Designs

A design is one email in its three forms, side by side: the stored template, the markup that was
compiled from it and the HTML that was rendered from the markup. A draft lies beside the published
version until the next publication.
-/

namespace EmailStudio

/-- A time as it lies in a column, where it is a text. -/
inductive Stamp where
  /-- What the database writes by itself: whole seconds. -/
  | whole (seconds : Int)
  /-- What the application writes: six digits follow the seconds, even if they are zeros. -/
  | exact (time : Time)
deriving DecidableEq, Repr

namespace Stamp

/-- The stamp that the database sets at a time. -/
def ofDatabase (now : Time) : Stamp := .whole (Int.fdiv now.microseconds 1000000)

/-- The time that is read from a column. -/
def time : Stamp → Time
  | whole seconds => .ofSeconds seconds
  | exact time => time

def isWhole : Stamp → Bool
  | whole _ => true
  | exact _ => false

/-- Whether the text in one column is less than the one in another. The parts of a time have fixed
widths and the larger come first, so the text of an earlier time is less; of two texts of one time
the one without a fraction is the beginning of the other. -/
def isLess (a b : Stamp) : Bool :=
  a.time.microseconds < b.time.microseconds || (a.time = b.time && a.isWhole && !b.isWhole)

end Stamp

/-- The draft beside a design: a template that was saved while it was edited and may be unsound, and
the time at which it was saved. Each lies in a column of its own. -/
structure Draft where
  template : Option Value
  savedAt : Option Time

namespace Draft

/-- There is no draft. -/
def nothing : Draft := ⟨none, none⟩

end Draft

/-- A saved email. -/
structure Design where
  id : String
  name : String
  template : Value
  markup : String
  html : String
  draft : Draft
  createdAt : Stamp
  updatedAt : Stamp

namespace Design

/-- How a design is called in logs. -/
def label (design : Design) : String :=
  "<EmailDesign(id=" ++ design.id ++ ", name=" ++ design.name ++ ")>"

/-- A new design, with the stamps that the database sets. -/
def created (id name : String) (template : Value) (markup html : String) (now : Time) : Design where
  id := id
  name := name
  template := template
  markup := markup
  html := html
  draft := .nothing
  createdAt := .ofDatabase now
  updatedAt := .ofDatabase now

/-- A new published version takes the place of the old one and of the draft. -/
def republish (name : Option String) (template : Value) (markup html : String) (now : Time)
    (design : Design) : Design :=
  { design with
    name := name.getD design.name
    template := template
    markup := markup
    html := html
    draft := .nothing
    updatedAt := .exact now }

/-- A draft takes the place of the one before; the published version stays. -/
def withDraft (template : Value) (now : Time) (design : Design) : Design :=
  { design with draft := ⟨some template, some now⟩ }

/-- The draft as the editor can load it: anything but an object cannot be loaded. -/
def loadableDraft (design : Design) : Option Value :=
  match design.draft.template with
  | some (.object fields) => some (.object fields)
  | _ => none

/-- Whether the first of two designs may come first in a listing: the later publication, and of two
with one stamp the one whose name is first. -/
def comesBefore (a b : Design) : Bool :=
  b.updatedAt.isLess a.updatedAt || (a.updatedAt = b.updatedAt && a.name ≤ b.name)

end Design

end EmailStudio
