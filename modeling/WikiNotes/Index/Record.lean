import WikiNotes.Note.Document
import WikiNotes.Storage.FileSystem

/-! # Records of notes

What the index keeps about a note: where it is, how it is named, and what was read from it. -/

namespace WikiNotes

/-- A note as the index keeps it. -/
structure Record where
  /-- Where the note is. -/
  path : Path
  /-- Its canonical name, by which it is found. -/
  name : String
  /-- Its name as it is shown. -/
  displayName : String
  /-- What was read from it. -/
  note : Note
deriving DecidableEq

namespace Record

/-- The place of a note. -/
def place (r : Record) : Location := r.path.location

/-- Whether two records say the same; the spelling of the path does not matter. -/
def same (a b : Record) : Bool :=
  a.place == b.place && a.name == b.name && a.displayName == b.displayName
    && decide (a.note = b.note)

/-- The tags of a note in order. -/
def tags (r : Record) : List String := r.note.tags.keys

/-- The record of a note at a path, of its content. -/
def ofContent (policy : NamingPolicy) (path : Path) (content : String) : Record :=
  { path
    name := policy.canonicalName path.stem
    displayName := path.stem
    note := Note.ofText policy content }

/-- Read the note at a path. -/
def read (files : FileSystem) (policy : NamingPolicy) (path : Path) : Except ReadError Record :=
  (files.readText path).map (ofContent policy path)

end Record

end WikiNotes
