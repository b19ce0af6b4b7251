import WikiNotes.Path

/-! # Tags and their notes

The table of tags says for every tag which notes carry it.  A tag that no note carries is not in
it.  Notes are told apart by their places; a note that is added again keeps the path it was first
added with. -/

namespace WikiNotes

/-- A tag with the notes that carry it. -/
structure TagInfo where
  name : String
  /-- How many notes carry it. -/
  count : Nat
  /-- The notes, in the order of their paths. -/
  notes : List Path
deriving DecidableEq, Repr

/-- For every tag the notes that carry it, by their places. -/
structure TagTable where
  members : SortedMap String (SortedMap Location Path) := .empty
deriving DecidableEq

namespace TagTable

/-- The notes that carry a tag, by their places. -/
def membersOf (table : TagTable) (tag : String) : SortedMap Location Path :=
  (table.members.find? tag).getD .empty

/-- Let a note carry one more tag. -/
def addTag (path : Path) (table : TagTable) (tag : String) : TagTable :=
  let members := table.membersOf tag
  if members.contains path.location then table
  else ⟨table.members.insert tag (members.insert path.location path)⟩

/-- Let a place carry a tag no more. -/
def removeTag (place : Location) (table : TagTable) (tag : String) : TagTable :=
  let members := (table.membersOf tag).erase place
  if members.isEmpty then ⟨table.members.erase tag⟩ else ⟨table.members.insert tag members⟩

/-- Let a note carry tags. -/
def add (table : TagTable) (path : Path) (tags : List String) : TagTable :=
  tags.foldl (addTag path) table

/-- Let a place carry tags no more. -/
def remove (table : TagTable) (place : Location) (tags : List String) : TagTable :=
  tags.foldl (removeTag place) table

/-- The notes that carry a tag, in the order of their paths. -/
def notes (table : TagTable) (tag : String) : List Path := (table.membersOf tag).values

/-- All tags by name, each with its notes. -/
def all (table : TagTable) : List TagInfo :=
  table.members.entries.map fun (name, notes) => ⟨name, notes.size, notes.values⟩

/-- How many tags there are. -/
def size (table : TagTable) : Nat := table.members.size

/-- Whether there is no tag. -/
def isEmpty (table : TagTable) : Bool := table.members.isEmpty

end TagTable

end WikiNotes
