import WikiNotes.Index.Record
import WikiNotes.Index.TagTable
import WikiNotes.Scan

/-! # The index

The index holds a record of every note.  No two visible notes have one canonical name: the note
that was inserted last holds the name, and a note that it took the name from is shadowed.  When a
name becomes free, the shadowed note with that name at the greatest place takes it over, which is
the one that inserting in the order of the places would have left visible.

Only visible notes are found and carry tags in the table.  `insert`, `remove` and `removeUnder` say
whether what is visible changed. -/

namespace WikiNotes

/-- The index of the notes beneath a root. -/
structure Index where
  root : Option Path := none
  policy : NamingPolicy := {}
  /-- The visible notes by canonical name. -/
  byName : SortedMap String Record := .empty
  /-- The canonical names of the visible notes by place. -/
  nameByPlace : SortedMap Location String := .empty
  /-- The tags of the visible notes. -/
  tags : TagTable := {}
  /-- The notes whose name another note holds, by place. -/
  shadowed : SortedMap Location Record := .empty
  /-- When the index was last built from scratch. -/
  rebuiltAt : Option String := none
  /-- What could not be listed then. -/
  scanIssues : List ScanIssue := []
deriving DecidableEq

namespace Index

/-! ### Look-ups -/

/-- The visible note with a canonical name. -/
def named? (index : Index) (name : String) : Option Record := index.byName.find? name

/-- The visible note at a place. -/
def at? (index : Index) (place : Location) : Option Record :=
  (index.nameByPlace.find? place).bind index.named?

/-- The note at a place, visible or shadowed. -/
def tracked? (index : Index) (place : Location) : Option Record :=
  (index.at? place).or (index.shadowed.find? place)

/-- The visible notes, in no order that matters. -/
def records (index : Index) : List Record := index.byName.values

/-- How many notes are visible. -/
def size (index : Index) : Nat := index.byName.size

/-- Whether no note is visible. -/
def isEmpty (index : Index) : Bool := index.byName.isEmpty

/-- Notes in the order of their places. -/
def inPlaceOrder (records : List Record) : List Record :=
  sortBy (fun a b => compare a.place b.place) records

/-- The visible notes in the order of their places. -/
def sortedRecords (index : Index) : List Record := inPlaceOrder index.records

/-! ### Making notes visible and invisible -/

/-- Make a note visible under its name. -/
def attach (index : Index) (record : Record) : Index :=
  { index with
    byName := index.byName.insert record.name record
    nameByPlace := index.nameByPlace.insert record.place record.name
    tags := index.tags.add record.path record.tags }

/-- Take away the visible note at a place, if there is one; also gives that note. -/
def detach (index : Index) (place : Location) : Index × Option Record :=
  match index.at? place with
  | none => (index, none)
  | some record =>
    ({ index with
        byName := index.byName.erase record.name
        nameByPlace := index.nameByPlace.erase place
        tags := index.tags.remove place record.tags },
      some record)

/-- Set a note aside as shadowed. -/
def shadow (index : Index) (record : Record) : Index :=
  { index with shadowed := index.shadowed.insert record.place record }

/-- Drop the shadowed note at a place, if there is one. -/
def unshadow (index : Index) (place : Location) : Index :=
  { index with shadowed := index.shadowed.erase place }

/-- The shadowed note with a name at the greatest place. -/
def heir? (index : Index) (name : String) : Option Record :=
  index.shadowed.values.reverse.find? (·.name == name)

/-- Let the shadowed note at the greatest place take over a name that became free. -/
def promote (index : Index) (name : String) : Index :=
  match index.heir? name with
  | none => index
  | some record => (index.unshadow record.place).attach record

/-- Make room for a note that is to hold a name: the one that holds it is shadowed. -/
def evict (index : Index) (name : String) : Index :=
  match index.named? name with
  | none => index
  | some holder => (index.detach holder.place).1.shadow holder

/-! ### Inserting and removing -/

/-- Insert a note in place of the one at its place.  It takes its name from the note that holds it;
    the name that it gives up itself goes to a shadowed note.  Nothing happens if the note is
    there already, visible or shadowed. -/
def insert (index : Index) (record : Record) : Index × Bool :=
  if (index.tracked? record.place).any record.same then (index, false)
  else
    -- The note's own old record goes first, so that it never gives way to itself.
    let (cleared, replaced) := (index.unshadow record.place).detach record.place
    let attached := (cleared.evict record.name).attach record
    match replaced with
    -- Only a name that was given up is free for another note.
    | some old => (if old.name = record.name then attached else attached.promote old.name, true)
    | none => (attached, true)

/-- Remove the note at a place.  A shadowed note goes without a trace; the name of a visible one
    goes to a shadowed note. -/
def remove (index : Index) (place : Location) : Index × Bool :=
  if index.shadowed.contains place then (index.unshadow place, false)
  else
    match index.detach place with
    | (detached, some record) => (detached.promote record.name, true)
    | (_, none) => (index, false)

/-- Remove the notes at several places, one after the other. -/
def removeEach (index : Index) : List Location → Index × Bool
  | [] => (index, false)
  | place :: places =>
    let (removed, changed) := index.remove place
    let (rest, restChanged) := removed.removeEach places
    (rest, changed || restChanged)

/-- Drop the shadowed notes at and beneath a place. -/
def unshadowUnder (index : Index) (base : Location) : Index :=
  { index with shadowed := index.shadowed.filter fun place _ => !base.isPrefixOf place }

/-- The places of the visible notes at and beneath a place. -/
def placesUnder (index : Index) (base : Location) : List Location :=
  index.nameByPlace.keys.filter base.isPrefixOf

/-- Remove all notes at and beneath a place. -/
def removeUnder (index : Index) (base : Location) : Index × Bool :=
  (index.unshadowUnder base).removeEach (index.placesUnder base)

end Index

end WikiNotes
