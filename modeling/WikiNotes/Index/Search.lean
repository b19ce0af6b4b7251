import WikiNotes.Index.LinkGraph

/-! # Full-text search

A search reads the visible notes in the order of their places and finds those whose text contains
the query in any case.  It can be cancelled: no note is read any more once the search learns of it,
but the read during which that happens still counts.  Notes that cannot be read are passed over. -/

namespace WikiNotes

/-- A note that a search found. -/
structure SearchHit where
  path : Path
  displayName : String
deriving DecidableEq, Repr

namespace SearchHit

/-- The hit that a note is. -/
def ofRecord (record : Record) : SearchHit := ⟨record.path, record.displayName⟩

/-- Hits are ordered by shown name, then by place. -/
def order (a b : SearchHit) : Ordering :=
  (compare a.displayName b.displayName).then (a.path.order b.path)

end SearchHit

/-- What a search found, and how many notes it read for that. -/
structure SearchOutcome where
  hits : List SearchHit
  reads : Nat
deriving DecidableEq, Repr

/-- Whether a text contains a needle that is in lower case. -/
def textMatches (needle : List Char) (content : String) : Bool :=
  Text.occursIn needle (Text.lowerChars content.toList)

/-- Whether a note can be read and contains a needle that is in lower case. -/
def noteMatches (files : FileSystem) (needle : List Char) (record : Record) : Bool :=
  match files.readText record.path with
  | .ok content => textMatches needle content
  | .error _ => false

/-- Whether a search is cancelled once so many reads have begun.  `cancelAt` is the number of the
    read during which it is cancelled, zero for one that is cancelled before it starts; without a
    number it never is. -/
def isCancelled (cancelAt : Option Nat) (begun : Nat) : Bool := cancelAt.any (· ≤ begun)

/-- Search notes one after the other, given how many reads have begun. -/
def searchFrom (files : FileSystem) (needle : List Char) (cancelAt : Option Nat) :
    (begun : Nat) → List Record → SearchOutcome
  | begun, [] => ⟨[], begun⟩
  | begun, record :: rest =>
    -- Only here, ahead of a read, does the search learn that it is cancelled.
    if isCancelled cancelAt begun then ⟨[], begun⟩
    else
      let outcome := searchFrom files needle cancelAt (begun + 1) rest
      if noteMatches files needle record then
        { outcome with hits := .ofRecord record :: outcome.hits }
      else outcome

/-- Search the visible notes for a query.  What is blank is found nowhere. -/
def Index.search (index : Index) (files : FileSystem) (query : String) (cancelAt : Option Nat) :
    SearchOutcome :=
  if Text.isBlankText query then ⟨[], 0⟩
  else
    let needle := Text.lowerChars query.toList
    let outcome := searchFrom files needle cancelAt 0 index.sortedRecords
    { outcome with hits := sortBy SearchHit.order outcome.hits }

end WikiNotes
