import WikiNotes.Index.Resolution
import WikiNotes.Text.Occurrence

/-! # How notes are linked

Three views of the links between visible notes: which notes link to one, all links as a graph, and
the links that lead nowhere.  A link from a note to itself is in none of them.  Each view is
computed from the visible notes in any order and comes out in an order of its own. -/

namespace WikiNotes

/-- A link from one note to another. -/
structure Edge where
  source : Path
  target : Path
deriving DecidableEq, Repr

namespace Edge

/-- The places that an edge connects. -/
def key (e : Edge) : Location × Location := (e.source.location, e.target.location)

/-- Edges are ordered by their source, then by their target. -/
def order (a b : Edge) : Ordering :=
  (a.source.order b.source).then (a.target.order b.target)

end Edge

/-- The notes of a vault and the links between them. -/
structure LinkGraph where
  /-- The notes in the order of their places. -/
  nodes : List Record
  /-- The links in order, each pair of notes at most once. -/
  edges : List Edge
deriving DecidableEq

/-- A link that leads nowhere. -/
structure BrokenLink where
  source : Path
  target : String
  line : Nat
deriving DecidableEq, Repr

namespace BrokenLink

/-- Broken links are ordered by note, then by target, then by line. -/
def order (a b : BrokenLink) : Ordering :=
  ((a.source.order b.source).then (compare a.target b.target)).then (compare a.line b.line)

end BrokenLink

/-- Notes in the order of their shown names, those of one name in the order of their places. -/
def inDisplayOrder (records : List Record) : List Record :=
  sortBy (fun a b => (compare a.displayName b.displayName).then (compare a.place b.place)) records

/-- Drop every element that is equal under a key to the one before it. -/
def dropRepeated {α κ : Type} [DecidableEq κ] (key : α → κ) : List α → List α
  | [] => []
  | a :: rest =>
    match rest with
    | [] => [a]
    | b :: _ => if key a = key b then dropRepeated key rest else a :: dropRepeated key rest

namespace Index

/-! ### Backlinks -/

/-- Whether a note has a link with a canonical name. -/
def linksTo (index : Index) (name : String) (record : Record) : Bool :=
  record.note.links.any fun link => index.policy.canonicalName link.target == name

/-- Of the given notes those that link to the visible note at a place, in display order. -/
def backlinksAmong (index : Index) (records : List Record) (place : Location) : List Record :=
  match index.at? place with
  | none => []
  | some target =>
    inDisplayOrder <|
      (records.filter fun record => record.place != target.place).filter
        (index.linksTo target.name)

/-- The visible notes that link to the one at a place, in display order. -/
def backlinks (index : Index) (place : Location) : List Record :=
  index.backlinksAmong index.records place

/-! ### The graph -/

/-- The edges that start at a note. -/
def edgesFrom (index : Index) (record : Record) : List Edge :=
  record.note.links.filterMap fun link =>
    match index.resolve? link.target with
    | some target => if target.place = record.place then none else some ⟨record.path, target.path⟩
    | none => none

/-- The graph of the given notes. -/
def graphAmong (index : Index) (records : List Record) : LinkGraph :=
  let nodes := inPlaceOrder records
  -- Sorting brings equal edges together, of which one is kept.
  { nodes
    edges := dropRepeated Edge.key (sortBy Edge.order (nodes.flatMap index.edgesFrom)) }

/-- The graph of the visible notes. -/
def graph (index : Index) : LinkGraph := index.graphAmong index.records

/-! ### Broken links -/

/-- The links of a note that lead nowhere, those to media files left out. -/
def brokenFrom (index : Index) (record : Record) : List BrokenLink :=
  (record.note.links.filter fun link =>
    !isMediaTarget link.target && (index.resolve? link.target).isNone).map fun link =>
      ⟨record.path, link.target, link.line⟩

/-- The broken links of the given notes, in order. -/
def brokenAmong (index : Index) (records : List Record) : List BrokenLink :=
  sortBy BrokenLink.order (records.flatMap index.brokenFrom)

/-- The broken links of the visible notes, in order. -/
def brokenLinks (index : Index) : List BrokenLink := index.brokenAmong index.records

/-! ### Counting and suggesting -/

/-- How many links the given notes hold. -/
def linkCountAmong (records : List Record) : Nat :=
  (records.map fun record => record.note.links.length).foldr (· + ·) 0

/-- How many links the visible notes hold. -/
def linkCount (index : Index) : Nat := linkCountAmong index.records

/-- Of the given notes those whose shown name contains a text in any case, in display order. -/
def suggestAmong (records : List Record) (partialName : String) : List Record :=
  let needle := Text.lowerChars (Text.trimChars partialName.toList)
  inDisplayOrder <| records.filter fun record =>
    Text.occursIn needle (Text.lowerChars record.displayName.toList)

/-- The visible notes whose shown name contains a text in any case, in display order. -/
def suggest (index : Index) (partialName : String) : List Record :=
  suggestAmong index.records partialName

end Index

end WikiNotes
