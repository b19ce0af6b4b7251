import WikiNotes.Text.Blank

/-! # Positions and lines

A position in a text is a byte offset into its UTF-8 form together with a line number.  Lines are
counted by the line feeds before a position, starting at one, whatever else ends a line elsewhere.

`findAll` is how the note parsers look for what they parse: it tries a pattern at every position
from left to right and, after a match, goes on behind it. -/

namespace WikiNotes.Text

/-- Length of a list of characters in UTF-8 bytes. -/
def byteLength (cs : List Char) : Nat := (cs.map Char.utf8Size).foldr (· + ·) 0

/-- How many line feeds a list of characters holds. -/
def lineFeeds (cs : List Char) : Nat := cs.count '\n'

/-- A position in a text. -/
structure Position where
  /-- Bytes before the position. -/
  offset : Nat
  /-- One more than the line feeds before the position. -/
  line : Nat
deriving DecidableEq, Repr

namespace Position

/-- The position in front of a text. -/
def start : Position := ⟨0, 1⟩

/-- The position behind one more character. -/
def next (p : Position) (c : Char) : Position :=
  ⟨p.offset + c.utf8Size, if c = '\n' then p.line + 1 else p.line⟩

/-- The position behind a list of characters. -/
def advance (p : Position) (cs : List Char) : Position :=
  ⟨p.offset + byteLength cs, p.line + lineFeeds cs⟩

end Position

/-! ### Lines -/

/-- Cut a text behind every line feed; what follows the last one is a line only if not empty. -/
def splitLines : List Char → List (List Char)
  | [] => []
  | c :: rest =>
    if c = '\n' then [c] :: splitLines rest
    else
      match splitLines rest with
      | [] => [[c]]
      | line :: lines => (c :: line) :: lines

/-- Whether a character is a line feed or a carriage return. -/
def isLineEnd (c : Char) : Bool := c == '\n' || c == '\r'

/-- A line without its line feed and one carriage return in front of that. -/
def withoutLineEnd (line : List Char) : List Char :=
  match line.reverse with
  | '\n' :: '\r' :: text => text.reverse
  | '\n' :: text => text.reverse
  | _ => line

/-! ### Matches -/

/-- What a pattern finds at the head of a text: a value and the number of characters it covers. -/
structure Match (α : Type) where
  value : α
  length : Nat
deriving Repr

/-- A match in its place. -/
structure Found (α : Type) where
  value : α
  /-- The position in front of the match. -/
  start : Position
  /-- The position behind it. -/
  stop : Position
deriving Repr

/-- All matches of a pattern from a position on, from left to right, the next one sought behind the
    last.  The first `skip` characters belong to a match already found. -/
def findAllFrom {α : Type} (pattern : List Char → Option (Match α)) :
    (skip : Nat) → Position → List Char → List (Found α)
  | _, _, [] => []
  | skip + 1, p, c :: cs => findAllFrom pattern skip (p.next c) cs
  | 0, p, c :: cs =>
    match pattern (c :: cs) with
    | some m =>
      ⟨m.value, p, p.advance ((c :: cs).take m.length)⟩
        :: findAllFrom pattern (m.length - 1) (p.next c) cs
    | none => findAllFrom pattern 0 (p.next c) cs

/-- All matches of a pattern in a text, from left to right, none overlapping. -/
def findAll {α : Type} (pattern : List Char → Option (Match α)) (cs : List Char) :
    List (Found α) :=
  findAllFrom pattern 0 .start cs

end WikiNotes.Text
