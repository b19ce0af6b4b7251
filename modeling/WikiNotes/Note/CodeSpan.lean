import WikiNotes.SortedMap
import WikiNotes.Text.Position

/-! # Code in a note

Links, tags and headings inside code do not count.  Code is a fenced block, which opens with three
or more equal marks at the start of a line and closes with a line of at least as many, or a span
between single or double backticks.  `CodeSpan.findAll` gives all spans of a text in order; a
backtick span that overlaps a span found earlier is left out, where fenced blocks come first,
then double backticks, then single ones. -/

namespace WikiNotes

open Text

/-- A stretch of a text that is code. -/
structure CodeSpan where
  /-- Byte offset of its first character. -/
  start : Nat
  /-- Byte offset behind its last character. -/
  stop : Nat
  /-- Line of its start. -/
  startLine : Nat
  /-- Line of its end. -/
  stopLine : Nat
  /-- Whether it is a fenced block. -/
  fenced : Bool
deriving DecidableEq, Repr

namespace CodeSpan

/-- The character between which inline code stands. -/
def tick : Char := '\x60'

/-! ### Fenced blocks -/

/-- A fence that has been opened. -/
structure Fence where
  mark : Char
  /-- How many marks it was opened with. -/
  width : Nat
  /-- Where it was opened. -/
  opened : Position
deriving Repr

/-- The mark and width of the fence that a line opens: at least three equal marks at its start. -/
def fenceMark? (line : List Char) : Option (Char × Nat) :=
  match line with
  | [] => none
  | c :: _ =>
    let width := (line.takeWhile (· = c)).length
    if (c = tick ∨ c = '~') ∧ 3 ≤ width then some (c, width) else none

/-- Whether a line closes a fence: blanks aside it holds only marks, no fewer than opened it. -/
def Fence.closedBy (fence : Fence) (line : List Char) : Bool :=
  let trimmed := trimChars line
  fence.width ≤ byteLength trimmed && trimmed.all (· = fence.mark)

/-- The fenced block that a fence opened and that ends at a position. -/
def Fence.span (fence : Fence) (stop : Position) : CodeSpan :=
  ⟨fence.opened.offset, stop.offset, fence.opened.line, stop.line, true⟩

/-- The fenced blocks in the lines from a position on, given the fence that is open there.  A block
    ends in front of the end of its closing line; one that is never closed runs to the end. -/
def fencedFrom : Option Fence → Position → List (List Char) → List CodeSpan
  | none, _, [] => []
  | some fence, p, [] => [fence.span p]
  | fence?, p, raw :: lines =>
    -- The line end is no part of a fence, but positions go on behind it.
    let line := dropEndWhile isLineEnd raw
    match fence? with
    | none =>
      fencedFrom ((fenceMark? line).map fun (mark, width) => ⟨mark, width, p⟩) (p.advance raw) lines
    | some fence =>
      if fence.closedBy line then
        fence.span (p.advance line) :: fencedFrom none (p.advance raw) lines
      else fencedFrom (some fence) (p.advance raw) lines

/-- The fenced blocks of a text. -/
def fencedBlocks (cs : List Char) : List CodeSpan := fencedFrom none .start (splitLines cs)

/-! ### Code between backticks -/

/-- Length of what stands between double backticks and of the closing pair: a backtick inside must
    be followed by something else. -/
def doubleTail? : List Char → Option Nat
  | [] => none
  | c :: cs =>
    if c ≠ tick then (doubleTail? cs).map (· + 1)
    else
      -- Two backticks close; one belongs to the code together with what follows it.
      match cs with
      | [] => none
      | c' :: cs' => if c' = tick then some 2 else (doubleTail? cs').map (· + 2)

/-- Code between double backticks at the head of a text. -/
def doubleSpan? : List Char → Option (Match Unit)
  | c :: c' :: cs =>
    if c = tick ∧ c' = tick then (doubleTail? cs).map fun n => ⟨(), n + 2⟩ else none
  | _ => none

/-- Code between single backticks at the head of a text: at least one character, all on one line
    and none a backtick. -/
def singleSpan? : List Char → Option (Match Unit)
  | [] => none
  | c :: cs =>
    let inner := cs.takeWhile fun c => c ≠ tick ∧ c ≠ '\n'
    if c = tick ∧ !inner.isEmpty ∧ (cs.drop inner.length).head? = some tick then
      some ⟨(), inner.length + 2⟩
    else none

/-- The span of inline code that a match covers. -/
def ofFound (found : Found Unit) : CodeSpan :=
  ⟨found.start.offset, found.stop.offset, found.start.line, found.stop.line, false⟩

/-! ### All spans -/

/-- Whether two spans share a byte. -/
def overlaps (a b : CodeSpan) : Bool := a.start < b.stop && b.start < a.stop

/-- Add the spans that overlap none of those before them. -/
def addDisjoint (spans : List CodeSpan) (more : List CodeSpan) : List CodeSpan :=
  more.foldl (fun spans span => if spans.any span.overlaps then spans else spans ++ [span]) spans

/-- All code of a text, in order. -/
def findAll (cs : List Char) : List CodeSpan :=
  -- Both kinds are sought in the whole text; what lies in a span found earlier drops out below.
  let double := (Text.findAll doubleSpan? cs).map ofFound
  let single := (Text.findAll singleSpan? cs).map ofFound
  sortBy (fun a b => compare a.start b.start)
    (addDisjoint (addDisjoint (fencedBlocks cs) double) single)

/-- All code of a text, in order. -/
def ofText (content : String) : List CodeSpan := findAll content.toList

/-- Whether a byte offset lies inside code. -/
def covers (spans : List CodeSpan) (offset : Nat) : Bool :=
  spans.any fun span => span.start ≤ offset && offset < span.stop

/-- Whether a line lies inside a fenced block. -/
def coversLine (spans : List CodeSpan) (line : Nat) : Bool :=
  spans.any fun span => span.fenced && span.startLine ≤ line && line ≤ span.stopLine

end CodeSpan

end WikiNotes
