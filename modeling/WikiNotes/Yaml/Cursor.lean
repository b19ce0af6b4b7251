/-! # Reading YAML character by character

A cursor is the rest of a YAML text with the place that has been reached: how many characters were
read, the line and the column.  Columns decide what belongs to what, so every read keeps them.

Of the line ends, the carriage return, the line feed, both together, and the next-line control all
count as one line feed in a scalar; the line and paragraph separators are kept as they are. -/

namespace WikiNotes.Yaml

/-! ### Character classes -/

/-- Whether a character may occur in a YAML text at all. -/
def isAllowed (c : Char) : Bool :=
  let n := c.toNat
  n == 0x09 || n == 0x0A || n == 0x0D || (0x20 ≤ n && n ≤ 0x7E) || n == 0x85
    || (0xA0 ≤ n && n ≤ 0xD7FF) || (0xE000 ≤ n && n ≤ 0xFFFD) || 0x10000 ≤ n

/-- Whether a character ends a line. -/
def isBreak (c : Char) : Bool :=
  c == '\n' || c == '\r' || c == '\u0085' || c == '\u2028' || c == '\u2029'

/-- Whether a character is a space or a tab. -/
def isSpace (c : Char) : Bool := c == ' ' || c == '\t'

/-- Whether a text is at its end or at a line end. -/
def atBreak : List Char → Bool
  | [] => true
  | c :: _ => isBreak c

/-- Whether a text is at its end, a line end, a space or a tab. -/
def atGap : List Char → Bool
  | [] => true
  | c :: _ => isBreak c || isSpace c

/-- Whether a character may stand in the name of an anchor, a directive or a tag handle. -/
def isNameChar (c : Char) : Bool := c.isAlphanum || c == '_' || c == '-'

/-- Whether a character opens or closes a flow collection or separates its entries. -/
def isFlowMark (c : Char) : Bool := [',', '[', ']', '\x7b', '\x7d'].contains c

/-! ### The cursor -/

/-- The rest of a text and the place that has been reached. -/
structure Cursor where
  rest : List Char
  /-- Characters read so far. -/
  index : Nat
  /-- Lines ended so far. -/
  line : Nat
  /-- Characters read on the line. -/
  column : Nat

namespace Cursor

/-- The cursor in front of a text. -/
def start (cs : List Char) : Cursor := ⟨cs, 0, 0, 0⟩

/-- Read the given number of characters of one line. -/
def skip (c : Cursor) (n : Nat) : Cursor :=
  ⟨c.rest.drop n, c.index + n, c.line, c.column + n⟩

/-- Read the longest run of characters of a class, none of which ends a line. -/
def takeWhile (c : Cursor) (p : Char → Bool) : List Char × Cursor :=
  let run := c.rest.takeWhile p
  (run, c.skip run.length)

/-- Read spaces and tabs. -/
def skipSpaces (c : Cursor) : Cursor := (c.takeWhile isSpace).2

/-- Read up to the next line end. -/
def toBreak (c : Cursor) : List Char × Cursor := c.takeWhile fun ch => !isBreak ch

/-- Read a line end, if the cursor stands at one; gives what it counts as in a scalar. -/
def takeBreak (c : Cursor) : List Char × Cursor :=
  match c.rest with
  | '\r' :: '\n' :: rest => (['\n'], ⟨rest, c.index + 2, c.line + 1, 0⟩)
  | ch :: rest =>
    if isBreak ch then
      ([if ch == '\u2028' || ch == '\u2029' then ch else '\n'], ⟨rest, c.index + 1, c.line + 1, 0⟩)
    else ([], c)
  | [] => ([], c)

/-- Whether the cursor stands at a line that divides documents: three equal marks at its start, and
    a gap behind them. -/
def atDivider (c : Cursor) (mark : Char) : Bool :=
  c.column == 0 && c.rest.take 3 == [mark, mark, mark] && atGap (c.rest.drop 3)

/-- Whether the cursor stands at a line that divides documents. -/
def atAnyDivider (c : Cursor) : Bool := c.atDivider '-' || c.atDivider '.'

end Cursor

end WikiNotes.Yaml
