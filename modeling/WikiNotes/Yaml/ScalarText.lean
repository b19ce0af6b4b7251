import WikiNotes.Yaml.Cursor

/-! # The texts of YAML scalars

A scalar is written plainly, between quotes, or as a block of lines.  Each way has a reader here
that starts behind the scalar's first mark and gives the text that it stands for and the cursor
behind it, or nothing if it is malformed.

Where a plain or quoted scalar runs over several lines, the blanks around a line end are dropped
and the line end counts as a space; where there are several line ends, the first is dropped and
the others are kept. -/

namespace WikiNotes.Yaml

/-! ### Gaps between words -/

/-- What stands between two words of a scalar. -/
inductive Gap where
  /-- Spaces and tabs on one line. -/
  | spaces (text : List Char)
  /-- The first line end, empty if it was escaped, and those after it. -/
  | breaks (first more : List Char)

/-- What a gap counts as: spaces stay, one line end is a space, of several the first is dropped. -/
def Gap.text : Gap → List Char
  | spaces text => text
  | breaks ['\n'] [] => [' ']
  | breaks ['\n'] more => more
  | breaks first more => first ++ more

/-- Whether a gap reaches over a line end. -/
def Gap.isBroken : Gap → Bool
  | spaces _ => false
  | breaks .. => true

/-- Read a gap, given what was read of it.  After a line end, a tab in a column before `limit` is an
    error.  `fuel` bounds the characters left. -/
def readGap (limit : Nat) : (fuel : Nat) → Gap → Cursor → Option (Gap × Cursor)
  | 0, gap, c => some (gap, c)
  | fuel + 1, gap, c =>
    match c.rest with
    | [] => some (gap, c)
    | ch :: _ =>
      if isSpace ch then
        match gap with
        | .spaces text => readGap limit fuel (.spaces (text ++ [ch])) (c.skip 1)
        | .breaks .. =>
          if ch == '\t' && c.column < limit then none else readGap limit fuel gap (c.skip 1)
      else if isBreak ch then
        let (text, c') := c.takeBreak
        match gap with
        | .spaces _ => readGap limit fuel (.breaks text []) c'
        | .breaks first more => readGap limit fuel (.breaks first (more ++ text)) c'
      else some (gap, c)

/-! ### Plain scalars -/

/-- A plain scalar that has been read. -/
structure PlainScalar where
  text : List Char
  /-- Whether a line end was read behind it. -/
  broken : Bool
  after : Cursor

/-- Whether a plain scalar ends here: at a colon in front of a gap and, inside a flow collection, at
    a mark of that. -/
def endsPlain (inFlow : Bool) : List Char → Bool
  | [] => true
  | ':' :: rest => atGap rest
  | ch :: _ => inFlow && isFlowMark ch

/-- A word of a plain scalar and what follows it. -/
def plainWord (inFlow : Bool) : List Char → List Char
  | [] => []
  | ch :: rest =>
    if isSpace ch || isBreak ch || endsPlain inFlow (ch :: rest) then []
    else ch :: plainWord inFlow rest

/-- Whether a colon stands in front of a flow mark or a question mark, which is an error inside a
    flow collection. -/
def hasCrampedColon : List Char → Bool
  | [] => false
  | ':' :: ch :: rest => isFlowMark ch || ch == '?' || hasCrampedColon (ch :: rest)
  | _ :: rest => hasCrampedColon rest

/-- Read a plain scalar, given its text so far and the gap behind that.  `column` is the first
    column that its further lines may start in, outside a flow collection. -/
def readPlainFrom (inFlow : Bool) (column : Nat) :
    (fuel : Nat) → (text : List Char) → Gap → Cursor → Option PlainScalar
  | 0, _, _, _ => none
  | fuel + 1, text, gap, c =>
    let finished := some ⟨text, gap.isBroken, c⟩
    if c.atAnyDivider || c.rest.head? == some '#' then finished
    else
      -- The gap in front of a word counts only once the word is there.
      let word := plainWord inFlow c.rest
      if inFlow && hasCrampedColon (c.rest.take (word.length + 1)) then none
      else
        let text' := if word.isEmpty then text else text ++ gap.text ++ word
        let gap' := if word.isEmpty then gap else .spaces []
        let c' := c.skip word.length
        if c'.rest.isEmpty || !atGap c'.rest then some ⟨text', gap'.isBroken, c'⟩
        else
          (readGap column (c'.rest.length + 1) gap' c').bind fun (gap'', c'') =>
            if !inFlow && c''.column < column then some ⟨text', gap''.isBroken, c''⟩
            else readPlainFrom inFlow column fuel text' gap'' c''

/-- Read the plain scalar at the cursor. -/
def readPlain (inFlow : Bool) (column : Nat) (c : Cursor) : Option PlainScalar :=
  readPlainFrom inFlow column (c.rest.length + 1) [] (.spaces []) c

/-! ### Quoted scalars -/

/-- The value of a hexadecimal digit. -/
def hexDigit? (c : Char) : Option Nat :=
  if '0' ≤ c && c ≤ '9' then some (c.toNat - '0'.toNat)
  else if 'a' ≤ c && c ≤ 'f' then some (c.toNat - 'a'.toNat + 10)
  else if 'A' ≤ c && c ≤ 'F' then some (c.toNat - 'A'.toNat + 10)
  else none

/-- The number that hexadecimal digits write. -/
def hexNumber? (digits : List Char) : Option Nat :=
  digits.foldlM (fun n c => (hexDigit? c).map (n * 16 + ·)) 0

/-- The characters that a backslash and one more character stand for. -/
def simpleEscapes : List (Char × Nat) :=
  [('0', 0x00), ('a', 0x07), ('b', 0x08), ('t', 0x09), ('\t', 0x09), ('n', 0x0A), ('v', 0x0B),
   ('f', 0x0C), ('r', 0x0D), ('e', 0x1B), (' ', 0x20), ('"', 0x22), ('/', 0x2F), ('\\', 0x5C),
   ('N', 0x85), ('_', 0xA0), ('L', 0x2028), ('P', 0x2029)]

/-- The character that an escape behind a backslash stands for, and the length of the escape. -/
def escape? : List Char → Option (Char × Nat)
  | [] => none
  | ch :: rest =>
    match simpleEscapes.lookup ch with
    | some n => some (Char.ofNat n, 1)
    | none =>
      let width := if ch == 'x' then 2 else if ch == 'u' then 4 else if ch == 'U' then 8 else 0
      if width = 0 || rest.length < width then none
      else
        (hexNumber? (rest.take width)).bind fun n =>
          if n.isValidChar then some (Char.ofNat n, width + 1) else none

/-- Read a word of a quoted scalar, up to a gap or the closing quote.  The last component says that
    the word ended with an escaped line end, behind which the cursor stands. -/
def readQuotedWord (quote : Char) : (fuel : Nat) → (word : List Char) → Cursor →
    Option (List Char × Cursor × Bool)
  | 0, _, _ => none
  | fuel + 1, word, c =>
    match c.rest with
    | [] => some (word, c, false)
    | ch :: rest =>
      if isSpace ch || isBreak ch then some (word, c, false)
      else if ch == quote then
        -- Between single quotes a quote is written twice.
        if quote == '\'' && rest.head? == some quote then
          readQuotedWord quote fuel (word ++ [quote]) (c.skip 2)
        else some (word, c, false)
      else if ch == '\\' && quote == '"' then
        if !rest.isEmpty && atBreak rest then some (word, (c.skip 1).takeBreak.2, true)
        else
          match escape? rest with
          | some (ch', width) => readQuotedWord quote fuel (word ++ [ch']) (c.skip (width + 1))
          | none => none
      else readQuotedWord quote fuel (word ++ [ch]) (c.skip 1)

/-- Read a quoted scalar up to and with its closing quote, given its text so far. -/
def readQuotedFrom (quote : Char) : (fuel : Nat) → (text : List Char) → Cursor →
    Option (List Char × Cursor)
  | 0, _, _ => none
  | fuel + 1, text, c =>
    if c.atAnyDivider || c.rest.isEmpty then none
    else
      (readQuotedWord quote (c.rest.length + 1) [] c).bind fun (word, c', escaped) =>
        if c'.rest.head? == some quote then some (text ++ word, c'.skip 1)
        else
          let gap := if escaped then .breaks [] [] else .spaces []
          (readGap 0 (c'.rest.length + 1) gap c').bind fun (gap, c'') =>
            readQuotedFrom quote fuel (text ++ word ++ gap.text) c''

/-- Read a quoted scalar whose opening quote has been read. -/
def readQuoted (quote : Char) (c : Cursor) : Option (List Char × Cursor) :=
  readQuotedFrom quote (c.rest.length + 1) [] c

/-! ### Block scalars -/

/-- What becomes of the line ends behind a block scalar. -/
inductive Chomping where
  /-- None is kept. -/
  | strip
  /-- One is kept. -/
  | clip
  /-- All are kept. -/
  | keep
deriving DecidableEq

/-- The indicators behind the mark of a block scalar: chomping and indentation, in either order. -/
def blockIndicators (c : Cursor) : Option (Chomping × Option Nat × Cursor) :=
  let chomping? (c : Cursor) : Option (Chomping × Cursor) :=
    match c.rest with
    | '+' :: _ => some (.keep, c.skip 1)
    | '-' :: _ => some (.strip, c.skip 1)
    | _ => none
  let digit? (c : Cursor) : Option (Nat × Cursor) :=
    match c.rest with
    | ch :: _ => if ch.isDigit then some (ch.toNat - '0'.toNat, c.skip 1) else none
    | [] => none
  let given :=
    match chomping? c with
    | some (chomping, c₁) =>
      match digit? c₁ with
      | some (n, c₂) => (chomping, some n, c₂)
      | none => (chomping, none, c₁)
    | none =>
      match digit? c with
      | some (n, c₁) =>
        match chomping? c₁ with
        | some (chomping, c₂) => (chomping, some n, c₂)
        | none => (.clip, some n, c₁)
      | none => (.clip, none, c)
  if given.2.1 = some 0 then none else some given

/-- Read the indentation of the next line of a block scalar and the empty lines before it.  While
    the indentation of the block is not known, every column is read and the greatest remembered.
    Gives the line ends read, the greatest column, and the cursor. -/
def readIndentation (indent : Option Nat) : (fuel : Nat) → (breaks : List Char) →
    (greatest : Nat) → Cursor → Option (List Char × Nat × Cursor)
  | 0, breaks, greatest, c => some (breaks, greatest, c)
  | fuel + 1, breaks, greatest, c =>
    let spaces := (c.rest.takeWhile (· == ' ')).length
    let c := c.skip (match indent with | some n => min spaces (n - c.column) | none => spaces)
    let greatest := max greatest c.column
    let short := match indent with | some n => decide (c.column < n) | none => true
    if short && c.rest.head? == some '\t' then none
    else if !c.rest.isEmpty && atBreak c.rest then
      let (text, c') := c.takeBreak
      readIndentation indent fuel (breaks ++ text) greatest c'
    else some (breaks, greatest, c)

/-- Read the lines of a block scalar, given its text so far, the line end behind that, the empty
    lines behind that, and whether the last line started with a blank.  In a folded scalar a line
    end between two lines that start with something else counts as a space. -/
def readBlockLines (folded : Bool) (indent : Nat) : (fuel : Nat) → (text : List Char) →
    (lineEnd emptyLines : List Char) → (blank : Bool) → Cursor →
    Option (List Char × List Char × List Char × Cursor)
  | 0, _, _, _, _, _ => none
  | fuel + 1, text, lineEnd, emptyLines, blank, c =>
    if c.column != indent || c.rest.isEmpty then some (text, lineEnd, emptyLines, c)
    else
      let blank' := c.rest.head?.any isSpace
      let joint :=
        if folded && lineEnd == ['\n'] && !blank && !blank' then
          if emptyLines.isEmpty then [' '] else emptyLines
        else lineEnd ++ emptyLines
      let (line, c₁) := c.toBreak
      let (lineEnd', c₂) := c₁.takeBreak
      (readIndentation (some indent) (c₂.rest.length + 1) [] 0 c₂).bind
        fun (emptyLines', _, c₃) =>
          readBlockLines folded indent fuel (text ++ joint ++ line) lineEnd' emptyLines' blank' c₃

/-- Read a block scalar whose mark has been read.  `parent` is the column of the collection that it
    belongs to, none outside of all. -/
def readBlock (folded : Bool) (parent : Option Nat) (c : Cursor) : Option (List Char × Cursor) :=
  (blockIndicators c).bind fun (chomping, increment, c) =>
    let c := c.skipSpaces
    let c := if c.rest.head? == some '#' then c.toBreak.2 else c
    if !atBreak c.rest then none
    else
      let c := c.takeBreak.2
      let given := increment.map fun n => (parent.getD 0) + n
      (readIndentation given (c.rest.length + 1) [] 0 c).bind fun (emptyLines, greatest, c) =>
        -- Without an indicator the block is indented as far as its first line, or an empty line
        -- in front of that reaches further.
        let least := match parent with | some column => column + 1 | none => 0
        let indent := given.getD (max 1 (max greatest least))
        (readBlockLines folded indent (c.rest.length + 1) [] [] emptyLines false c).map
          fun (text, lineEnd, emptyLines, c) =>
            match chomping with
            | .strip => (text, c)
            | .clip => (text ++ lineEnd, c)
            | .keep => (text ++ lineEnd ++ emptyLines, c)

end WikiNotes.Yaml
