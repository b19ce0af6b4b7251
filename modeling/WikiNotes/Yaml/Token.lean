import WikiNotes.Yaml.ScalarText

/-! # The tokens of a YAML text

Indentation and the marks of a YAML text become tokens: the start and end of collections, their
entries, keys and values, and the scalars with their properties.  A key is only known as one when
the colon behind it is met, so the tokenizer remembers where a key may have started and puts the
key token there afterwards.  Such a key must stand on one line and within 1024 characters.

`Token.ofText` gives all tokens of a text, or nothing if the text is malformed. -/

namespace WikiNotes.Yaml

/-- How a scalar is written, as far as it matters to its value. -/
inductive ScalarStyle where
  | plain
  | quoted
deriving DecidableEq, Repr

/-- A token. -/
inductive Token where
  | version (major minor : Nat)
  | handle (name tagStart : String)
  | documentStart
  | documentEnd
  | blockSequence
  | blockMapping
  | blockEnd
  | openSequence
  | closeSequence
  | openMapping
  | closeMapping
  | blockEntry
  | flowEntry
  | key
  | value
  | alias (name : String)
  | anchor (name : String)
  | tag (handle suffix : String)
  | scalar (style : ScalarStyle) (text : String)
deriving DecidableEq, Repr

/-- A place where a key may have started. -/
structure KeyStart where
  /-- How many tokens come before the key. -/
  position : Nat
  /-- Whether a colon must follow, since nothing else may start at its column. -/
  required : Bool
  index : Nat
  line : Nat
  column : Nat

/-- The state of the tokenizer. -/
structure Tokenizer where
  cursor : Cursor
  /-- The tokens so far, the last one first. -/
  tokens : List Token
  /-- The columns of the open block collections, the innermost first. -/
  blocks : List Nat
  /-- Where a key may have started: in the innermost flow collection first, outside of all last. -/
  keyStarts : List (Option KeyStart)
  /-- Whether a key may start here. -/
  keyAllowed : Bool

namespace Tokenizer

/-- The tokenizer in front of a text. -/
def start (cs : List Char) : Tokenizer := ⟨.start cs, [], [], [none], true⟩

/-- Whether a flow collection is open. -/
def inFlow (t : Tokenizer) : Bool := 1 < t.keyStarts.length

/-- The first column that belongs to the innermost block collection's entries' contents. -/
def contentColumn (t : Tokenizer) : Nat :=
  match t.blocks with
  | column :: _ => column + 1
  | [] => 0

/-- Add a token. -/
def emit (t : Tokenizer) (token : Token) : Tokenizer := { t with tokens := token :: t.tokens }

/-- Put tokens, the last one first, behind the first `position` tokens. -/
def emitAt (t : Tokenizer) (position : Nat) (tokens : List Token) : Tokenizer :=
  let later := t.tokens.length - position
  { t with tokens := t.tokens.take later ++ tokens ++ t.tokens.drop later }

/-- Read the given number of characters and add a token. -/
def emitMark (t : Tokenizer) (width : Nat) (token : Token) : Tokenizer :=
  { t with cursor := t.cursor.skip width, tokens := token :: t.tokens }

/-- Close the block collections to the right of a column. -/
def closeTo (t : Tokenizer) (keep : Nat → Bool) : Tokenizer :=
  if t.inFlow then t
  else
    let closed := t.blocks.takeWhile fun column => !keep column
    { t with
      blocks := t.blocks.drop closed.length
      tokens := closed.map (fun _ => Token.blockEnd) ++ t.tokens }

/-- Open a block collection at a column, unless one is open there; its token goes behind the first
    `position` tokens. -/
def openAt (t : Tokenizer) (column position : Nat) (token : Token) : Tokenizer :=
  if t.inFlow || t.blocks.head?.any (column ≤ ·) then t
  else { t.emitAt position [token] with blocks := column :: t.blocks }

/-- Forget where a key may have started; an error if it had to be one. -/
def dropKeyStart (t : Tokenizer) : Option Tokenizer :=
  match t.keyStarts with
  | some start :: outer =>
    if start.required then none else some { t with keyStarts := none :: outer }
  | _ => some t

/-- Remember that a key may start here. -/
def markKeyStart (t : Tokenizer) : Option Tokenizer :=
  if t.keyAllowed then
    t.dropKeyStart.map fun t =>
      let c := t.cursor
      let start : KeyStart :=
        { position := t.tokens.length
          required := !t.inFlow && t.blocks.head? == some c.column
          index := c.index
          line := c.line
          column := c.column }
      { t with keyStarts := some start :: t.keyStarts.tail }
  else some t

/-- Forget every key start that is on an earlier line or too far behind. -/
def dropStale (t : Tokenizer) : Option Tokenizer :=
  let stale (start : KeyStart) : Bool :=
    start.line < t.cursor.line || start.index + 1024 < t.cursor.index
  let failed := t.keyStarts.any fun start? => start?.any fun start => stale start && start.required
  if failed then none
  else
    some { t with
      keyStarts := t.keyStarts.map fun start? => start?.filter fun start => !stale start }

/-- Read blanks, comments and line ends up to the next token.  Outside flow collections a key may
    start on a new line, and a tab may not stand where one may start. -/
def skipToToken : (fuel : Nat) → Tokenizer → Tokenizer
  | 0, t => t
  | fuel + 1, t =>
    let c := t.cursor
    let c := if c.index == 0 && c.rest.head? == some '\ufeff' then c.skip 1 else c
    let c := (c.takeWhile fun ch => ch == ' ' || (ch == '\t' && (t.inFlow || !t.keyAllowed))).2
    let c := if c.rest.head? == some '#' then c.toBreak.2 else c
    if !c.rest.isEmpty && atBreak c.rest then
      skipToToken fuel { t with cursor := c.takeBreak.2, keyAllowed := t.keyAllowed || !t.inFlow }
    else { t with cursor := c }

/-! ### Directives and properties -/

/-- A number of up to nine digits. -/
def readNumber (c : Cursor) : Option (Nat × Cursor) :=
  let (digits, c) := c.takeWhile Char.isDigit
  if digits.isEmpty || 9 < digits.length then none
  else some (digits.foldl (fun n d => n * 10 + (d.toNat - '0'.toNat)) 0, c)

/-- A tag handle: an exclamation mark, a name, and another mark unless the name is missing.  In a
    property the second mark may be missing behind a name as well. -/
def readHandle (isDirective : Bool) (c : Cursor) : Option (List Char × Cursor) :=
  if c.rest.head? == some '!' then
    let (name, c) := (c.skip 1).takeWhile isNameChar
    if c.rest.head? == some '!' then some ('!' :: name ++ ['!'], c.skip 1)
    else if isDirective && !name.isEmpty then none
    else some ('!' :: name, c)
  else none

/-- The bytes that percent escapes at the head of a text write for one character. -/
def percentChar? (cs : List Char) : Option (Char × Nat) :=
  let octet? (cs : List Char) : Option Nat :=
    match cs with
    | '%' :: a :: b :: _ => hexNumber? [a, b]
    | _ => none
  (octet? cs).bind fun first =>
    let shape : Option (Nat × Nat) :=
      if first < 0x80 then some (0, first)
      else if 0xC0 ≤ first && first < 0xE0 then some (1, first - 0xC0)
      else if 0xE0 ≤ first && first < 0xF0 then some (2, first - 0xE0)
      else if 0xF0 ≤ first && first < 0xF8 then some (3, first - 0xF0)
      else none
    shape.bind fun (more, bits) =>
      ((List.range more).foldlM (fun code i =>
        (octet? (cs.drop (3 * (i + 1)))).bind fun octet =>
          if 0x80 ≤ octet && octet < 0xC0 then some (code * 64 + (octet - 0x80)) else none)
        bits).map fun code => (Char.ofNat code, 3 * (more + 1))

/-- Whether a character may stand in a tag; the separators of flow collections only between angle
    brackets. -/
def isTagUriChar (verbatim : Bool) (c : Char) : Bool :=
  isNameChar c || ";/?:@&=+$.!~*'()".toList.contains c || (verbatim && [',', '[', ']'].contains c)

/-- The characters of a tag, with percent escapes undone. -/
def readTagUri (verbatim : Bool) : (fuel : Nat) → (uri : List Char) → Cursor →
    Option (List Char × Cursor)
  | 0, uri, c => some (uri, c)
  | fuel + 1, uri, c =>
    match c.rest with
    | '%' :: _ =>
      match percentChar? c.rest with
      | some (ch, width) => readTagUri verbatim fuel (uri ++ [ch]) (c.skip width)
      | none => none
    | ch :: _ =>
      if isTagUriChar verbatim ch then readTagUri verbatim fuel (uri ++ [ch]) (c.skip 1)
      else some (uri, c)
    | [] => some (uri, c)

/-- A tag property: between angle brackets, with a handle, or with the exclamation mark only. -/
def readTag (inFlow : Bool) (c : Cursor) : Option (Token × Cursor) :=
  let tag : Option (List Char × List Char × Cursor) :=
    if c.rest.take 2 == ['!', '<'] then
      (readTagUri true c.rest.length [] (c.skip 2)).bind fun (uri, c) =>
        if uri.isEmpty || c.rest.head? != some '>' then none else some ([], uri, c.skip 1)
    else
      (readHandle false c).bind fun (handle, c) =>
        let named := 1 < handle.length && handle.getLast? == some '!'
        (readTagUri false c.rest.length [] c).bind fun (uri, c) =>
          if named then if uri.isEmpty then none else some (handle, uri, c)
          else
            let suffix := handle.tail ++ uri
            some (if suffix.isEmpty then ([], ['!'], c) else (['!'], suffix, c))
  tag.bind fun (handle, suffix, c) =>
    if atGap c.rest || (inFlow && c.rest.head? == some ',') then
      some (.tag (String.ofList handle) (String.ofList suffix), c)
    else none

/-- The name behind the mark of an anchor or an alias. -/
def readAnchorName (c : Cursor) : Option (String × Cursor) :=
  let (name, c) := c.takeWhile isNameChar
  let ended := atGap c.rest || c.rest.head?.any fun ch => "?:,]%@".toList.contains ch
    || ch == '\x7d' || ch == '\x60'
  if name.isEmpty || !ended then none else some (String.ofList name, c)

/-- A directive, whose percent sign has been read. -/
def readDirective (c : Cursor) : Option (Token × Cursor) :=
  let (name, c) := c.takeWhile isNameChar
  if name.isEmpty || !atGap c.rest then none
  else
    let directive : Option (Token × Cursor) :=
      if name == "YAML".toList then
        (readNumber c.skipSpaces).bind fun (major, c) =>
          if c.rest.head? != some '.' then none
          else (readNumber (c.skip 1)).map fun (minor, c) => (.version major minor, c)
      else if name == "TAG".toList then
        (readHandle true c.skipSpaces).bind fun (handle, c) =>
          if !c.rest.head?.any isSpace then none
          else
            (readTagUri true c.rest.length [] c.skipSpaces).bind fun (uri, c) =>
              if uri.isEmpty || !atGap c.rest then none
              else some (.handle (String.ofList handle) (String.ofList uri), c)
      else none
    directive.bind fun (token, c) =>
      let c := c.skipSpaces
      let c := if c.rest.head? == some '#' then c.toBreak.2 else c
      if atBreak c.rest then some (token, c.takeBreak.2) else none

/-! ### One token -/

/-- Close all block collections and forget the key start, as at the border of a document. -/
def leaveDocument (t : Tokenizer) : Option Tokenizer :=
  (t.closeTo fun _ => false).dropKeyStart.map ({ · with keyAllowed := false })

/-- A scalar or another node that may be a key. -/
def emitNode (t : Tokenizer) (read : Cursor → Option (Token × Cursor)) : Option Tokenizer :=
  t.markKeyStart.bind fun t =>
    (read t.cursor).map fun (token, c) => { t.emit token with cursor := c, keyAllowed := false }

/-- The mark that opens a flow collection. -/
def openFlow (t : Tokenizer) (token : Token) : Option Tokenizer :=
  t.markKeyStart.map fun t =>
    { t.emitMark 1 token with keyStarts := none :: t.keyStarts, keyAllowed := true }

/-- The mark that closes a flow collection. -/
def closeFlow (t : Tokenizer) (token : Token) : Option Tokenizer :=
  t.dropKeyStart.map fun t =>
    { t.emitMark 1 token with
      keyStarts := if t.inFlow then t.keyStarts.tail else t.keyStarts
      keyAllowed := false }

/-- The mark in front of an entry of a block sequence. -/
def blockEntry (t : Tokenizer) : Option Tokenizer :=
  if t.inFlow || t.keyAllowed then
    (t.openAt t.cursor.column t.tokens.length .blockSequence).dropKeyStart.map fun t =>
      { t.emitMark 1 .blockEntry with keyAllowed := true }
  else none

/-- The mark in front of a key. -/
def explicitKey (t : Tokenizer) : Option Tokenizer :=
  if t.inFlow || t.keyAllowed then
    (t.openAt t.cursor.column t.tokens.length .blockMapping).dropKeyStart.map fun t =>
      { t.emitMark 1 .key with keyAllowed := !t.inFlow }
  else none

/-- The mark in front of a value.  If a key may have started, it did, and its tokens are put in
    front of it. -/
def valueMark (t : Tokenizer) : Option Tokenizer :=
  match t.keyStarts with
  | some start :: outer =>
    -- The key's token goes in front of its tokens, and a mapping that it opens in front of both.
    let t := { t with keyStarts := none :: outer }
    let t := t.emitAt start.position [.key]
    let t := t.openAt start.column start.position .blockMapping
    some { t.emitMark 1 .value with keyAllowed := false }
  | _ =>
    if t.inFlow || t.keyAllowed then
      let t := t.openAt t.cursor.column t.tokens.length .blockMapping
      some { t.emitMark 1 .value with keyAllowed := !t.inFlow }
    else none

/-- A block scalar. -/
def blockScalar (t : Tokenizer) (folded : Bool) : Option Tokenizer :=
  t.dropKeyStart.bind fun t =>
    (readBlock folded t.blocks.head? (t.cursor.skip 1)).map fun (text, c) =>
      { t.emit (.scalar .quoted (String.ofList text)) with cursor := c, keyAllowed := true }

/-- A plain scalar. -/
def plainScalar (t : Tokenizer) : Option Tokenizer :=
  t.markKeyStart.bind fun t =>
    (readPlain t.inFlow t.contentColumn t.cursor).map fun scalar =>
      { t.emit (.scalar .plain (String.ofList scalar.text)) with
        cursor := scalar.after
        keyAllowed := scalar.broken }

/-- Whether a character may not start a plain scalar, whatever follows. -/
def isIndicator (c : Char) : Bool :=
  "-?:,[]#&*!|>'\"%@".toList.contains c || c == '\x7b' || c == '\x7d' || c == '\x60'

/-- Whether a plain scalar starts at the head of a text. -/
def startsPlain (inFlow : Bool) : List Char → Bool
  | [] => false
  | ch :: rest =>
    (!isIndicator ch && !isSpace ch && !isBreak ch)
      || (ch == '-' && !rest.head?.any isSpace)
      || (!inFlow && (ch == '?' || ch == ':') && !atGap rest)

/-- Read the token at the cursor, which does not stand at the end. -/
def readToken (t : Tokenizer) (ch : Char) (rest : List Char) : Option Tokenizer :=
  let c := t.cursor
  let quoted (quote : Char) : Option Tokenizer :=
    t.emitNode fun c => (readQuoted quote (c.skip 1)).map fun (text, c) =>
      (.scalar .quoted (String.ofList text), c)
  if c.column == 0 && ch == '%' then
    t.leaveDocument.bind fun t =>
      (readDirective (t.cursor.skip 1)).map fun (token, c) => { t.emit token with cursor := c }
  else if c.atDivider '-' then t.leaveDocument.map (·.emitMark 3 .documentStart)
  else if c.atDivider '.' then t.leaveDocument.map (·.emitMark 3 .documentEnd)
  else if ch == '[' then t.openFlow .openSequence
  else if ch == '\x7b' then t.openFlow .openMapping
  else if ch == ']' then t.closeFlow .closeSequence
  else if ch == '\x7d' then t.closeFlow .closeMapping
  else if ch == ',' then
    t.dropKeyStart.map fun t => { t.emitMark 1 .flowEntry with keyAllowed := true }
  else if ch == '-' && atGap rest then t.blockEntry
  else if ch == '?' && (t.inFlow || atGap rest) then t.explicitKey
  else if ch == ':' && (t.inFlow || atGap rest) then t.valueMark
  else if ch == '*' then
    t.emitNode fun c => (readAnchorName (c.skip 1)).map fun (name, c) => (.alias name, c)
  else if ch == '&' then
    t.emitNode fun c => (readAnchorName (c.skip 1)).map fun (name, c) => (.anchor name, c)
  else if ch == '!' then t.emitNode (readTag t.inFlow)
  else if ch == '|' && !t.inFlow then t.blockScalar false
  else if ch == '>' && !t.inFlow then t.blockScalar true
  else if ch == '\'' || ch == '"' then quoted ch
  else if startsPlain t.inFlow (ch :: rest) then t.plainScalar
  else none

/-- Read all tokens from the cursor on, in order.  Every token but the last reads a character. -/
def readAll : (fuel : Nat) → Tokenizer → Option (List Token)
  | 0, _ => none
  | fuel + 1, t =>
    -- A token to the left of open block collections closes them.
    (skipToToken (t.cursor.rest.length + 1) t).dropStale.bind fun t =>
      let t := t.closeTo (· ≤ t.cursor.column)
      match t.cursor.rest with
      | [] => t.leaveDocument.map fun t => t.tokens.reverse
      | ch :: rest => (t.readToken ch rest).bind (readAll fuel)

end Tokenizer

/-- The tokens of a text, unless it is malformed. -/
def Token.ofChars? (cs : List Char) : Option (List Token) :=
  if cs.all isAllowed then
    let cs := if cs.head? = some '\ufeff' then cs.tail else cs
    (Tokenizer.start cs).readAll (cs.length + 1)
  else none

end WikiNotes.Yaml
