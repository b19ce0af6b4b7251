import WikiNotes.Toml.Scalar
import WikiNotes.Toml.Table

/-! # TOML texts

Reads keys, values and whole texts.  `Entries.ofText?` gives the entries of the root table of a
text, or nothing if the text is malformed in its notation or breaks the rules on tables. -/

namespace WikiNotes.Toml

/-- How deep arrays and tables in braces may be nested. -/
def maxDepth : Nat := 79

/-- How many keys a dotted key may have. -/
def maxKeys : Nat := 79

/-! ### Lists of things -/

/-- One or more things with a mark between them, no more than the fuel says. -/
def separated {α : Type} (mark : Char) (item : List Char → Option (α × List Char)) :
    (fuel : Nat) → List Char → Option (List α × List Char)
  | 0, _ => none
  | fuel + 1, cs => do
    let (a, cs) ← item cs
    match cs with
    | c :: rest =>
      if c = mark then do
        let (others, rest) ← separated mark item fuel rest
        some (a :: others, rest)
      else some ([a], cs)
    | [] => some ([a], [])

/-- The items of an array behind its opening bracket, no more than the fuel says.  Blanks, line ends
    and comments may stand around each, and a comma behind the last. -/
def arrayItems {α : Type} (item : List Char → Option (α × List Char)) :
    (fuel : Nat) → List Char → Option (List α × List Char)
  | 0, _ => none
  | fuel + 1, cs => do
    let cs ← skipBlanks false cs
    match cs with
    | ']' :: rest => some ([], rest)
    | _ =>
      let (a, cs) ← item cs
      let cs ← skipBlanks false cs
      match cs with
      | ']' :: rest => some ([a], rest)
      | ',' :: rest => do
        let (others, rest) ← arrayItems item fuel rest
        some (a :: others, rest)
      | _ => none

/-! ### Keys -/

/-- Whether a character may stand in a key without quotes. -/
def isKeyChar (c : Char) : Bool := c.isAlphanum || c == '_' || c == '-'

/-- One key of a dotted key, with spaces around it. -/
def simpleKey? (cs : List Char) : Option (String × List Char) := do
  let cs := skipSpaces cs
  let (chars, rest) ←
    match cs with
    | '"' :: rest => basicString rest
    | '\'' :: rest => literalString rest
    | _ =>
      let run := cs.takeWhile isKeyChar
      if run.isEmpty then none else some (run, cs.dropWhile isKeyChar)
  some (String.ofList chars, skipSpaces rest)

/-- A dotted key. -/
def key? (cs : List Char) : Option (Key × List Char) := do
  let (keys, rest) ← separated '.' simpleKey? (cs.length + 1) cs
  let last ← keys.getLast?
  if keys.length ≤ maxKeys then some (⟨keys.dropLast, last⟩, rest) else none

/-! ### Values -/

/-- What was read up to a rest, as written. -/
def writtenUpTo (cs rest : List Char) : String :=
  String.ofList (cs.take (cs.length - rest.length))

/-- A number, a date or a time. -/
def numeric? (cs : List Char) : Option (Node × List Char) :=
  match afterDateTime? cs with
  | some rest => some (.dateTime (writtenUpTo cs rest), rest)
  | none =>
    match afterFloat? cs with
    | some rest => some (.float (writtenUpTo cs rest), rest)
    | none => (integer? cs).map fun (n, rest) => (.integer n, rest)

/-- A value that holds no other values. -/
def scalar? (cs : List Char) : Option (Node × List Char) :=
  match cs with
  | [] => none
  | 't' :: 'r' :: 'u' :: 'e' :: rest => some (.boolean true, rest)
  | 'f' :: 'a' :: 'l' :: 's' :: 'e' :: rest => some (.boolean false, rest)
  | c :: _ =>
    -- A date begins like a number and is tried first.
    if c = '"' ∨ c = '\'' then (string? cs).map fun (text, rest) => (.string text, rest)
    else numeric? cs

/-- A key with a value behind it, given how to read values; spaces may stand around both. -/
def pair? (value : List Char → Option (Node × List Char)) (cs : List Char) :
    Option ((Key × Node) × List Char) := do
  let (key, cs) ← key? cs
  let cs ← afterChar? '=' cs
  let (node, cs) ← value (skipSpaces cs)
  some ((key, node), skipSpaces cs)

/-- A value in which others are nested no deeper than given. -/
def value? : (depth : Nat) → List Char → Option (Node × List Char)
  | 0, cs => scalar? cs
  | depth + 1, cs =>
    match cs with
    | '[' :: rest => do
      let (items, rest) ← arrayItems (value? depth) (rest.length + 1) rest
      some (.array items, rest)
    | '\x7b' :: rest => do
      let (pairs, rest) ←
        match skipSpaces rest with
        | '\x7d' :: _ => some ([], skipSpaces rest)
        | _ => separated ',' (pair? (value? depth)) (rest.length + 1) rest
      let entries ← inlineEntries? pairs
      let rest ← afterChar? '\x7d' rest
      some (.table .inlined entries, rest)
    | _ => scalar? cs

/-! ### Texts -/

/-- A header behind its opening brackets, and the line end behind its closing ones. -/
def header? (closing : List Char) (cs : List Char) : Option (Key × List Char) := do
  let (key, cs) ← key? cs
  if cs.take closing.length == closing then
    let rest ← afterLine? (cs.drop closing.length)
    some (key, rest)
  else none

/-- A line that does something. -/
def line? (cs : List Char) : Option (Line × List Char) :=
  match cs with
  | '[' :: '[' :: rest => (header? [']', ']'] rest).map fun (key, rest) => (.element key, rest)
  | '[' :: rest => (header? [']'] rest).map fun (key, rest) => (.table key, rest)
  | _ => do
    let ((key, node), cs) ← pair? (value? maxDepth) cs
    let rest ← afterLine? cs
    some (.pair key node, rest)

/-- The lines of a text, no more than the fuel says. -/
def lines? : (fuel : Nat) → List Char → Option (List Line)
  | 0, _ => none
  | fuel + 1, cs =>
    match skipSpaces cs with
    | [] => some []
    | c :: rest =>
      if c = '#' ∨ c = '\n' ∨ c = '\r' then (afterLine? (c :: rest)).bind (lines? fuel)
      else do
        let (line, rest) ← line? (c :: rest)
        let others ← lines? fuel rest
        some (line :: others)

/-- A text without a byte-order mark in front. -/
def withoutMark : List Char → List Char
  | [] => []
  | c :: cs => if c = '\uFEFF' then cs else c :: cs

/-- The entries of the root table of a text. -/
def Entries.ofText? (text : String) : Option Entries :=
  let cs := withoutMark text.toList
  (lines? (cs.length + 1) cs).bind Line.runAll

end WikiNotes.Toml
