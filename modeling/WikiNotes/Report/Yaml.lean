import WikiNotes.Report.Value
import WikiNotes.Yaml.Value

/-! # Reports as YAML

Lists and records are written as blocks; a list in a record is not indented further, and an empty
list stands between brackets.  A text is written plainly where that reads back as the same text,
in single quotes where it would read as something else, as a block of lines where it holds line
feeds, and in double quotes where nothing else can hold it. -/

namespace WikiNotes.Report.Yaml

open WikiNotes.Yaml (isBreak atGap)

/-! ### The ways to write a text -/

/-- The ways to write a text. -/
inductive Style where
  | plain
  | single
  | double
  /-- As a block of lines. -/
  | literal
deriving DecidableEq, Repr

/-- Whether a character can be written as it is. -/
def isPrintable (c : Char) : Bool :=
  let n := c.toNat
  n == 0x0A || (0x20 ≤ n && n ≤ 0x7E) || (0xA0 ≤ n && n ≤ 0xFFFD && n != 0xFEFF) || 0x10000 ≤ n

/-- Whether a character of one class is followed by one of another somewhere. -/
def hasPair (p q : Char → Bool) : List Char → Bool
  | c :: d :: cs => (p c && q d) || hasPair p q (d :: cs)
  | _ => false

/-- Whether a text can stand in double quotes only, for a character that has to be escaped or for a
    space in front of a line end. -/
def needsEscapes (cs : List Char) : Bool := !cs.all isPrintable || hasPair (· == ' ') isBreak cs

/-- Whether the first character of a text, or the first three, mean something in a plain text. -/
def startsIndicator (cs : List Char) : Bool :=
  cs.take 3 == ['-', '-', '-'] || cs.take 3 == ['.', '.', '.']
    ||
    match cs with
    | [] => false
    | c :: rest =>
      ['#', ',', '[', ']', '\x7b', '\x7d', '&', '*', '!', '|', '>', '\'', '"', '%', '@',
        '\x60'].contains c
        || (['?', ':', '-'].contains c && atGap rest)

/-- Whether a colon in front of a gap or a number sign behind one stands in a text, its first
    character aside. -/
def holdsIndicator : List Char → Bool
  | c :: d :: cs =>
    (d == ':' && atGap cs) || (d == '#' && atGap [c]) || holdsIndicator (d :: cs)
  | _ => false

/-- Whether a text starts or ends with a space, or holds a line end. -/
def needsQuotes (cs : List Char) : Bool :=
  cs.head? == some ' ' || cs.getLast? == some ' ' || cs.any isBreak

/-- Whether a plain text would be read as this text and nothing else. -/
def readsAsText (s : String) : Bool :=
  match WikiNotes.Yaml.Value.ofPlain? s with
  | some (.string _) => !WikiNotes.Yaml.Number.hasLeadingZero s.toList
  | _ => false

/-- Whether a text may stand in single quotes: no line end is followed by a space. -/
def allowsSingle (cs : List Char) : Bool := !needsEscapes cs && !hasPair isBreak (· == ' ') cs

/-- Whether a text may be written as a block of lines. -/
def allowsLiteral (cs : List Char) : Bool := !needsEscapes cs && cs.getLast? != some ' '

/-- Whether a text may be written plainly. -/
def allowsPlain (cs : List Char) : Bool :=
  !needsEscapes cs && !needsQuotes cs && !startsIndicator cs && !holdsIndicator cs

/-- The way to write a text. -/
def styleOf (s : String) : Style :=
  let cs := s.toList
  -- A line feed asks for a block; otherwise what reads back as another value needs quotes.
  if cs.contains '\n' then if allowsLiteral cs then .literal else .double
  else if readsAsText s && allowsPlain cs then .plain
  else if allowsSingle cs then .single
  else .double

/-! ### Writing a text -/

/-- So many spaces. -/
def spaces (n : Nat) : List Char := List.replicate n ' '

/-- A text in which every line starts at an indentation; the first line may start at once.
    Characters are written by the given function. -/
def indented (indent : Nat) (write : Char → List Char) : (atStart : Bool) → List Char → List Char
  | _, [] => []
  | atStart, c :: cs =>
    if isBreak c then c :: indented indent write true cs
    else (if atStart then spaces indent else []) ++ write c ++ indented indent write false cs

/-- A text in single quotes, in which a single quote is written twice. -/
def single (indent : Nat) (cs : List Char) : List Char :=
  let closing := if cs.getLast?.any isBreak then spaces indent else []
  '\'' :: indented indent (fun c => if c = '\'' then [c, c] else [c]) false cs ++ closing ++ ['\'']

/-- The letter that stands for a character behind a backslash. -/
def escapeLetter? (c : Char) : Option Char :=
  [('\x00', '0'), ('\x07', 'a'), ('\x08', 'b'), ('\t', 't'), ('\n', 'n'), ('\x0b', 'v'),
    ('\x0c', 'f'), ('\r', 'r'), ('\x1b', 'e'), ('"', '"'), ('\\', '\\'), ('\u0085', 'N'),
    ('\u2028', 'L'), ('\u2029', 'P')].lookup c

/-- How a character is written in double quotes. -/
def escape (c : Char) : List Char :=
  match escapeLetter? c with
  | some letter => ['\\', letter]
  | none =>
    let n := c.toNat
    if isPrintable c then [c]
    else if n ≤ 0xFF then ['\\', 'x'] ++ hexDigits 2 n
    else if n ≤ 0xFFFF then ['\\', 'u'] ++ hexDigits 4 n
    else ['\\', 'U'] ++ hexDigits 8 n

/-- The mark in front of a block of lines.  It tells the indentation if the first line starts with a
    blank, and what becomes of the line ends behind the last line. -/
def literalMark (cs : List Char) : List Char :=
  let hint := if cs.head?.any fun c => c == ' ' || isBreak c then ['2'] else []
  let keep :=
    match cs.reverse with
    | c :: rest =>
      if !isBreak c then ['-']
      else if rest.isEmpty || rest.head?.any isBreak then ['+']
      else []
    | [] => ['-']
  '|' :: hint ++ keep

/-- A text as a block of lines, with the line end behind it. -/
def literal (indent : Nat) (cs : List Char) : List Char :=
  -- The line end behind the last line is written even if it is no part of the text.
  let closing := if cs.getLast?.any isBreak then [] else ['\n']
  literalMark cs ++ '\n' :: indented indent (fun c => [c]) true cs ++ closing

/-- A text with the line end behind it, in a place whose lines are indented so far. -/
def textLine (indent : Nat) (s : String) : List Char :=
  let cs := s.toList
  match styleOf s with
  | .plain => cs ++ ['\n']
  | .single => single indent cs ++ ['\n']
  | .double => '"' :: cs.flatMap escape ++ ['"', '\n']
  | .literal => literal indent cs

/-! ### Blocks -/

mutual

/-- A value behind its key, in a record at an indentation. -/
def field (indent : Nat) : Value → List Char
  | .text s => ' ' :: textLine (indent + 2) s
  | .number n => ' ' :: (toString n).toList ++ ['\n']
  | .flag b => ' ' :: (flagWord b).toList ++ ['\n']
  | .list items => if items.isEmpty then [' ', '[', ']', '\n'] else '\n' :: listLines indent items
  | .record fields =>
    if fields.isEmpty then [' ', '\x7b', '\x7d', '\n']
    else '\n' :: spaces (indent + 2) ++ recordLines (indent + 2) fields

/-- A value behind the dash of a list at an indentation. -/
def item (indent : Nat) : Value → List Char
  | .text s => textLine (indent + 2) s
  | .number n => (toString n).toList ++ ['\n']
  | .flag b => (flagWord b).toList ++ ['\n']
  | .list items =>
    if items.isEmpty then ['[', ']', '\n'] else (listLines (indent + 2) items).drop (indent + 2)
  | .record fields =>
    if fields.isEmpty then ['\x7b', '\x7d', '\n'] else recordLines (indent + 2) fields

/-- The lines of a list at an indentation. -/
def listLines (indent : Nat) : List Value → List Char
  | [] => []
  | value :: rest => spaces indent ++ '-' :: ' ' :: item indent value ++ listLines indent rest

/-- The lines of a record at an indentation, which is there in front of the first line already. -/
def recordLines (indent : Nat) : List (String × Value) → List Char
  | [] => []
  | (key, value) :: rest =>
    let line := key.toList ++ ':' :: field indent value
    if rest.isEmpty then line else line ++ spaces indent ++ recordLines indent rest

end

/-- A report as a document. -/
def document : Value → String
  | .record fields => String.ofList (recordLines 0 fields)
  | value => String.ofList (item 0 value)

end WikiNotes.Report.Yaml
