import WikiNotes.Report.Value

/-! # Reports as TOML

The fields of a report that are no records or lists of records come first; each record becomes a
table under a header and each record of a list one under a header in double brackets.  Keys are
bare words.  A text is written in the plainest notation that can hold it. -/

namespace WikiNotes.Report.Toml

/-! ### Texts -/

/-- The length of the longest run of a character. -/
def longestRun (c : Char) (cs : List Char) : Nat :=
  (cs.foldl (fun (run, longest) d =>
    if d = c then (run + 1, max longest (run + 1)) else (0, longest)) (0, 0)).2

/-- Whether a character can only be written as an escape. -/
def isControl (c : Char) : Bool :=
  (c.toNat < 0x20 && c != '\t' && c != '\n') || c.toNat == 0x7F

/-- The letter that stands for a character behind a backslash. -/
def escapeLetter? (c : Char) : Option Char :=
  [('\x08', 'b'), ('\t', 't'), ('\n', 'n'), ('\x0c', 'f'), ('\r', 'r'), ('\\', '\\')].lookup c

/-- How a character other than a double quote is written in a text with escapes. -/
def escape (c : Char) : List Char :=
  match escapeLetter? c with
  | some letter => ['\\', letter]
  | none => if isControl c then ['\\', 'u'] ++ hexDigits 4 c.toNat else [c]

/-- A text with escapes.  `lines` says that line feeds stay as they are, and `quotes` how many
    double quotes in a row do; `run` counts those in front. -/
def escaped (lines : Bool) (quotes : Nat) : (run : Nat) → List Char → List Char
  | _, [] => []
  | run, c :: cs =>
    if c = '"' then
      if run < quotes then c :: escaped lines quotes (run + 1) cs
      else '\\' :: c :: escaped lines quotes 0 cs
    else if c = '\n' && lines then c :: escaped lines quotes 0 cs
    else escape c ++ escaped lines quotes 0 cs

/-- A text in the plainest notation that can hold it: between double quotes, between single quotes,
    between three of the one, between three of the other, and with escapes if none of these can. -/
def text (cs : List Char) : List Char :=
  let hasControls := cs.any isControl
  let hasBackslashes := cs.contains '\\'
  let hasLines := cs.contains '\n'
  let doubles := longestRun '"' cs
  let singles := longestRun '\'' cs
  let lineStart := if hasLines then ['\n'] else []
  let basic := '"' :: escaped false 0 0 cs ++ ['"']
  let basicLines := ['"', '"', '"'] ++ lineStart ++ escaped true 2 0 cs ++ ['"', '"', '"']
  -- The ways are tried in turn; the last two can hold any text.
  if !hasControls && !hasBackslashes && doubles = 0 && !hasLines then basic
  else if !hasControls && singles = 0 && !hasLines then '\'' :: cs ++ ['\'']
  else if !hasControls && !hasBackslashes && doubles ≤ 2 then basicLines
  else if !hasControls && singles ≤ 2 then
    ['\'', '\'', '\''] ++ lineStart ++ cs ++ ['\'', '\'', '\'']
  else if hasLines then basicLines
  else basic

/-! ### Values -/

/-- The parts of an array: one or none in a line, several on lines of their own. -/
def array (parts : List String) : String :=
  match parts with
  | [] => "[]"
  | [part] => "[" ++ part ++ "]"
  | parts => "[" ++ String.join (parts.map fun part => "\n    " ++ part ++ ",") ++ "\n]"

mutual

/-- A value behind its key. -/
def inline : Value → String
  | .text s => String.ofList (text s.toList)
  | .number n => toString n
  | .flag b => flagWord b
  | .list items => array (inlineItems items)
  | .record fields => "\x7b " ++ ", ".intercalate (inlineFields fields) ++ " \x7d"

/-- The items of an array. -/
def inlineItems : List Value → List String
  | [] => []
  | item :: items => inline item :: inlineItems items

/-- The fields of a table in braces. -/
def inlineFields : List (String × Value) → List String
  | [] => []
  | (key, value) :: fields => (key ++ " = " ++ inline value) :: inlineFields fields

end

/-! ### Tables -/

/-- Whether a value is a record. -/
def isRecord : Value → Bool
  | .record _ => true
  | _ => false

/-- Whether a value is written as a table or as several. -/
def isTable : Value → Bool
  | .record _ => true
  | .list items => !items.isEmpty && items.all isRecord
  | _ => false

/-- The lines of the fields that are no tables. -/
def valueLines (fields : List (String × Value)) : List String :=
  (fields.filter fun field => !isTable field.2).map fun (key, value) => key ++ " = " ++ inline value

mutual

/-- The blocks of lines of a table, headers included; each is set off by a blank line. -/
def tableBlocks (path : String) : List (String × Value) → List (List String)
  | [] => []
  | (key, value) :: fields =>
    fieldBlocks (if path.isEmpty then key else path ++ "." ++ key) value ++ tableBlocks path fields

/-- The blocks of lines of a field at a path. -/
def fieldBlocks (path : String) : Value → List (List String)
  | .record fields => (("[" ++ path ++ "]") :: valueLines fields) :: tableBlocks path fields
  | .list items => if isTable (.list items) then elementBlocks path items else []
  | _ => []

/-- The blocks of lines of the tables of a list at a path. -/
def elementBlocks (path : String) : List Value → List (List String)
  | [] => []
  | .record fields :: items =>
    ((("[[" ++ path ++ "]]") :: valueLines fields) :: tableBlocks path fields)
      ++ elementBlocks path items
  | _ :: items => elementBlocks path items

end

/-- A report as a document; only a record is one. -/
def document : Value → String
  | .record fields =>
    -- A table begins after the last plain field, so all plain fields come first.
    let root := valueLines fields
    let blocks := (if root.isEmpty then [] else [root]) ++ tableBlocks "" fields
    "\n".intercalate (blocks.map fun lines => String.join (lines.map (· ++ "\n")))
  | _ => ""

end WikiNotes.Report.Toml
