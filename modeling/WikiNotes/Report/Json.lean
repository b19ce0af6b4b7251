import WikiNotes.Report.Value

/-! # Reports as JSON

A report is written in one line, or with one item or field a line and two spaces of indentation for
each level. -/

namespace WikiNotes.Report.Json

/-! ### Texts -/

/-- How a character is written between quotes: quotes, backslashes and controls are escaped. -/
def escape (c : Char) : List Char :=
  match c with
  | '"' => ['\\', '"']
  | '\\' => ['\\', '\\']
  | '\x08' => ['\\', 'b']
  | '\t' => ['\\', 't']
  | '\n' => ['\\', 'n']
  | '\x0c' => ['\\', 'f']
  | '\r' => ['\\', 'r']
  | c =>
    if c.toNat < 0x20 then ['\\', 'u'] ++ (hexDigits 4 c.toNat).map Char.toLower else [c]

/-- A text between quotes. -/
def quoted (s : String) : String :=
  "\"" ++ String.ofList (s.toList.flatMap escape) ++ "\""

/-! ### In one line -/

mutual

/-- A report in one line. -/
def compact : Value → String
  | .text s => quoted s
  | .number n => toString n
  | .flag b => flagWord b
  | .list items => "[" ++ ",".intercalate (compactItems items) ++ "]"
  | .record fields => "\x7b" ++ ",".intercalate (compactFields fields) ++ "\x7d"

/-- The items of a list, each in one line. -/
def compactItems : List Value → List String
  | [] => []
  | item :: items => compact item :: compactItems items

/-- The fields of a record, each in one line. -/
def compactFields : List (String × Value) → List String
  | [] => []
  | (key, value) :: fields => (quoted key ++ ":" ++ compact value) :: compactFields fields

end

/-! ### In many lines -/

/-- The start of a line at a level. -/
def newline (level : Nat) : String :=
  "\n" ++ String.ofList (List.replicate (2 * level) ' ')

/-- Parts between brackets, each on a line of its own at one level more. -/
def block (level : Nat) (opening closing : String) (parts : List String) : String :=
  if parts.isEmpty then opening ++ closing
  else
    opening ++ newline (level + 1) ++ ("," ++ newline (level + 1)).intercalate parts
      ++ newline level ++ closing

mutual

/-- A report in many lines, at a level. -/
def prettyAt (level : Nat) : Value → String
  | .text s => quoted s
  | .number n => toString n
  | .flag b => flagWord b
  | .list items => block level "[" "]" (prettyItems (level + 1) items)
  | .record fields => block level "\x7b" "\x7d" (prettyFields (level + 1) fields)

/-- The items of a list at a level. -/
def prettyItems (level : Nat) : List Value → List String
  | [] => []
  | item :: items => prettyAt level item :: prettyItems level items

/-- The fields of a record at a level. -/
def prettyFields (level : Nat) : List (String × Value) → List String
  | [] => []
  | (key, value) :: fields =>
    (quoted key ++ ": " ++ prettyAt level value) :: prettyFields level fields

end

/-- A report in many lines. -/
def pretty (value : Value) : String := prettyAt 0 value

end WikiNotes.Report.Json
