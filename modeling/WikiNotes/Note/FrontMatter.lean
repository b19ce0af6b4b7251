import WikiNotes.Text.Position

/-! # Front matter

A note may begin with front matter: a line of three hyphens, a block of YAML, and another line of
three hyphens.  Only the three hyphens and a line end may stand on such a line.  `FrontMatter.split`
takes a text apart into the block and the body behind it. -/

namespace WikiNotes

open Text

/-- A text taken apart into its front matter and its body. -/
structure FrontMatter where
  /-- The block between the delimiters, without the line feed before the closing one. -/
  block : Option (List Char)
  /-- What follows the front matter; the whole text if there is none. -/
  body : List Char
  /-- The line of the text on which the body starts. -/
  bodyLine : Nat
deriving DecidableEq, Repr

namespace FrontMatter

/-- What follows a delimiter at the head of a text and the line end behind it. -/
def afterDelimiter? : List Char → Option (List Char)
  | ['-', '-', '-'] => some []
  | '-' :: '-' :: '-' :: '\n' :: rest => some rest
  | '-' :: '-' :: '-' :: '\r' :: '\n' :: rest => some rest
  | _ => none

/-- What follows the opening delimiter of a text; the line end is required there. -/
def afterOpening? : List Char → Option (List Char)
  | '-' :: '-' :: '-' :: '\n' :: rest => some rest
  | '-' :: '-' :: '-' :: '\r' :: '\n' :: rest => some rest
  | _ => none

/-- The text in front of the first line that is a closing delimiter, and the text behind it, where
    the first line of the text is not asked. -/
def splitClosing? : List Char → Option (List Char × List Char)
  | [] => none
  | c :: rest =>
    match if c = '\n' then afterDelimiter? rest else none with
    | some body => some ([], body)
    | none => (splitClosing? rest).map fun (block, body) => (c :: block, body)

/-- The block and body behind an opening delimiter, if there is a closing one.  The block is empty
    if the closing delimiter follows at once. -/
def closed? (rest : List Char) : Option (List Char × List Char) :=
  match afterDelimiter? rest with
  | some body => some ([], body)
  | none => splitClosing? rest

/-- Take a text apart.  Without both delimiters the whole text is body. -/
def split (cs : List Char) : FrontMatter :=
  -- The line feeds that are not in the body are those in front of it.
  match (afterOpening? cs).bind closed? with
  | some (block, body) => ⟨some block, body, lineFeeds cs - lineFeeds body + 1⟩
  | none => ⟨none, cs, 1⟩

end FrontMatter

end WikiNotes
