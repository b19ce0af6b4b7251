import WikiNotes.Note.CodeSpan
import WikiNotes.Text.Composition
import WikiNotes.Text.Letter
import WikiNotes.Text.Lowercase

/-! # Headings

A heading is a line of one to six `#`, at least one blank and a text, outside fenced code.  Every
heading gets a slug, the form of its text that is fit for a link; a text that occurred before gets
its count appended.  `Heading.find?` looks a heading up by its text or its slug. -/

namespace WikiNotes

open Text

/-- A heading found in a note. -/
structure Heading where
  /-- Its text, trimmed. -/
  text : String
  /-- How many `#` stand in front of it. -/
  level : Nat
  /-- The line on which it stands. -/
  line : Nat
  slug : String
deriving DecidableEq, Repr

namespace Heading

/-! ### Slugs -/

/-- The characters of a slug from some place on.  `started` says that the slug is not empty so far
    and `hyphen` that it ends with a hyphen for blanks.  Letters and digits are lowered, `_` is
    kept, a run of blanks and hyphens becomes one hyphen, and anything else is dropped. -/
def slugFrom (started hyphen : Bool) : List Char → List Char
  | [] => []
  | c :: cs =>
    if isAlphanumeric c then lowerChar c ++ slugFrom true false cs
    else if started && c == '_' then '_' :: slugFrom true false cs
    else if started && (c == '-' || isBlank c) then
      if hyphen then slugFrom true true cs else '-' :: slugFrom true true cs
    else slugFrom started hyphen cs

/-- The slug of a list of characters: of their composed normal form, without hyphens at its end. -/
def slugChars (cs : List Char) : List Char :=
  dropEndWhile (· = '-') (slugFrom false false (normalFormChars cs))

/-- The slug of a text. -/
def slugify (text : String) : String := String.ofList (slugChars text.toList)

/-- A slug that occurred `earlier` times before. -/
def numberedSlug (base : String) (earlier : Nat) : String :=
  if earlier = 0 then base else base ++ "-" ++ toString earlier

/-! ### Lines -/

/-- The level and text of a line that is a heading: hashes, a blank, and something behind it.  If
    there are only blanks behind the hashes, the text is empty, but one blank does not suffice. -/
def ofLine? (line : List Char) : Option (Nat × List Char) :=
  let hashes := line.takeWhile (· = '#')
  let rest := line.drop hashes.length
  let text := trimChars rest
  -- Of blanks alone one separates and another one is the text, which is then trimmed away.
  if 1 ≤ hashes.length ∧ hashes.length ≤ 6 ∧ rest.head?.any isBlank
      ∧ (text ≠ [] ∨ 2 ≤ rest.length) then
    some (hashes.length, text)
  else none

/-- The headings among the lines from a line on, numbered from `number` in a body that starts at
    `firstLine` of its note.  `seen` counts the slugs that came before. -/
def fromLines (code : List CodeSpan) (firstLine : Nat) :
    (seen : SortedMap String Nat) → (number : Nat) → List (List Char) → List Heading
  | _, _, [] => []
  | seen, number, line :: lines =>
    match if CodeSpan.coversLine code number then none else ofLine? (withoutLineEnd line) with
    | none => fromLines code firstLine seen (number + 1) lines
    | some (level, text) =>
      -- Slugs are counted by their base form, numbered ones are not counted again.
      let base := String.ofList (slugChars text)
      let earlier := (seen.find? base).getD 0
      { text := String.ofList text
        level
        line := firstLine + (number - 1)
        slug := numberedSlug base earlier }
        :: fromLines code firstLine (seen.insert base (earlier + 1)) (number + 1) lines

/-- The headings of a body that starts at a line of its note, outside the given code. -/
def outside (code : List CodeSpan) (firstLine : Nat) (body : List Char) : List Heading :=
  fromLines code firstLine .empty 1 (splitLines body)

/-- The headings of a text, in order. -/
def ofChars (cs : List Char) : List Heading := outside (CodeSpan.findAll cs) 1 cs

/-- The headings of a text, in order. -/
def ofText (content : String) : List Heading := ofChars content.toList

/-! ### Look-up -/

/-- The heading that a reference names: the first with its very text, else the first with its text
    in any case, else the first with its slug. -/
def find? (headings : List Heading) (reference : String) : Option Heading :=
  let reference := trim reference
  if reference.isEmpty then none
  else
    (headings.find? fun h => h.text = reference)
      <|> (let lower := lowercase reference
        headings.find? fun h => lowercase h.text = lower)
      <|> (let slug := slugify reference
        headings.find? fun h => h.slug = slug)

end Heading

end WikiNotes
