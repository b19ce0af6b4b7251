import WikiNotes.Note.CodeSpan

/-! # Links between notes

A link is written `[[target]]`, with an optional heading behind `#` and an optional alias behind
`|`, in that order; an exclamation mark in front makes it an embed.  `linkAt?` reads a link at the
head of a text, and `Link.ofChars` collects the links of a text that do not start inside code.

`splitTarget` cuts a reference `Name#Heading`, as it is typed by a user, into its two parts. -/

namespace WikiNotes

open Text

/-- A link found in a note. -/
structure Link where
  /-- The name of the note it leads to, trimmed and otherwise as written. -/
  target : String
  /-- The heading it leads to. -/
  heading : Option String
  /-- The text shown in place of the target. -/
  label : Option String
  /-- Whether the target is to be shown in place. -/
  embed : Bool
  /-- The line on which it stands. -/
  line : Nat
deriving DecidableEq, Repr

namespace Link

/-- The parts of a link as written, before trimming. -/
structure Written where
  embed : Bool
  target : List Char
  heading : Option (List Char)
  label : Option (List Char)
deriving Repr

/-- Whether a character may stand in a target. -/
def isTargetChar (c : Char) : Bool := c != ']' && c != '|' && c != '#'

/-- Whether a character may stand in a heading. -/
def isHeadingChar (c : Char) : Bool := c != ']' && c != '|'

/-- An optional part: behind its mark, the longest run of characters of its class, not empty.
    Gives the part and what follows it. -/
def optionalPart (mark : Char) (allowed : Char → Bool) (cs : List Char) :
    Option (List Char) × List Char :=
  match cs with
  | c :: rest =>
    let part := rest.takeWhile allowed
    if c = mark ∧ part ≠ [] then (some part, rest.dropWhile allowed) else (none, cs)
  | [] => (none, [])

/-- What stands behind the opening brackets, up to and with the closing ones; also gives what
    follows the link. -/
def bracketed? (embed : Bool) (cs : List Char) : Option (Written × List Char) :=
  -- No class holds the mark that ends it, so each part is the longest run and nothing is retried.
  let target := cs.takeWhile isTargetChar
  let (heading, cs₁) := optionalPart '#' isHeadingChar (cs.dropWhile isTargetChar)
  let (label, cs₂) := optionalPart '|' (· != ']') cs₁
  match cs₂ with
  | ']' :: ']' :: rest => if target = [] then none else some (⟨embed, target, heading, label⟩, rest)
  | _ => none

/-- The link at the head of a text, if one starts there. -/
def linkAt? (cs : List Char) : Option (Match Written) :=
  let found :=
    match cs with
    | '!' :: '[' :: '[' :: rest => bracketed? true rest
    | '[' :: '[' :: rest => bracketed? false rest
    | _ => none
  found.map fun (written, rest) => ⟨written, cs.length - rest.length⟩

/-- A text if there is something besides blanks, trimmed. -/
def trimmed? (cs : List Char) : Option String :=
  let text := trimChars cs
  if text.isEmpty then none else some (String.ofList text)

/-- The link that was written, if its target is not blank.  A blank heading is none. -/
def ofFound? (found : Found Written) : Option Link :=
  (trimmed? found.value.target).map fun target =>
    { target
      heading := found.value.heading.bind trimmed?
      label := found.value.label.map String.ofList
      embed := found.value.embed
      line := found.start.line }

/-- The links of a text that do not start inside the given code. -/
def outside (code : List CodeSpan) (cs : List Char) : List Link :=
  ((Text.findAll linkAt? cs).filter fun found => !CodeSpan.covers code found.start.offset).filterMap
    ofFound?

/-- The links of a text, in order. -/
def ofChars (cs : List Char) : List Link := outside (CodeSpan.findAll cs) cs

/-- The links of a text, in order. -/
def ofText (content : String) : List Link := ofChars content.toList

/-- The note and heading that a reference names: the parts around its first `#`, trimmed; a blank
    heading is none. -/
def splitTarget (reference : String) : String × Option String :=
  let cs := reference.toList
  let name := cs.takeWhile (· ≠ '#')
  (String.ofList (trimChars name), trimmed? (cs.drop (name.length + 1)))

end Link

end WikiNotes
