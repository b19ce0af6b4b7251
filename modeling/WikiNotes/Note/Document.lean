import WikiNotes.Naming
import WikiNotes.Note.FrontMatter
import WikiNotes.Note.FrontMatterTags
import WikiNotes.Note.Heading
import WikiNotes.Note.Link
import WikiNotes.Note.Tag

/-! # Whole notes

`Note.ofText` reads all that a note says about itself and others.  Links count anywhere in the
text; headings and inline tags are those of the body behind the front matter, and the front matter
adds tags of its own.  Front matter that is malformed adds none. -/

namespace WikiNotes

/-- What was read from a note. -/
structure Note where
  /-- Its links, in order. -/
  links : List Link
  /-- Its headings, in order. -/
  headings : List Heading
  /-- Its tags in canonical form. -/
  tags : SortedSet String
deriving DecidableEq

namespace Note

/-- The tags of a note as written: those in the body outside the given code, and those that the
    front matter names. -/
def rawTags (split : FrontMatter) (code : List CodeSpan) : List String :=
  let named := (split.block.bind FrontMatterTags.ofBlock?).getD []
  Tag.outside code split.body ++ named

/-- Read a note. -/
def ofChars (policy : NamingPolicy) (cs : List Char) : Note :=
  let split := FrontMatter.split cs
  let code := CodeSpan.findAll split.body
  -- Links are sought in the whole text, with the code of the whole text.
  { links := Link.ofChars cs
    headings := Heading.outside code split.bodyLine split.body
    tags := SortedSet.ofList ((rawTags split code).filterMap policy.canonicalTag?) }

/-- Read a note. -/
def ofText (policy : NamingPolicy) (content : String) : Note := ofChars policy content.toList

end Note

end WikiNotes
