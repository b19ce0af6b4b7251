import WikiNotes.Yaml.Value

/-! # Tags in front matter

The front matter of a note may name tags under the key `tags`: a sequence, of which the strings
count, or one string with blanks and commas between the tags. -/

namespace WikiNotes.FrontMatterTags

open Text

/-- Whether a character separates tags within one string. -/
def isSeparator (c : Char) : Bool := isBlank c || c == ','

/-- The runs of characters that are no separators, given the run that is being read, in reverse. -/
def wordsFrom (word : List Char) : List Char → List String
  | [] => if word.isEmpty then [] else [String.ofList word.reverse]
  | c :: cs =>
    if isSeparator c then
      if word.isEmpty then wordsFrom [] cs else String.ofList word.reverse :: wordsFrom [] cs
    else wordsFrom (c :: word) cs

/-- The tags that a value of the key names. -/
def ofValue : Yaml.Value → List String
  | .sequence items => items.filterMap Yaml.Value.string?
  | .string text => wordsFrom [] text.toList
  | _ => []

/-- The tags of a block of front matter, as written; none if the block is malformed. -/
def ofBlock? (block : List Char) : Option (List String) :=
  if block.all isBlank then some []
  else
    (Yaml.Value.ofChars? block).map fun value =>
      match value.get? "tags" with
      | some tags => ofValue tags
      | none => []

end WikiNotes.FrontMatterTags
