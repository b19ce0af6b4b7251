import WikiNotes.Text.Blank
import WikiNotes.Text.Lowercase

/-! # Canonical names

Notes, links and tags are compared by canonical names.  A `NamingPolicy` says how a name becomes
canonical: whether case matters, and whether a run of blanks counts as a hyphen. -/

namespace WikiNotes

/-- What becomes of the blanks in a name. -/
inductive SpaceRule where
  /-- They stay. -/
  | keep
  /-- A run of blanks becomes one hyphen. -/
  | hyphen
deriving DecidableEq, Repr, Inhabited

namespace SpaceRule

/-- The word for a rule in settings and in output. -/
def word : SpaceRule → String
  | keep => "none"
  | hyphen => "hyphen"

/-- The rule that a word names exactly. -/
def ofWord? (word : String) : Option SpaceRule :=
  if word = "none" then some keep else if word = "hyphen" then some hyphen else none

/-- A word that names no rule, in lower case. -/
structure UnknownWord where
  word : String
deriving DecidableEq, Repr

/-- What is said about a word that names no rule. -/
def UnknownWord.message (e : UnknownWord) : String :=
  "unknown space replacement '" ++ e.word ++ "'"

/-- The rule that a word names in any case. -/
def parse (text : String) : Except UnknownWord SpaceRule :=
  let lower := Text.lowercase text
  match ofWord? lower with
  | some rule => .ok rule
  | none => .error ⟨lower⟩

end SpaceRule

/-- How names become canonical. -/
structure NamingPolicy where
  caseSensitive : Bool := false
  spaces : SpaceRule := .keep
deriving DecidableEq, Repr, Inhabited

namespace NamingPolicy

open Text

/-- Replace every run of blanks by one hyphen.  `inRun` says that the last character was blank. -/
def hyphenateFrom (inRun : Bool) : List Char → List Char
  | [] => []
  | c :: cs =>
    if isBlank c then if inRun then hyphenateFrom true cs else '-' :: hyphenateFrom true cs
    else c :: hyphenateFrom false cs

/-- The case rule on a list of characters. -/
def foldCase (policy : NamingPolicy) (cs : List Char) : List Char :=
  if policy.caseSensitive then cs else lowerChars cs

/-- The rule on blanks on a list of characters. -/
def replaceSpaces (policy : NamingPolicy) (cs : List Char) : List Char :=
  match policy.spaces with
  | .keep => cs
  | .hyphen => hyphenateFrom false cs

/-- The canonical form of a note name or a link target: the case rule, then the rule on blanks. -/
def canonicalName (policy : NamingPolicy) (raw : String) : String :=
  String.ofList (policy.replaceSpaces (policy.foldCase raw.toList))

/-- Whether a character is dropped at the ends of a tag. -/
def isTagEdge (c : Char) : Bool := c == '/' || c == '\\' || c == '-'

/-- A tag without blanks around it, one leading `#`, and slashes and hyphens at its ends. -/
def bareTag (cs : List Char) : List Char :=
  let trimmed := trimChars cs
  stripWhile isTagEdge (if trimmed.head? = some '#' then trimmed.tail else trimmed)

/-- The canonical form of a tag, to which only the case rule applies; none if nothing is left. -/
def canonicalTag? (policy : NamingPolicy) (raw : String) : Option String :=
  let bare := bareTag raw.toList
  if bare.isEmpty then none else some (String.ofList (policy.foldCase bare))

end NamingPolicy

end WikiNotes
