import WikiNotes.Note.CodeSpan

/-! # Inline tags

A tag is a `#` at the start of a text or behind a blank, followed by a run of ASCII letters,
digits, `_`, `/` and `-` that something other than `/` and `-` occurs in.  Behind the run stands
the end of the text, a blank, or one of a few punctuation marks, so that a color code, `C#` or the
fragment of an address is no tag.

Hashes with a run behind them are sought from left to right, each together with the blank in front
of it.  What follows the run, and whether the hash lies in code, is asked of what was found. -/

namespace WikiNotes.Tag

open Text

/-- Whether a character makes a tag meaningful: an ASCII letter or digit, or `_`. -/
def isTagLetter (c : Char) : Bool := c.isAlphanum || c == '_'

/-- Whether a character may stand in a tag. -/
def isTagChar (c : Char) : Bool := isTagLetter c || c == '/' || c == '-'

/-- Whether a character may follow a tag. -/
def endsTag (c : Char) : Bool :=
  isBlank c || ['.', ',', '!', '?', ';', ':', ')', ']', '\x7d'].contains c

/-- A hash and the run of tag characters behind it, as they stand in a text. -/
structure Written where
  /-- The blank in front of the hash; none at the start of a text. -/
  blank : Option Char
  token : List Char
  /-- What follows the run, if anything does. -/
  next : Option Char
deriving Repr

/-- A hash at the head of a text, behind a blank that belongs to the match as well, and the longest
    run of tag characters behind it, which is not empty. -/
def hashed? (blank : Option Char) : List Char → Option (Match Written)
  | [] => none
  | c :: cs =>
    let token := cs.takeWhile isTagChar
    if c = '#' ∧ token ≠ [] then
      some ⟨⟨blank, token, (cs.dropWhile isTagChar).head?⟩,
        blank.toList.length + 1 + token.length⟩
    else none

/-- A blank at the head of a text, a hash and its run. -/
def behindBlank? : List Char → Option (Match Written)
  | [] => none
  | c :: cs => if isBlank c then hashed? (some c) cs else none

/-- The hashes of a text with a run behind them that stand at its start or behind a blank, from left
    to right, the next one sought behind the run of the last. -/
def hashes (cs : List Char) : List (Found Written) :=
  match hashed? none cs with
  | some m =>
    ⟨m.value, .start, Position.start.advance (cs.take m.length)⟩
      :: findAllFrom behindBlank? m.length .start cs
  | none => findAllFrom behindBlank? 0 .start cs

/-- The tag that was found, if its end is one of a tag, its hash lies outside the given code, and it
    is not made of separators only. -/
def ofFound? (code : List CodeSpan) (found : Found Written) : Option String :=
  let w := found.value
  let hash := found.start.advance w.blank.toList
  if w.next.all endsTag && !CodeSpan.covers code hash.offset
      && !w.token.all (fun c => c == '/' || c == '-') then
    some (String.ofList w.token)
  else none

/-- The tags of a text that do not lie inside the given code, as written and in order. -/
def outside (code : List CodeSpan) (cs : List Char) : List String :=
  (hashes cs).filterMap (ofFound? code)

/-- The tags of a text, as written and in order. -/
def ofChars (cs : List Char) : List String := outside (CodeSpan.findAll cs) cs

/-- The tags of a text, as written and in order. -/
def ofText (content : String) : List String := ofChars content.toList

end WikiNotes.Tag
