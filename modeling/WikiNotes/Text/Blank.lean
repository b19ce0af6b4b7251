/-! # Blank characters

White space in the sense of Unicode (property `White_Space`): the characters that separate words,
that trimming removes and that end a tag.  `trim` removes them at both ends of a text. -/

namespace WikiNotes.Text

/-- Whether a character is white space in the sense of Unicode: the tab and line breaks of ASCII,
    the space, the next-line control, the no-break space, the spaces of general punctuation, the
    line and paragraph separators, and the Ogham and ideographic spaces. -/
def isBlank (c : Char) : Bool :=
  let n := c.toNat
  (9 ≤ n && n ≤ 13) || n == 0x20 || n == 0x85 || n == 0xA0 || n == 0x1680
    || (0x2000 ≤ n && n ≤ 0x200A) || n == 0x2028 || n == 0x2029 || n == 0x202F || n == 0x205F
    || n == 0x3000

/-- Drop the characters of a class at the end of a list. -/
def dropEndWhile (p : Char → Bool) (cs : List Char) : List Char :=
  (cs.reverse.dropWhile p).reverse

/-- Drop the characters of a class at both ends of a list. -/
def stripWhile (p : Char → Bool) (cs : List Char) : List Char :=
  dropEndWhile p (cs.dropWhile p)

/-- A list of characters without the blanks at its two ends. -/
def trimChars (cs : List Char) : List Char := stripWhile isBlank cs

/-- A text without the blanks at its two ends. -/
def trim (s : String) : String := String.ofList (trimChars s.toList)

/-- Whether every character of a text is blank. -/
def isBlankText (s : String) : Bool := s.toList.all isBlank

end WikiNotes.Text
