import WikiNotes.Text.Table
import WikiNotes.Text.CaseTable

/-! # Lower case

Lower case of a character and of a whole text.  Two letters make the second more than a map of
the first: `İ` becomes two characters, and a capital sigma becomes the final form `ς` at the end
of a word and `σ` elsewhere. -/

namespace WikiNotes.Text

/-- Whether a character is a letter with case. -/
def isCased (c : Char) : Bool :=
  if c.toNat < 0x80 then c.isAlpha else inRanges casedRanges c.toNat

/-- Whether the sigma rule looks through a character, as through accents and apostrophes. -/
def isCaseIgnorable (c : Char) : Bool := inRanges caseIgnorableRanges c.toNat

/-- The single lower-case partner of a character, itself if it has none. -/
def lowerPartner (c : Char) : Char :=
  let n := c.toNat
  match rowAtMost lowerRuns LowerRun.first n with
  | some run =>
    if n ≤ run.last && (n - run.first) % run.step == 0 then Char.ofNat ((n : Int) + run.shift).toNat
    else c
  | none => c

/-- The lower case of a character on its own: one character, except that the dotted capital `İ`
    keeps its dot as a combining mark. -/
def lowerChar (c : Char) : List Char :=
  if c.toNat < 0x80 then [c.toLower]
  else if c.toNat = 0x130 then ['i', '\u0307']
  else [lowerPartner c]

/-- Whether the nearest character that is not looked through has case. -/
def casedNext (cs : List Char) : Bool :=
  match cs.dropWhile isCaseIgnorable with
  | c :: _ => isCased c
  | [] => false

/-- Lower case of the rest of a text, given what stands before it in reverse.  A capital sigma is
    final when a letter with case stands before it and none after it. -/
def lowerAfter (before : List Char) : List Char → List Char
  | [] => []
  | c :: rest =>
    -- Whether a sigma is final depends on both sides of it.
    let lower :=
      if c = 'Σ' then [if casedNext before && !casedNext rest then 'ς' else 'σ'] else lowerChar c
    lower ++ lowerAfter (c :: before) rest

/-- Lower case of a list of characters. -/
def lowerChars (cs : List Char) : List Char := lowerAfter [] cs

/-- Lower case of a text. -/
def lowercase (s : String) : String := String.ofList (lowerChars s.toList)

end WikiNotes.Text
