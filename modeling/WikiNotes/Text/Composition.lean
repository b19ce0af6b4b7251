import WikiNotes.Text.Table
import WikiNotes.Text.CompositionTable

/-! # Canonical composition

The composed normal form (NFC): every character is replaced by its full canonical decomposition,
combining marks are put into canonical order, and what composes is composed.  Two texts that look
alike because accents were typed in different ways have one normal form. -/

namespace WikiNotes.Text

/-- The canonical combining class of a character; zero for a starter. -/
def combiningClass (c : Char) : Nat :=
  match rowAtMost combiningRanges Prod.fst c.toNat with
  | some (_, last, cls) => if c.toNat ≤ last then cls else 0
  | none => 0

/-! ### Hangul

A syllable block decomposes into two or three letters by a formula: 19 leading consonants, 21
vowels, and 27 trailing consonants or none. -/

/-- Number of the first syllable. -/
def hangulBase : Nat := 0xAC00

/-- Number of syllables. -/
def hangulCount : Nat := 19 * 21 * 28

/-- The letters of the syllable with the given index. -/
def hangulLetters (index : Nat) : List Char :=
  let lead := Char.ofNat (0x1100 + index / (21 * 28))
  let vowel := Char.ofNat (0x1161 + index % (21 * 28) / 28)
  if index % 28 = 0 then [lead, vowel] else [lead, vowel, Char.ofNat (0x11A7 + index % 28)]

/-- The syllable that two parts compose to: a consonant and a vowel, or an open syllable and a
    trailing consonant. -/
def hangulPair? (a b : Nat) : Option Char :=
  if 0x1100 ≤ a && a < 0x1100 + 19 && 0x1161 ≤ b && b < 0x1161 + 21 then
    some (Char.ofNat (hangulBase + ((a - 0x1100) * 21 + (b - 0x1161)) * 28))
  else if hangulBase ≤ a && a < hangulBase + hangulCount && (a - hangulBase) % 28 == 0
      && 0x11A7 < b && b < 0x11A7 + 28 then
    some (Char.ofNat (a + (b - 0x11A7)))
  else none

/-! ### Decomposition and order -/

/-- The full canonical decomposition of a character. -/
def decomposeChar (c : Char) : List Char :=
  let n := c.toNat
  if n < 0xC0 then [c]
  else if hangulBase ≤ n && n < hangulBase + hangulCount then hangulLetters (n - hangulBase)
  else
    match exactRow? singletonDecompositions n with
    | some other => [Char.ofNat other]
    | none =>
      match exactRow? decompositions n with
      | some parts => parts.map Char.ofNat
      | none => [c]

/-- Put a mark into the marks that follow a starter, behind those of its own class and below. -/
def insertMark (mark : Char) : List Char → List Char
  | [] => [mark]
  | other :: rest =>
    if combiningClass mark < combiningClass other then mark :: other :: rest
    else other :: insertMark mark rest

/-- Marks of a run in canonical order, stable within a class. -/
def orderMarks (marks : List Char) : List Char :=
  marks.foldl (fun ordered mark => insertMark mark ordered) []

/-- Canonical order of a decomposed text, given the marks met since the last starter, in reverse. -/
def orderAfter (marks : List Char) : List Char → List Char
  | [] => orderMarks marks.reverse
  | c :: rest =>
    if combiningClass c = 0 then orderMarks marks.reverse ++ c :: orderAfter [] rest
    else orderAfter (c :: marks) rest

/-- The canonical decomposition (NFD) of a list of characters. -/
def decomposeChars (cs : List Char) : List Char := orderAfter [] (cs.flatMap decomposeChar)

/-! ### Composition -/

/-- The rows of a sorted pair table are ordered as the numbers `a * 2 ^ 21 + b`. -/
def pairKey (a b : Nat) : Nat := a * 0x200000 + b

/-- The composite of a starter and the character after it, if there is one. -/
def composePair? (a b : Char) : Option Char :=
  match hangulPair? a.toNat b.toNat with
  | some c => some c
  | none =>
    match rowAtMost compositions (fun row => pairKey row.1 row.2.1) (pairKey a.toNat b.toNat) with
    | some (first, second, whole) =>
      if first = a.toNat && second = b.toNat then some (Char.ofNat whole) else none
    | none => none

/-- Compose what follows a starter.  `kept` are the marks that stay behind the starter, in reverse;
    a mark is blocked from the starter when one of its own class or above stays between them. -/
def composeAfter (starter : Char) (kept : List Char) : List Char → List Char
  | [] => starter :: kept.reverse
  | c :: rest =>
    let cls := combiningClass c
    -- Marks that stay are in canonical order, so the last one has the greatest class.
    let blocked :=
      match kept with
      | [] => false
      | last :: _ => cls ≤ combiningClass last
    match if blocked then none else composePair? starter c with
    | some whole => composeAfter whole kept rest
    | none =>
      if cls = 0 then starter :: kept.reverse ++ composeAfter c [] rest
      else composeAfter starter (c :: kept) rest

/-- Compose a decomposed text; marks before the first starter stay as they are. -/
def composeChars : List Char → List Char
  | [] => []
  | c :: rest => if combiningClass c = 0 then composeAfter c [] rest else c :: composeChars rest

/-- The composed normal form of a list of characters. -/
def normalFormChars (cs : List Char) : List Char := composeChars (decomposeChars cs)

end WikiNotes.Text
