import WikiNotes.Text.Table
import WikiNotes.Text.AlphanumericTable

/-! # Letters and digits

`isAlphanumeric` is the Unicode notion of a letter or digit; it decides what slugs are made of. -/

namespace WikiNotes.Text

/-- Whether a character is alphabetic or numeric in the sense of Unicode. -/
def isAlphanumeric (c : Char) : Bool :=
  if c.toNat < 0x80 then c.isAlphanum else inRanges alphanumericRanges c.toNat

end WikiNotes.Text
