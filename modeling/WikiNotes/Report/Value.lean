/-! # Reports

What a command answers is a tree of texts, numbers and truth values.  `Report.Json`, `Report.Yaml`
and `Report.Toml` write such a tree in three formats. -/

namespace WikiNotes.Report

/-- A report. -/
inductive Value where
  | text (s : String)
  | number (n : Nat)
  | flag (b : Bool)
  | list (items : List Value)
  /-- Fields in the order in which they are written. -/
  | record (fields : List (String × Value))

/-- The words for truth values, the same in all formats. -/
def flagWord (b : Bool) : String := if b then "true" else "false"

/-- A hexadecimal digit in upper case. -/
def hexDigit (n : Nat) : Char :=
  if n < 10 then Char.ofNat ('0'.toNat + n) else Char.ofNat ('A'.toNat + (n - 10))

/-- The last digits of a number in hexadecimal, so many of them. -/
def hexDigits : (width : Nat) → Nat → List Char
  | 0, _ => []
  | width + 1, n => hexDigits width (n / 16) ++ [hexDigit (n % 16)]

end WikiNotes.Report
