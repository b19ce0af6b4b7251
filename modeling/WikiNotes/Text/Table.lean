/-! # Look-up in sorted tables

The Unicode tables are arrays sorted by their first column.  `rowAtMost` finds the last row whose
first column does not exceed a code point, by halving the interval of candidate rows; `exactRow?`
asks for the row of one code point, and `inRanges` asks whether a code point lies in one of a
table's ranges. -/

namespace WikiNotes.Text

/-- Halve the rows `lo ≤ i < hi` until none is left.  Rows before `lo` start at or below `n` and
    rows from `hi` on start above it, so the answer is the row before `lo`. -/
def rowAtMostAux {α : Type} (table : Array α) (first : α → Nat) (n : Nat) :
    (steps lo hi : Nat) → Option α
  | 0, lo, _ => if lo = 0 then none else table[lo - 1]?
  | steps + 1, lo, hi =>
    if lo < hi then
      let mid := (lo + hi) / 2
      match table[mid]? with
      | some row =>
        if first row ≤ n then rowAtMostAux table first n steps (mid + 1) hi
        else rowAtMostAux table first n steps lo mid
      | none => none
    else if lo = 0 then none else table[lo - 1]?

/-- The last row of a table sorted by `first` that starts at or below `n`.  A table of `s` rows is
    searched in at most `log2 s + 1` halvings. -/
def rowAtMost {α : Type} (table : Array α) (first : α → Nat) (n : Nat) : Option α :=
  rowAtMostAux table first n (table.size.log2 + 1) 0 table.size

/-- The entry of a code point in an ascending table, if it has a row there. -/
def exactRow? {β : Type} (table : Array (Nat × β)) (n : Nat) : Option β :=
  match rowAtMost table Prod.fst n with
  | some (m, value) => if m = n then some value else none
  | none => none

/-- Whether a code point lies in one of the ranges of an ascending table. -/
def inRanges (table : Array (Nat × Nat)) (n : Nat) : Bool :=
  match rowAtMost table Prod.fst n with
  | some (_, last) => n ≤ last
  | none => false

end WikiNotes.Text
