/-! # Occurrence

Whether one text occurs in another: `occursIn_iff` says that this is the infix relation. -/

namespace WikiNotes.Text

/-- Whether a list of characters occurs in another as a stretch without gaps. -/
def occursIn (needle : List Char) : List Char → Bool
  | [] => needle.isEmpty
  | c :: cs => needle.isPrefixOf (c :: cs) || occursIn needle cs

theorem occursIn_iff {needle : List Char} :
    ∀ {cs : List Char}, occursIn needle cs = true ↔ needle <:+: cs
  | [] => by simp [occursIn]
  | c :: cs => by
    rw [occursIn, Bool.or_eq_true, List.isPrefixOf_iff_prefix, occursIn_iff, List.infix_cons_iff]

end WikiNotes.Text
