import WikiNotes.Proofs.Text.Lowercase
import WikiNotes.Text.Composition

/-! # Normal form and ASCII

Canonical composition leaves ASCII alone: its characters decompose into nothing else, are no marks
(`combiningClass_ascii`), and compose with nothing in front of them (`composePair?_ascii`).  So an
ASCII text is in normal form, and one behind another text stays as it is and changes nothing in
front of it (`normalFormChars_append_ascii`). -/

namespace WikiNotes.Text

/-- All characters of a text are in ASCII. -/
def IsAscii (cs : List Char) : Prop := ∀ c ∈ cs, c.toNat < 0x80

instance : DecidablePred IsAscii := fun cs => List.decidableBAll _ cs

/-! ### Single characters -/

theorem decomposeChar_ascii {c : Char} (h : c.toNat < 0x80) : decomposeChar c = [c] := by
  have hlow : c.toNat < 0xC0 := by omega
  exact if_pos hlow

/-- The table of marks has none in ASCII. -/
theorem combiningRanges_sound :
    (combiningRanges.toList.all fun row => decide (0x80 ≤ row.1)) = true := by
  decide +kernel

theorem combiningClass_ascii {c : Char} (h : c.toNat < 0x80) : combiningClass c = 0 := by
  unfold combiningClass
  generalize hrow : rowAtMost combiningRanges Prod.fst = row
  cases hfound : row c.toNat with
  | none => rfl
  | some found =>
    obtain ⟨hmem, hle⟩ := rowAtMost_eq_some ((congrFun hrow _).trans hfound)
    have hrange := List.all_eq_true.mp combiningRanges_sound found (Array.mem_toList_iff.mpr hmem)
    rw [decide_eq_true_eq] at hrange
    omega

/-- No row of the table composes with a character of ASCII. -/
theorem compositions_sound :
    (compositions.toList.all fun row => decide (0x80 ≤ row.2.1)) = true := by
  decide +kernel

theorem composePair?_ascii {b : Char} (h : b.toNat < 0x80) (a : Char) : composePair? a b = none := by
  have hhangul : hangulPair? a.toNat b.toNat = none := by
    rw [hangulPair?, if_neg, if_neg]
    · simp only [Bool.and_eq_true, decide_eq_true_eq]
      omega
    · simp only [Bool.and_eq_true, decide_eq_true_eq]
      omega
  unfold composePair?
  -- The look-up is put aside first, so that nothing computes with the table.
  generalize hrow : rowAtMost compositions (fun row => pairKey row.1 row.2.1) = row
  generalize pairKey a.toNat b.toNat = key
  rw [hhangul]
  cases hfound : row key with
  | none => rfl
  | some found =>
    obtain ⟨hmem, -⟩ := rowAtMost_eq_some ((congrFun hrow _).trans hfound)
    have hsecond := List.all_eq_true.mp compositions_sound found (Array.mem_toList_iff.mpr hmem)
    rw [decide_eq_true_eq] at hsecond
    have hne : found.2.1 ≠ b.toNat := by omega
    simp [hne]

/-! ### Texts -/

theorem orderAfter_cons (marks : List Char) (c : Char) (rest : List Char) :
    orderAfter marks (c :: rest) =
      if combiningClass c = 0 then orderMarks marks.reverse ++ c :: orderAfter [] rest
      else orderAfter (c :: marks) rest := rfl

theorem orderAfter_append_ascii {c : Char} (h : c.toNat < 0x80) (marks cs rest : List Char) :
    orderAfter marks (cs ++ c :: rest) = orderAfter marks cs ++ c :: orderAfter [] rest := by
  induction cs generalizing marks with
  | nil => rw [List.nil_append, orderAfter_cons, if_pos (combiningClass_ascii h), orderAfter]
  | cons d cs ih =>
    rw [List.cons_append, orderAfter_cons, orderAfter_cons]
    split
    · rw [ih, List.append_assoc, List.cons_append]
    · exact ih (d :: marks)

/-- Whether a mark of a class is blocked by those that stay, given in reverse. -/
def blocked (cls : Nat) : List Char → Bool
  | [] => false
  | last :: _ => cls ≤ combiningClass last

set_option maxRecDepth 10000 in
theorem composeAfter_cons (starter : Char) (kept : List Char) (c : Char) (rest : List Char) :
    composeAfter starter kept (c :: rest) =
      match if blocked (combiningClass c) kept then none else composePair? starter c with
      | some whole => composeAfter whole kept rest
      | none =>
        if combiningClass c = 0 then starter :: kept.reverse ++ composeAfter c [] rest
        else composeAfter starter (c :: kept) rest := by
  cases kept <;> rfl

theorem composeAfter_append_ascii {c : Char} (h : c.toNat < 0x80) (starter : Char)
    (kept cs rest : List Char) :
    composeAfter starter kept (cs ++ c :: rest) =
      composeAfter starter kept cs ++ composeAfter c [] rest := by
  induction cs generalizing starter kept with
  | nil =>
    rw [List.nil_append, composeAfter_cons, composePair?_ascii h, ite_self,
      if_pos (combiningClass_ascii h)]
    rfl
  | cons d cs ih =>
    rw [List.cons_append, composeAfter_cons, composeAfter_cons]
    split
    · exact ih _ _
    · split
      · rw [ih, List.append_assoc]
      · exact ih _ _

theorem composeChars_append_ascii {c : Char} (h : c.toNat < 0x80) (cs rest : List Char) :
    composeChars (cs ++ c :: rest) = composeChars cs ++ composeAfter c [] rest := by
  induction cs with
  | nil => simp [composeChars, combiningClass_ascii h]
  | cons d cs ih =>
    rw [List.cons_append, composeChars, composeChars]
    split
    · exact composeAfter_append_ascii h d [] cs rest
    · rw [ih, List.cons_append]

theorem flatMap_decomposeChar_ascii {ascii : List Char} (h : IsAscii ascii) :
    ascii.flatMap decomposeChar = ascii := by
  induction ascii with
  | nil => rfl
  | cons c ascii ih =>
    obtain ⟨hc, hascii⟩ := List.forall_mem_cons.mp h
    rw [List.flatMap_cons, decomposeChar_ascii hc, ih hascii, List.singleton_append]

theorem decomposeChars_append_ascii (cs : List Char) {ascii : List Char} (h : IsAscii ascii) :
    decomposeChars (cs ++ ascii) = decomposeChars cs ++ ascii := by
  rw [decomposeChars, List.flatMap_append, flatMap_decomposeChar_ascii h, decomposeChars]
  generalize cs.flatMap decomposeChar = parts
  -- Each character of ASCII puts the marks in front of it in order, and none wait behind it.
  induction ascii generalizing parts with
  | nil => rw [List.append_nil, List.append_nil]
  | cons c ascii ih =>
    obtain ⟨hc, hascii⟩ := List.forall_mem_cons.mp h
    have hrest := ih hascii []
    rw [List.nil_append] at hrest
    rw [orderAfter_append_ascii hc, hrest]
    rfl

/-- Behind any text ASCII stays as it is, and what is in front of it takes its own normal form. -/
theorem normalFormChars_append_ascii (cs : List Char) {ascii : List Char} (h : IsAscii ascii) :
    normalFormChars (cs ++ ascii) = normalFormChars cs ++ ascii := by
  rw [normalFormChars, decomposeChars_append_ascii cs h, normalFormChars]
  generalize decomposeChars cs = parts
  -- Each character of ASCII is a starter, so the rest is composed behind it alone.
  induction ascii generalizing parts with
  | nil => rw [List.append_nil, List.append_nil]
  | cons c ascii ih =>
    obtain ⟨hc, hascii⟩ := List.forall_mem_cons.mp h
    have hrest := ih hascii [c]
    have hone : composeChars [c] = [c] := by
      rw [composeChars, if_pos (combiningClass_ascii hc)]
      rfl
    rw [composeChars_append_ascii hc]
    rw [hone, List.singleton_append, composeChars, if_pos (combiningClass_ascii hc)] at hrest
    rw [hrest]

/-- An ASCII text is in normal form. -/
theorem normalFormChars_ascii {cs : List Char} (h : IsAscii cs) : normalFormChars cs = cs :=
  normalFormChars_append_ascii [] h

end WikiNotes.Text
