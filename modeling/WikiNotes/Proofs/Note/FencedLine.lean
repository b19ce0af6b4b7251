import WikiNotes.Proofs.Note.Line

/-! # Lines of fenced blocks

A line belongs to a fenced block if a fence is open in front of it or behind it: it opens the block,
closes it, or stands in between (`CodeSpan.InFence`).  The spans of a text say the same of each of
its lines (`CodeSpan.coversLine_findAll_iff`), although they keep no more than the numbers of the
first and the last line of every block. -/

namespace WikiNotes.CodeSpan

open Text

/-- A line, by the number of those in front of it, belongs to a fenced block: a fence is open in
    front of it or behind it. -/
def InFence (lines : List (List Char)) (n : Nat) : Prop :=
  (fenceBehind none .start (lines.take n)).isSome ∨
    (fenceBehind none .start (lines.take (n + 1))).isSome

instance (lines : List (List Char)) (n : Nat) : Decidable (InFence lines n) :=
  inferInstanceAs (Decidable (_ ∨ _))

/-! ### Lines of one span -/

theorem coversLine_cons (span : CodeSpan) (spans : List CodeSpan) (l : Nat) :
    coversLine (span :: spans) l = true ↔
      (span.fenced = true ∧ span.startLine ≤ l ∧ l ≤ span.stopLine) ∨
        coversLine spans l = true := by
  simp [coversLine, and_assoc]

variable {fence : Fence} {fence? : Option Fence} {p : Position} {raw : List Char}
  {lines : List (List Char)} {l : Nat}

/-- An open fence has all lines from its own to the place where it is open. -/
theorem coversLine_of_open (hopened : fence.opened.line ≤ l) (hl : l ≤ p.line) :
    coversLine (fencedFrom (some fence) p lines) l = true := by
  induction lines generalizing p with
  | nil => exact (coversLine_cons ..).mpr (.inl ⟨rfl, hopened, hl⟩)
  | cons raw lines ih =>
    have hahead (cs : List Char) : l ≤ (p.advance cs).line := Nat.le_trans hl (Nat.le_add_right ..)
    rw [fencedFrom_some_cons]
    split
    · exact (coversLine_cons ..).mpr (.inl ⟨rfl, hopened, hahead _⟩)
    · exact ih (hahead raw)

/-- No block has a line in front of the open fence or, if none is open, of the lines themselves. -/
theorem not_coversLine_of_lt (h : ∀ fence ∈ fence?, fence.opened.line ≤ p.line)
    (hl : l < (fence?.elim p Fence.opened).line) :
    ¬ coversLine (fencedFrom fence? p lines) l = true := by
  induction lines generalizing fence? p with
  | nil =>
    cases fence? with
    | none => exact Bool.false_ne_true
    | some fence =>
      rw [fencedFrom, coversLine_cons]
      rintro (⟨-, hstart, -⟩ | hrest)
      · exact absurd hl (Nat.not_lt.mpr hstart)
      · exact Bool.false_ne_true hrest
  | cons raw lines ih =>
    have hahead : p.line ≤ (p.advance raw).line := Nat.le_add_right ..
    have hclosed : ∀ fence ∈ (none : Option Fence), fence.opened.line ≤ (p.advance raw).line :=
      fun _ hfence => absurd hfence (Option.not_mem_none _)
    cases fence? with
    | none =>
      rw [fencedFrom_none_cons]
      cases fenceMark? (dropEndWhile isLineEnd raw) with
      | none => exact ih hclosed (Nat.lt_of_lt_of_le hl hahead)
      | some found => exact ih (fun _ hfence => Option.some.inj hfence ▸ hahead) hl
    | some fence =>
      have hopened : fence.opened.line ≤ (p.advance raw).line := Nat.le_trans (h fence rfl) hahead
      rw [fencedFrom_some_cons]
      split
      · rw [coversLine_cons]
        rintro (⟨-, hstart, -⟩ | hrest)
        · exact absurd hl (Nat.not_lt.mpr hstart)
        · exact ih hclosed (Nat.lt_of_lt_of_le hl hopened) hrest
      · exact ih (fun _ hfence => Option.some.inj hfence ▸ hopened) hl

/-! ### Lines of a text -/

/-- The first of some lines. -/
theorem coversLine_fencedFrom_zero (h : ∀ fence ∈ fence?, fence.opened.line ≤ p.line)
    (hlast : lines = [] ∨ p.line < (p.advance raw).line) :
    coversLine (fencedFrom fence? p (raw :: lines)) p.line = true ↔
      fence?.isSome ∨ (fenceBehind fence? p [raw]).isSome := by
  have hahead (cs : List Char) : p.line ≤ (p.advance cs).line := Nat.le_add_right ..
  cases fence? with
  | some fence =>
    exact iff_of_true (coversLine_of_open (h fence rfl) (Nat.le_refl _)) (.inl rfl)
  | none =>
    rw [fencedFrom_none_cons, fenceBehind, fenceBehind]
    cases fenceMark? (dropEndWhile isLineEnd raw) with
    | some found => exact iff_of_true (coversLine_of_open (Nat.le_refl _) (hahead raw)) (.inr rfl)
    | none =>
      refine iff_of_false ?_ (by simp)
      rcases hlast with rfl | hlt
      · exact Bool.false_ne_true
      · exact not_coversLine_of_lt (fun _ hfence => absurd hfence (Option.not_mem_none _)) hlt

/-! What the first line leaves open is all that the lines behind it have to be told. -/

theorem fenceBehind_cons (fence? : Option Fence) (p : Position) (raw : List Char)
    (lines : List (List Char)) :
    fenceBehind fence? p (raw :: lines) =
      fenceBehind (fenceBehind fence? p [raw]) (p.advance raw) lines := by
  cases fence? <;> rfl

theorem line_le_of_fenceBehind (h : ∀ fence ∈ fence?, fence.opened.line ≤ p.line) :
    ∀ fence ∈ fenceBehind fence? p [raw], fence.opened.line ≤ (p.advance raw).line := by
  intro fence hfence
  cases fence? with
  | none =>
    obtain ⟨found, -, rfl⟩ := Option.map_eq_some_iff.mp hfence
    exact Nat.le_add_right ..
  | some opened =>
    simp only [fenceBehind] at hfence
    split at hfence
    case isTrue => exact absurd hfence (Option.not_mem_none _)
    case isFalse => exact Nat.le_trans (h fence hfence) (Nat.le_add_right ..)

/-- The lines behind the first one. -/
theorem coversLine_fencedFrom_succ (hfeed : (p.advance raw).line = p.line + 1)
    (htext : (p.advance (dropEndWhile isLineEnd raw)).line = p.line) (n : Nat) :
    coversLine (fencedFrom fence? p (raw :: lines)) (p.line + (n + 1)) = true ↔
      coversLine (fencedFrom (fenceBehind fence? p [raw]) (p.advance raw) lines)
        ((p.advance raw).line + n) = true := by
  have hline : p.line + (n + 1) = (p.advance raw).line + n := by omega
  rw [hline]
  cases fence? with
  | none =>
    rw [fencedFrom_none_cons]
    rfl
  | some fence =>
    rw [fencedFrom_some_cons]
    simp only [fenceBehind]
    split
    · -- The block that ends on the first line has none of the lines behind it.
      rw [coversLine_cons]
      refine or_iff_right fun hspan => ?_
      have hstop : (p.advance raw).line + n ≤ (p.advance (dropEndWhile isLineEnd raw)).line :=
        hspan.2.2
      omega
    · exact Iff.rfl

theorem line_advance_dropEndWhile {line : List Char} (h : '\n' ∉ line) (p : Position) :
    (p.advance (dropEndWhile isLineEnd (line ++ ['\n']))).line = p.line := by
  rw [Position.advance, lineFeeds_of_not_mem (not_mem_dropEndWhile_line h).2, Nat.add_zero]

theorem coversLine_fencedFrom_iff {cs : List Char} {n : Nat} (hn : n < (splitLines cs).length)
    (h : ∀ fence ∈ fence?, fence.opened.line ≤ p.line) :
    coversLine (fencedFrom fence? p (splitLines cs)) (p.line + n) = true ↔
      (fenceBehind fence? p ((splitLines cs).take n)).isSome ∨
        (fenceBehind fence? p ((splitLines cs).take (n + 1))).isSome := by
  revert n fence? p
  refine splitLines_induction (motive := fun _ lines => ∀ {fence? : Option Fence} {p : Position}
    {n : Nat}, n < lines.length → (∀ fence ∈ fence?, fence.opened.line ≤ p.line) →
      (coversLine (fencedFrom fence? p lines) (p.line + n) = true ↔
        (fenceBehind fence? p (lines.take n)).isSome ∨
          (fenceBehind fence? p (lines.take (n + 1))).isSome)) ?nil ?last ?line cs
  case nil => exact fun hn => absurd hn (Nat.not_lt_zero _)
  case last =>
    intro line _ _ fence? p n hn h
    obtain rfl : n = 0 := by simpa using hn
    exact coversLine_fencedFrom_zero h (.inl rfl)
  case line =>
    intro line rest hline ih fence? p n hn h
    have hfeed : (p.advance (line ++ ['\n'])).line = p.line + 1 := by
      rw [Position.advance, lineFeeds_line hline]
      rfl
    cases n with
    | zero => exact coversLine_fencedFrom_zero h (.inr (by omega))
    | succ n =>
      have hbehind (m : Nat) :
          fenceBehind fence? p (((line ++ ['\n']) :: splitLines rest).take (m + 1)) =
            fenceBehind (fenceBehind fence? p [line ++ ['\n']]) (p.advance (line ++ ['\n']))
              ((splitLines rest).take m) := fenceBehind_cons ..
      rw [coversLine_fencedFrom_succ hfeed (line_advance_dropEndWhile hline p), hbehind, hbehind]
      exact ih (Nat.lt_of_succ_lt_succ hn) (line_le_of_fenceBehind h)

/-- A line of a text lies inside a fenced block exactly if a fence is open in front of it or behind
    it. -/
theorem coversLine_findAll_iff {cs : List Char} {n : Nat} (hn : n < (splitLines cs).length) :
    coversLine (findAll cs) (n + 1) = true ↔ InFence (splitLines cs) n := by
  have hfenced : coversLine (findAll cs) (n + 1) = true ↔
      coversLine (fencedBlocks cs) (n + 1) = true := by
    simp only [coversLine, List.any_eq_true, Bool.and_eq_true]
    refine exists_congr fun span => and_congr_left fun hspan => ?_
    rw [mem_findAll]
    refine or_iff_left fun hinline => ?_
    have hmem : ∃ pattern, span ∈ inlineCode pattern cs := by
      rcases hinline with ⟨hdouble, -⟩ | ⟨hsingle, -⟩
      · exact ⟨_, hdouble⟩
      · exact ⟨_, hsingle⟩
    obtain ⟨pattern, hpattern⟩ := hmem
    obtain ⟨found, -, rfl⟩ := List.mem_map.mp hpattern
    exact Bool.false_ne_true hspan.1.1
  rw [hfenced, Nat.add_comm]
  exact coversLine_fencedFrom_iff hn fun _ hfence => absurd hfence (Option.not_mem_none _)

end WikiNotes.CodeSpan
