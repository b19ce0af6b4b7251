import WikiNotes.Proofs.Note.CodeSpan

/-! # Fences line by line

A fence of backticks, lines none of which closes it and as many backticks again are one fenced
block, whatever the lines hold (`fencedIn_fence`, `fencedIn_fence_line`).  A line that does not start
with three equal marks opens none (`fencedIn_line`, `fencedIn_last`). -/

namespace WikiNotes

open Text

namespace CodeSpan

/-! ### Lines -/

theorem splitLines_cons_of_ne {c : Char} (hc : c ≠ '\n') (cs : List Char) :
    splitLines (c :: cs) =
      (c :: (splitLines cs).headD []) :: (splitLines cs).tail := by
  rw [splitLines, if_neg hc]
  cases splitLines cs <;> rfl

/-- The first line of a text ends behind its first line feed. -/
theorem splitLines_line {line : List Char} (h : '\n' ∉ line) (rest : List Char) :
    splitLines (line ++ '\n' :: rest) = (line ++ ['\n']) :: splitLines rest := by
  induction line with
  | nil => rw [List.nil_append, splitLines, if_pos rfl, List.nil_append]
  | cons c line ih =>
    rw [List.mem_cons, not_or] at h
    rw [List.cons_append, splitLines_cons_of_ne (Ne.symm h.1), ih h.2]
    rfl

/-- A text without line feeds is one line. -/
theorem splitLines_last {line : List Char} (h : '\n' ∉ line) (hne : line ≠ []) :
    splitLines line = [line] := by
  induction line with
  | nil => exact absurd rfl hne
  | cons c line ih =>
    rw [List.mem_cons, not_or] at h
    rw [splitLines_cons_of_ne (Ne.symm h.1)]
    by_cases hline : line = []
    · rw [hline]
      rfl
    · rw [ih h.2 hline]
      rfl

theorem splitLines_lines {lines : List (List Char)} (h : ∀ line ∈ lines, '\n' ∉ line)
    (rest : List Char) :
    splitLines (lines.flatMap (· ++ ['\n']) ++ rest) =
      lines.map (· ++ ['\n']) ++ splitLines rest := by
  induction lines with
  | nil => rfl
  | cons line lines ih =>
    rw [List.forall_mem_cons] at h
    rw [List.flatMap_cons, List.append_assoc, List.append_assoc, List.singleton_append,
      splitLines_line h.1, ih h.2, List.map_cons, List.cons_append]

/-! ### Opening and closing a fence -/

/-- A fence of backticks. -/
def ticks (width : Nat) : List Char := List.replicate width tick

/-- A line closes a fence of backticks if, blanks at its ends aside, it is a run of at least as
    many. -/
def Closes (width : Nat) (line : List Char) : Prop :=
  width ≤ (trimChars line).length ∧ ∀ c ∈ trimChars line, c = tick

instance (width : Nat) (line : List Char) : Decidable (Closes width line) :=
  decidable_of_iff (width ≤ (trimChars line).length ∧ (trimChars line).all (· = tick) = true)
    (by simp [Closes])

theorem byteLength_ticks (width : Nat) : byteLength (ticks width) = width := by
  induction width with
  | zero => rfl
  | succ width ih =>
    rw [ticks, List.replicate_succ, byteLength_cons]
    change 1 + byteLength (ticks width) = width + 1
    rw [ih, Nat.add_comm]

theorem not_mem_ticks {c : Char} (hc : c ≠ tick) (width : Nat) : c ∉ ticks width :=
  fun hmem => hc (List.eq_of_mem_replicate hmem)

theorem closedBy_iff {width : Nat} {opened : Position} {line : List Char} :
    Fence.closedBy ⟨tick, width, opened⟩ line = true ↔ Closes width line := by
  simp only [Fence.closedBy, Bool.and_eq_true, decide_eq_true_eq, List.all_eq_true, Closes]
  refine and_congr_left fun hall => ?_
  have hticks : trimChars line = ticks (trimChars line).length :=
    List.eq_replicate_iff.mpr ⟨rfl, hall⟩
  rw [hticks, byteLength_ticks, ticks, List.length_replicate]

theorem isBlank_of_isLineEnd {c : Char} (h : isLineEnd c = true) : isBlank c = true := by
  rw [isLineEnd, Bool.or_eq_true, beq_iff_eq, beq_iff_eq] at h
  rcases h with rfl | rfl <;> rfl

theorem trimChars_append_of_blank {trail : List Char} (h : ∀ c ∈ trail, isBlank c = true)
    (cs : List Char) : trimChars (cs ++ trail) = trimChars cs := by
  have hlead : ∀ c ∈ ([] : List Char), isBlank c = true := fun _ hc => nomatch hc
  exact stripWhile_between hlead h cs

/-- Line ends play no part in whether a line closes a fence. -/
theorem trimChars_dropEndWhile_isLineEnd (line : List Char) :
    trimChars (dropEndWhile isLineEnd line) = trimChars line := by
  obtain ⟨trail, hline, htrail⟩ := exists_dropEndWhile isLineEnd line
  have hblank : ∀ c ∈ trail, isBlank c = true := fun c hc => isBlank_of_isLineEnd (htrail c hc)
  conv => rhs; rw [hline, trimChars_append_of_blank hblank]

theorem trimChars_line (line : List Char) : trimChars (line ++ ['\n']) = trimChars line :=
  trimChars_append_of_blank (List.forall_mem_singleton.mpr rfl) line

theorem trimChars_ticks (width : Nat) : trimChars (ticks width) = ticks width := by
  have htick {c : Char} (hc : c ∈ ticks width) : isBlank c = false := by
    rw [List.eq_of_mem_replicate hc]
    rfl
  exact stripWhile_eq_self_iff.mpr ⟨fun c hc => htick (List.mem_of_mem_head? hc),
    fun c hc => htick (List.mem_of_mem_getLast? hc)⟩

/-- A fence closes what as many backticks opened. -/
theorem closes_ticks (width : Nat) : Closes width (ticks width) := by
  rw [Closes, trimChars_ticks]
  exact ⟨Nat.le_of_eq (List.length_replicate ..).symm, fun c hc => List.eq_of_mem_replicate hc⟩

/-- The line of a fence, with or without its line feed, holds just the fence. -/
theorem dropEndWhile_ticks (width : Nat) {trail : List Char}
    (htrail : trail = [] ∨ trail = ['\n']) :
    dropEndWhile isLineEnd (ticks width ++ trail) = ticks width := by
  refine dropEndWhile_append_of_stop (fun c hc => ?_) ?_
  · rw [List.eq_of_mem_replicate (List.mem_of_mem_getLast? hc)]
    rfl
  · rcases htrail with rfl | rfl
    · exact fun _ hc => nomatch hc
    · exact List.forall_mem_singleton.mpr rfl

theorem fenceMark?_ticks {width : Nat} (h : 3 ≤ width) :
    fenceMark? (ticks width) = some (tick, width) := by
  obtain ⟨more, rfl⟩ := Nat.exists_eq_add_of_le' h
  have hall : (ticks (more + 3)).takeWhile (· = tick) = ticks (more + 3) := by
    rw [List.takeWhile_eq_self_iff]
    exact fun c hc => decide_eq_true (List.eq_of_mem_replicate hc)
  have hcons : ticks (more + 3) = tick :: ticks (more + 2) := rfl
  rw [hcons, fenceMark?, ← hcons, hall, ticks, List.length_replicate, if_pos ⟨.inl rfl, h⟩]

/-! ### Blocks -/

/-- Lines that do not close a fence leave it open. -/
theorem fencedFrom_interior {width : Nat} {lines : List (List Char)}
    (h : ∀ line ∈ lines, ¬ Closes width line) (opened p : Position) (more : List (List Char)) :
    fencedFrom (some ⟨tick, width, opened⟩) p (lines.map (· ++ ['\n']) ++ more) =
      fencedFrom (some ⟨tick, width, opened⟩) (p.advance (lines.flatMap (· ++ ['\n']))) more := by
  induction lines generalizing p with
  | nil => rfl
  | cons line lines ih =>
    rw [List.forall_mem_cons] at h
    have hopen : ¬ Fence.closedBy ⟨tick, width, opened⟩
        (dropEndWhile isLineEnd (line ++ ['\n'])) = true := by
      rw [closedBy_iff, Closes, trimChars_dropEndWhile_isLineEnd, trimChars_line]
      exact h.1
    rw [List.map_cons, List.cons_append, fencedFrom_some_cons, if_neg hopen, ih h.2,
      List.flatMap_cons, ← Position.advance_append]

/-- The fenced blocks of a text from a position on where no fence is open. -/
def fencedIn (p : Position) (cs : List Char) : List CodeSpan := fencedFrom none p (splitLines cs)

/-- A fenced block of backticks. -/
def fenceText (width : Nat) (lines : List (List Char)) : List Char :=
  ticks width ++ '\n' :: (lines.flatMap (· ++ ['\n']) ++ ticks width)

/-- A fence is one block, from its first backtick to its last, and the search goes on behind it. -/
theorem fencedFrom_fence {width : Nat} (hwidth : 3 ≤ width) {lines : List (List Char)}
    (hlines : ∀ line ∈ lines, '\n' ∉ line ∧ ¬ Closes width line) (p : Position)
    {trail : List Char} (htrail : trail = [] ∨ trail = ['\n']) (more : List (List Char)) :
    fencedFrom none p
        ((ticks width ++ ['\n']) :: (lines.map (· ++ ['\n']) ++ (ticks width ++ trail) :: more)) =
      Fence.span ⟨tick, width, p⟩ (p.advance (fenceText width lines)) ::
        fencedFrom none (p.advance (fenceText width lines ++ trail)) more := by
  have hopen : fenceMark? (dropEndWhile isLineEnd (ticks width ++ ['\n'])) =
      some (tick, width) := by
    rw [dropEndWhile_ticks width (.inr rfl), fenceMark?_ticks hwidth]
  have hclose : Fence.closedBy ⟨tick, width, p⟩ (ticks width) = true :=
    closedBy_iff.mpr (closes_ticks width)
  rw [fencedFrom_none_cons, hopen, Option.map_some,
    fencedFrom_interior fun line hline => (hlines line hline).2, fencedFrom_some_cons,
    dropEndWhile_ticks width htrail, if_pos hclose]
  simp only [← Position.advance_append, fenceText, List.append_assoc, List.cons_append,
    List.nil_append]

theorem fencedIn_fence {width : Nat} (hwidth : 3 ≤ width) {lines : List (List Char)}
    (hlines : ∀ line ∈ lines, '\n' ∉ line ∧ ¬ Closes width line) (p : Position) :
    fencedIn p (fenceText width lines) =
      [Fence.span ⟨tick, width, p⟩ (p.advance (fenceText width lines))] := by
  have hne : ticks width ≠ [] := by
    intro hnil
    rw [ticks, List.replicate_eq_nil_iff] at hnil
    omega
  have hsplit : splitLines (fenceText width lines) =
      (ticks width ++ ['\n']) :: (lines.map (· ++ ['\n']) ++ [ticks width ++ []]) := by
    rw [fenceText, splitLines_line (not_mem_ticks (by decide) width),
      splitLines_lines fun line hline => (hlines line hline).1,
      splitLines_last (not_mem_ticks (by decide) width) hne, List.append_nil]
  rw [fencedIn, hsplit, fencedFrom_fence hwidth hlines p (.inl rfl)]
  rfl

theorem fencedIn_fence_line {width : Nat} (hwidth : 3 ≤ width) {lines : List (List Char)}
    (hlines : ∀ line ∈ lines, '\n' ∉ line ∧ ¬ Closes width line) (p : Position)
    (rest : List Char) :
    fencedIn p (fenceText width lines ++ '\n' :: rest) =
      Fence.span ⟨tick, width, p⟩ (p.advance (fenceText width lines)) ::
        fencedIn ((p.advance (fenceText width lines)).next '\n') rest := by
  have hcut : fenceText width lines ++ '\n' :: rest =
      ticks width ++ '\n' :: (lines.flatMap (· ++ ['\n']) ++ (ticks width ++ '\n' :: rest)) := by
    simp [fenceText]
  have hsplit : splitLines (fenceText width lines ++ '\n' :: rest) =
      (ticks width ++ ['\n']) ::
        (lines.map (· ++ ['\n']) ++ (ticks width ++ ['\n']) :: splitLines rest) := by
    rw [hcut, splitLines_line (not_mem_ticks (by decide) width),
      splitLines_lines fun line hline => (hlines line hline).1,
      splitLines_line (not_mem_ticks (by decide) width)]
  rw [fencedIn, hsplit, fencedFrom_fence hwidth hlines p (.inr rfl), Position.next_eq_advance,
    ← Position.advance_append]
  rfl

/-- A line that starts with three equal marks. -/
def Opens (line : List Char) : Prop := ∃ mark, IsMark mark ∧ [mark, mark, mark] <+: line

/-- A line that does not start with three equal marks opens no fence. -/
theorem fenceMark?_eq_none {line : List Char} (h : ¬ Opens line) :
    fenceMark? (dropEndWhile isLineEnd line) = none := by
  rw [Option.eq_none_iff_forall_ne_some]
  rintro ⟨mark, width⟩ hmark
  obtain ⟨hismark, -, rest, hrest⟩ := fenceMark?_eq_some hmark
  have hprefix : [mark, mark, mark] <+: dropEndWhile isLineEnd line := ⟨rest, hrest.symm⟩
  have hline := dropEndWhile_prefix isLineEnd line
  exact h ⟨mark, hismark, hprefix.trans hline⟩

/-- A line that does not start with three equal marks is passed over. -/
theorem fencedIn_line {line : List Char} (hbreak : '\n' ∉ line)
    (hopens : ∀ trail, ¬ Opens (line ++ trail)) (p : Position) (rest : List Char) :
    fencedIn p (line ++ '\n' :: rest) = fencedIn ((p.advance line).next '\n') rest := by
  rw [fencedIn, splitLines_line hbreak, fencedFrom_none_cons, fenceMark?_eq_none (hopens _),
    Position.next_eq_advance, ← Position.advance_append]
  rfl

theorem fencedIn_last {line : List Char} (hbreak : '\n' ∉ line) (hne : line ≠ [])
    (hopens : ∀ trail, ¬ Opens (line ++ trail)) (p : Position) : fencedIn p line = [] := by
  have hopen : ¬ Opens line := by
    have hnil := hopens []
    rwa [List.append_nil] at hnil
  rw [fencedIn, splitLines_last hbreak hne, fencedFrom_none_cons, fenceMark?_eq_none hopen]
  rfl

end CodeSpan

end WikiNotes
