import WikiNotes.Proofs.Note.Fence
import WikiNotes.Proofs.Note.Ticks

/-! # Code behind a text

What stands in front of a text moves its code, and it may change what is code: a fence may be open
there, or a pair of backticks may wait for the next one.  Neither is so behind a text that ends a
line, closes all its fences and has an even number of pairs of backticks (`KeepsCode`).  What follows
it has the code that it has on its own, moved behind it (`KeepsCode.findAll_append`).

`Position.moved`, `Found.moved` and `CodeSpan.moved` move what is told about a text behind another
one; searching goes along with it (`findAllFrom_moved`, `CodeSpan.fencedFrom_moved`). -/

namespace WikiNotes

namespace Text

/-! ### Moving -/

/-- A position so many bytes and lines further on. -/
def Position.moved (p : Position) (bytes lines : Nat) : Position :=
  ⟨p.offset + bytes, p.line + lines⟩

/-- What was found so many bytes and lines further on. -/
def Found.moved {α : Type} (f : Found α) (bytes lines : Nat) : Found α :=
  ⟨f.value, f.start.moved bytes lines, f.stop.moved bytes lines⟩

variable {bytes lines : Nat}

theorem Position.advance_moved (p : Position) (cs : List Char) :
    (p.moved bytes lines).advance cs = (p.advance cs).moved bytes lines := by
  simp only [moved, advance, Nat.add_right_comm]

theorem Position.next_moved (p : Position) (c : Char) :
    (p.moved bytes lines).next c = (p.next c).moved bytes lines := by
  rw [next_eq_advance, next_eq_advance, advance_moved]

/-- The position behind a text. -/
theorem Position.start_advance (cs : List Char) :
    start.advance cs = start.moved (byteLength cs) (lineFeeds cs) := rfl

/-- What is found does not depend on where the text starts. -/
theorem findAllFrom_moved {α : Type} (pattern : List Char → Option (Match α)) (skip : Nat)
    (p : Position) (cs : List Char) :
    findAllFrom pattern skip (p.moved bytes lines) cs =
      (findAllFrom pattern skip p cs).map (·.moved bytes lines) := by
  induction cs generalizing skip p with
  | nil => cases skip <;> rfl
  | cons c cs ih =>
    cases skip with
    | succ skip => rw [findAllFrom, findAllFrom, Position.next_moved, ih]
    | zero =>
      rw [findAllFrom, findAllFrom]
      cases pattern (c :: cs) with
      | none => rw [Position.next_moved, ih]
      | some m =>
        dsimp only
        rw [List.map_cons, Position.next_moved, ih, Position.advance_moved]
        rfl

/-! ### Lines -/

/-- The beginning of two texts in a row ends in the first or in the second one. -/
theorem prefix_append_cases {α : Type} {y a b : List α} (h : y <+: a ++ b) :
    y <+: a ∨ ∃ z, z ≠ [] ∧ y = a ++ z ∧ z <+: b := by
  obtain ⟨rest, hrest⟩ := h
  rcases List.append_eq_append_iff.mp hrest with ⟨more, rfl, -⟩ | ⟨z, rfl, hz⟩
  · exact .inl (List.prefix_append ..)
  · by_cases hnil : z = []
    · exact .inl (by simp [hnil])
    · exact .inr ⟨z, hnil, rfl, rest, hz.symm⟩

/-- A text that ends with a line feed. -/
def EndsLine (cs : List Char) : Prop := cs.getLast? = some '\n'

instance : DecidablePred EndsLine := fun _ => inferInstanceAs (Decidable (_ = _))

theorem endsLine_iff {cs : List Char} : EndsLine cs ↔ ∃ line, cs = line ++ ['\n'] :=
  List.getLast?_eq_some_iff

theorem EndsLine.append {a : List Char} (h : EndsLine a) (b : List Char) : EndsLine (b ++ a) := by
  obtain ⟨line, rfl⟩ := endsLine_iff.mp h
  exact endsLine_iff.mpr ⟨b ++ line, by simp⟩

theorem EndsLine.of_append {a b : List Char} (hb : b ≠ []) (h : EndsLine (a ++ b)) :
    EndsLine b := by
  rwa [EndsLine, List.getLast?_append_of_ne_nil _ hb] at h

theorem EndsLine.mem {cs : List Char} (h : EndsLine cs) : '\n' ∈ cs := List.mem_of_mem_getLast? h

/-- The lines of a text stay the lines of it if others follow. -/
theorem EndsLine.splitLines_append {a : List Char} (h : EndsLine a) (b : List Char) :
    splitLines (a ++ b) = splitLines a ++ splitLines b := by
  obtain ⟨line, rfl⟩ := endsLine_iff.mp h
  clear h
  rw [List.append_assoc, List.singleton_append]
  induction line with
  | nil => simp [splitLines]
  | cons c line ih =>
    rw [List.cons_append, List.cons_append]
    by_cases hc : c = '\n'
    · rw [splitLines, if_pos hc, splitLines, if_pos hc, ih, List.cons_append]
    · have hne : splitLines (line ++ ['\n']) ≠ [] := fun hnil => by
        have hflatten := congrArg List.flatten hnil
        rw [CodeSpan.splitLines_flatten] at hflatten
        simp at hflatten
      obtain ⟨first, rest, hlines⟩ := List.exists_cons_of_ne_nil hne
      rw [CodeSpan.splitLines_cons_of_ne hc, CodeSpan.splitLines_cons_of_ne hc, ih, hlines]
      rfl

end Text

open Text

namespace CodeSpan

variable {bytes lines : Nat}

/-- A span so many bytes and lines further on. -/
def moved (span : CodeSpan) (bytes lines : Nat) : CodeSpan :=
  ⟨span.start + bytes, span.stop + bytes, span.startLine + lines, span.stopLine + lines,
    span.fenced⟩

/-! ### Fences left open -/

/-- The fence that is open behind lines, given the fence that is open in front of them. -/
def fenceBehind : Option Fence → Position → List (List Char) → Option Fence
  | fence?, _, [] => fence?
  | fence?, p, raw :: lines =>
    let line := dropEndWhile isLineEnd raw
    match fence? with
    | none =>
      fenceBehind ((fenceMark? line).map fun (mark, width) => ⟨mark, width, p⟩) (p.advance raw) lines
    | some fence =>
      fenceBehind (if fence.closedBy line then none else some fence) (p.advance raw) lines

/-- What comes behind lines has the fenced blocks that it has with the fence that they leave open. -/
theorem exists_fencedFrom_append (fence? : Option Fence) (p : Position)
    (lines : List (List Char)) :
    ∃ closed, ∀ more, fencedFrom fence? p (lines ++ more) =
      closed ++ fencedFrom (fenceBehind fence? p lines) (p.advance lines.flatten) more := by
  induction lines generalizing fence? p with
  | nil => exact ⟨[], fun more => by simp [fenceBehind, Position.advance, byteLength, lineFeeds]⟩
  | cons raw lines ih =>
    rw [List.flatten_cons, Position.advance_append]
    cases fence? with
    | none =>
      obtain ⟨closed, hclosed⟩ := ih ((fenceMark? (dropEndWhile isLineEnd raw)).map
        fun found => ⟨found.1, found.2, p⟩) (p.advance raw)
      exact ⟨closed, fun more => by rw [List.cons_append, fencedFrom_none_cons, hclosed]; rfl⟩
    | some fence =>
      cases hclose : fence.closedBy (dropEndWhile isLineEnd raw) with
      | true =>
        obtain ⟨closed, hclosed⟩ := ih none (p.advance raw)
        refine ⟨fence.span (p.advance (dropEndWhile isLineEnd raw)) :: closed, fun more => ?_⟩
        rw [List.cons_append, fencedFrom_some_cons, if_pos hclose, hclosed]
        simp [fenceBehind, hclose]
      | false =>
        obtain ⟨closed, hclosed⟩ := ih (some fence) (p.advance raw)
        refine ⟨closed, fun more => ?_⟩
        rw [List.cons_append, fencedFrom_some_cons, if_neg (by simp [hclose]), hclosed]
        simp [fenceBehind, hclose]

theorem fenceBehind_append (fence? : Option Fence) (p : Position)
    (lines more : List (List Char)) :
    fenceBehind fence? p (lines ++ more) =
      fenceBehind (fenceBehind fence? p lines) (p.advance lines.flatten) more := by
  induction lines generalizing fence? p with
  | nil => simp [fenceBehind, Position.advance, byteLength, lineFeeds]
  | cons raw lines ih =>
    rw [List.flatten_cons, Position.advance_append]
    cases fence? <;> exact ih _ _

/-- A fence that is left open was opened in the lines with a mark. -/
theorem fenceBehind_sound {fence? : Option Fence} {p : Position} {lines : List (List Char)}
    (h : ∀ fence ∈ fence?, IsMark fence.mark ∧ 0 < fence.width ∧ fence.opened.offset ≤ p.offset) :
    ∀ fence ∈ fenceBehind fence? p lines, IsMark fence.mark ∧ 0 < fence.width ∧
      fence.opened.offset ≤ (p.advance lines.flatten).offset := by
  induction lines generalizing fence? p with
  | nil => simpa [fenceBehind, Position.advance, byteLength] using h
  | cons raw lines ih =>
    have hahead : p.offset ≤ (p.advance raw).offset := Nat.le_add_right ..
    rw [List.flatten_cons, Position.advance_append]
    cases fence? with
    | none =>
      refine ih fun fence hfence => ?_
      obtain ⟨⟨mark, width⟩, hmark, rfl⟩ := Option.map_eq_some_iff.mp hfence
      obtain ⟨hismark, hwidth, -⟩ := fenceMark?_eq_some hmark
      exact ⟨hismark, by dsimp only; omega, hahead⟩
    | some fence =>
      refine ih fun _ hfence => ?_
      split at hfence
      case isTrue => exact absurd hfence (Option.not_mem_none _)
      case isFalse =>
        obtain rfl := Option.some.inj hfence
        obtain ⟨hmark, hwidth, hopened⟩ := h fence rfl
        exact ⟨hmark, hwidth, Nat.le_trans hopened hahead⟩

/-- Fenced blocks do not depend on where the lines start. -/
theorem fencedFrom_moved (fence? : Option Fence) (p : Position) (ls : List (List Char)) :
    fencedFrom (fence?.map fun fence => ⟨fence.mark, fence.width, fence.opened.moved bytes lines⟩)
        (p.moved bytes lines) ls =
      (fencedFrom fence? p ls).map (·.moved bytes lines) := by
  induction ls generalizing fence? p with
  | nil => cases fence? <;> rfl
  | cons raw ls ih =>
    cases fence? with
    | none =>
      rw [Option.map_none, fencedFrom_none_cons, fencedFrom_none_cons, Position.advance_moved, ← ih,
        Option.map_map]
      rfl
    | some fence =>
      have hclosed (line : List Char) : Fence.closedBy
          ⟨fence.mark, fence.width, fence.opened.moved bytes lines⟩ line = fence.closedBy line := rfl
      rw [Option.map_some, fencedFrom_some_cons, fencedFrom_some_cons, hclosed]
      split
      · rw [List.map_cons, Position.advance_moved, Position.advance_moved, ← ih]
        rfl
      · rw [Position.advance_moved, ← ih]
        rfl

/-! ### Code that is kept -/

/-- A text that ends a line and leaves open neither a fence nor a pair of backticks. -/
structure KeepsCode (front : List Char) : Prop where
  endsLine : EndsLine front
  fence_closed : fenceBehind none .start (splitLines front) = none
  pairs_even : (tickPairs .start front).length % 2 = 0

theorem fencedBlocks_append {front : List Char} (h : EndsLine front)
    (hclosed : fenceBehind none .start (splitLines front) = none) (body : List Char) :
    fencedBlocks (front ++ body) = fencedBlocks front ++
      (fencedBlocks body).map (·.moved (byteLength front) (lineFeeds front)) := by
  obtain ⟨closed, happend⟩ := exists_fencedFrom_append none .start (splitLines front)
  rw [hclosed, splitLines_flatten, Position.start_advance] at happend
  have hfront := happend []
  rw [List.append_nil, fencedFrom, List.append_nil] at hfront
  rw [fencedBlocks, h.splitLines_append, happend, ← hfront]
  exact congrArg _ (fencedFrom_moved none .start (splitLines body))

theorem inlineCode_append {pattern : List Char → Option (Match Unit)} {front body : List Char}
    (h : findAllFrom pattern 0 .start (front ++ body) = findAllFrom pattern 0 .start front ++
      findAllFrom pattern 0 (Position.start.advance front) body) :
    inlineCode pattern (front ++ body) = inlineCode pattern front ++
      (inlineCode pattern body).map (·.moved (byteLength front) (lineFeeds front)) := by
  rw [inlineCode, Text.findAll, h, Position.start_advance, findAllFrom_moved, List.map_append,
    List.map_map, inlineCode, inlineCode, List.map_map]
  rfl

theorem findAllFrom_doubleSpan?_append {front : List Char} (h : EndsLine front)
    (heven : (tickPairs .start front).length % 2 = 0) (body : List Char) :
    findAllFrom doubleSpan? 0 .start (front ++ body) = findAllFrom doubleSpan? 0 .start front ++
      findAllFrom doubleSpan? 0 (Position.start.advance front) body := by
  obtain ⟨line, rfl⟩ := endsLine_iff.mp h
  have hpairs (b : List Char) : tickPairs .start (line ++ ['\n'] ++ b) =
      tickPairs .start (line ++ ['\n']) ++
        tickPairs (Position.start.advance (line ++ ['\n'])) b := by
    rw [List.append_assoc, List.singleton_append, tickPairs_append_line, tickPairs_append_line,
      Position.advance_append, ← Position.next_eq_advance]
    exact congrArg (· ++ _) (List.append_nil _).symm
  rw [findAllFrom_doubleSpan?, hpairs, pairUp_append heven, findAllFrom_doubleSpan?,
    findAllFrom_doubleSpan?]

theorem findAllFrom_singleSpan?_append {front : List Char} (h : EndsLine front)
    (body : List Char) :
    findAllFrom singleSpan? 0 .start (front ++ body) = findAllFrom singleSpan? 0 .start front ++
      findAllFrom singleSpan? 0 (Position.start.advance front) body := by
  obtain ⟨line, rfl⟩ := endsLine_iff.mp h
  rw [List.append_assoc, List.singleton_append, findAllFrom_singleSpan?_line,
    findAllFrom_singleSpan?_line, Position.advance_append, ← Position.next_eq_advance]
  exact congrArg (· ++ _) (List.append_nil _).symm

/-- A span is kept of fenced blocks, double and single backtick code. -/
def Kept (fences doubles singles : List CodeSpan) (span : CodeSpan) : Prop :=
  span ∈ fences ∨ (span ∈ doubles ∧ ∀ b ∈ fences, Apart span b) ∨
    span ∈ singles ∧ (∀ b ∈ fences, Apart span b) ∧
      ∀ b ∈ doubles, (∀ c ∈ fences, Apart b c) → Apart span b

theorem mem_findAll_iff_kept {cs : List Char} {span : CodeSpan} : span ∈ findAll cs ↔
    Kept (fencedBlocks cs) (inlineCode doubleSpan? cs) (inlineCode singleSpan? cs) span :=
  mem_findAll

/-- Code that lies apart is kept apart. -/
theorem kept_append {fences doubles singles fences' doubles' singles' : List CodeSpan}
    (h : ∀ a ∈ fences ++ doubles ++ singles, ∀ b ∈ fences' ++ doubles' ++ singles', Apart a b)
    {span : CodeSpan} :
    Kept (fences ++ fences') (doubles ++ doubles') (singles ++ singles') span ↔
      Kept fences doubles singles span ∨ Kept fences' doubles' singles' span := by
  have hsymm {a b : CodeSpan} : Apart a b ↔ Apart b a := or_comm
  simp only [List.mem_append, or_imp, forall_and, and_assoc] at h
  simp only [Kept, List.mem_append, or_imp, forall_and]
  grind

/-- Which spans are kept is a matter of which lie apart. -/
theorem kept_map {move : CodeSpan → CodeSpan} {fences doubles singles : List CodeSpan}
    (h : ∀ a ∈ fences ++ doubles ++ singles, ∀ b ∈ fences ++ doubles ++ singles,
      (Apart (move a) (move b) ↔ Apart a b)) {span : CodeSpan} :
    Kept (fences.map move) (doubles.map move) (singles.map move) span ↔
      ∃ inner, Kept fences doubles singles inner ∧ move inner = span := by
  simp only [List.mem_append] at h
  simp only [Kept, List.mem_map, forall_exists_index, and_imp, forall_apply_eq_imp_iff₂]
  grind

theorem kept_moved {fences doubles singles : List CodeSpan} {span : CodeSpan} :
    Kept (fences.map (·.moved bytes lines)) (doubles.map (·.moved bytes lines))
        (singles.map (·.moved bytes lines)) span ↔
      ∃ inner, Kept fences doubles singles inner ∧ inner.moved bytes lines = span :=
  kept_map fun a _ b _ => by simp only [Apart, moved, Nat.add_le_add_iff_right]

theorem stop_le_of_framed {cs : List Char} {span : CodeSpan} (h : Framed cs span) :
    span.stop ≤ byteLength cs := by
  rcases h.stops with hstop | ⟨a, c, b, hcs, hstop, -⟩
  · exact Nat.le_of_eq hstop
  · have hcut : cs = (a ++ [c]) ++ b := by simp [hcs]
    rw [hstop, hcut, byteLength_append _ b]
    exact Nat.le_add_right ..

theorem stop_le_of_mem_fencedBlocks {cs : List Char} {span : CodeSpan}
    (h : span ∈ fencedBlocks cs) : span.stop ≤ byteLength cs :=
  stop_le_of_framed (framed_of_mem_findAll (mem_findAll.mpr (.inl h)))

theorem stop_le_of_mem_inlineCode {pattern : List Char → Option (Match Unit)}
    (h : Proper pattern) {cs : List Char} {span : CodeSpan} (hspan : span ∈ inlineCode pattern cs) :
    span.stop ≤ byteLength cs := by
  obtain ⟨f, hf, rfl⟩ := List.mem_map.mp hspan
  have hstop := (h.within hf).2.2
  rwa [Position.start, Nat.zero_add] at hstop

/-- The code of a text behind one that keeps it is that of the text on its own, moved behind the
    other one. -/
theorem KeepsCode.findAll_append {front : List Char} (h : KeepsCode front) (body : List Char) :
    findAll (front ++ body) = findAll front ++
      (findAll body).map (·.moved (byteLength front) (lineFeeds front)) := by
  have hbefore : ∀ a ∈ fencedBlocks front ++ inlineCode doubleSpan? front ++
      inlineCode singleSpan? front, a.stop ≤ byteLength front := by
    simp only [List.mem_append]
    rintro a ((ha | ha) | ha)
    · exact stop_le_of_mem_fencedBlocks ha
    · exact stop_le_of_mem_inlineCode proper_doubleSpan? ha
    · exact stop_le_of_mem_inlineCode proper_singleSpan? ha
  have hmem (span : CodeSpan) : span ∈ findAll (front ++ body) ↔ span ∈ findAll front ++
      (findAll body).map (·.moved (byteLength front) (lineFeeds front)) := by
    rw [List.mem_append, List.mem_map, mem_findAll_iff_kept,
      fencedBlocks_append h.endsLine h.fence_closed,
      inlineCode_append (findAllFrom_doubleSpan?_append h.endsLine h.pairs_even body),
      inlineCode_append (findAllFrom_singleSpan?_append h.endsLine body), kept_append, kept_moved]
    · simp only [mem_findAll_iff_kept]
    · intro a ha b hb
      rw [← List.map_append, ← List.map_append] at hb
      obtain ⟨inner, -, rfl⟩ := List.mem_map.mp hb
      exact .inl (Nat.le_trans (hbefore a ha) (Nat.le_add_left ..))
  refine eq_of_mem_iff (pairwise_findAll _) (fun _ => start_lt_stop) ?_ (fun span hspan => ?_) hmem
  · refine List.pairwise_append.mpr ⟨pairwise_findAll front, List.pairwise_map.mpr ?_, ?_⟩
    · exact (pairwise_findAll body).imp fun hle => Nat.add_le_add_right hle _
    · intro a ha b hb
      obtain ⟨inner, -, rfl⟩ := List.mem_map.mp hb
      exact Nat.le_trans (stop_le_of_framed (framed_of_mem_findAll ha)) (Nat.le_add_left ..)
  · rcases List.mem_append.mp hspan with hspan | hspan
    · exact start_lt_stop hspan
    · obtain ⟨inner, hinner, rfl⟩ := List.mem_map.mp hspan
      exact Nat.add_lt_add_right (start_lt_stop hinner) _

/-- Whether a place lies in code does not depend on a text in front that keeps the code. -/
theorem KeepsCode.covers_append {front : List Char} (h : KeepsCode front) (body : List Char)
    (offset : Nat) :
    covers (findAll (front ++ body)) (offset + byteLength front) =
      covers (findAll body) offset := by
  have hfront : covers (findAll front) (offset + byteLength front) = false := by
    simp only [covers, List.any_eq_false, Bool.and_eq_true, decide_eq_true_eq, not_and]
    intro span hspan _
    have hstop := stop_le_of_framed (framed_of_mem_findAll hspan)
    omega
  have hbody : covers ((findAll body).map (·.moved (byteLength front) (lineFeeds front)))
      (offset + byteLength front) = covers (findAll body) offset := by
    rw [covers, List.any_map, covers]
    refine List.any_congr rfl fun span => ?_
    simp only [Function.comp_apply, moved, Nat.add_le_add_iff_right, Nat.add_lt_add_iff_right]
  rw [h.findAll_append, covers, List.any_append]
  exact (congrArg (· || _) hfront).trans hbody

end CodeSpan

end WikiNotes
