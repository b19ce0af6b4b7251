import Mathlib.Algebra.GroupWithZero.Nat
import WikiNotes.Proofs.Note.Segment

/-! # Recovering the code of a document

A document is made of blocks, one to a line or more: fenced blocks of backticks and paragraphs of
plain text and code.  `documentSpans` is the code that is written, `findAll` the code that is found.
Each of the three passes over the text goes through all of it and what overlaps earlier code is
dropped only afterwards, so a pass may stumble over code that is not its own:

* the fences are always found (`mem_fencedBlocks`);
* double backtick code is found behind an even number of pairs of backticks in fences
  (`double_mem`), and not behind an odd one (`fencesPaired_of_findAll`);
* single backtick code is found in front of the double backtick code of its paragraph
  (`Segment.single_mem`), and not always behind it (`singlesFirst_of_findAll`).

`findAll_documentText_iff` puts them together. -/

namespace WikiNotes

open Text CodeSpan

/-- A block of a document. -/
inductive Block where
  /-- A fenced block of backticks with its width and the lines in it. -/
  | fence (width : Nat) (lines : List (List Char))
  /-- A line of text with code in it. -/
  | paragraph (segments : List Segment)
deriving DecidableEq

namespace Block

/-- A block as it is written, without the line feed behind it. -/
def text : Block → List Char
  | fence width lines => fenceText width lines
  | paragraph segments => segments.flatMap Segment.text

/-- A block with the line feed behind it. -/
def line (b : Block) : List Char := b.text ++ ['\n']

/-- No line in a fence closes it; a paragraph is not empty, and plain text separates its code. -/
def WellFormed : Block → Prop
  | fence width lines => 3 ≤ width ∧ ∀ line ∈ lines, '\n' ∉ line ∧ ¬ Closes width line
  | paragraph segments =>
    segments ≠ [] ∧ (∀ s ∈ segments, s.WellFormed) ∧ Segment.Separated segments

instance : DecidablePred WellFormed
  | fence .. => inferInstanceAs (Decidable (_ ∧ _))
  | paragraph _ => inferInstanceAs (Decidable (_ ∧ _ ∧ _))

/-- The code of a block that starts at a position. -/
def spans (p : Position) : Block → List CodeSpan
  | fence width lines => [Fence.span ⟨tick, width, p⟩ (p.advance (fenceText width lines))]
  | paragraph segments =>
    (places Segment.text p segments).flatMap fun place => place.2.spans place.1

/-- How many pairs of backticks the lines in a fence hold. -/
def fencedPairs : Block → Nat
  | fence _ lines => (lines.map fun line => (tickPairs .start line).length).sum
  | paragraph _ => 0

end Block

/-- The blocks of a document one line after the other. -/
def documentText (blocks : List Block) : List Char := ['\n'].intercalate (blocks.map Block.text)

/-- The code of a document: its fenced blocks and the code in its paragraphs. -/
def documentSpans (blocks : List Block) : List CodeSpan :=
  (places Block.line .start blocks).flatMap fun place => place.2.spans place.1

/-- Where a span starts and ends and whether it is a fenced block. -/
def byteRange (span : CodeSpan) : Nat × Nat × Bool := (span.start, span.stop, span.fenced)

/-- In no paragraph single backtick code stands behind double backtick code. -/
def SinglesFirst (blocks : List Block) : Prop :=
  ∀ segments, .paragraph segments ∈ blocks →
    segments.Pairwise fun s t => ¬ (s.isDouble = true ∧ t.isSingle = true)

/-- Ahead of every paragraph with double backtick code the fences hold an even number of pairs of
    backticks. -/
def FencesPaired (blocks : List Block) : Prop :=
  ∀ before segments behind, blocks = before ++ .paragraph segments :: behind →
    (∃ s ∈ segments, s.isDouble = true) → (before.map Block.fencedPairs).sum % 2 = 0

variable {blocks : List Block}

theorem byteRange_eq_iff {a b : CodeSpan} :
    byteRange a = byteRange b ↔ a.start = b.start ∧ a.stop = b.stop ∧ a.fenced = b.fenced := by
  rw [byteRange, byteRange, Prod.mk.injEq, Prod.mk.injEq]

/-! ### Blocks one after the other -/

theorem documentText_cons (b : Block) (hne : blocks ≠ []) :
    documentText (b :: blocks) = b.text ++ '\n' :: documentText blocks := by
  obtain ⟨c, blocks, rfl⟩ := List.exists_cons_of_ne_nil hne
  simp [documentText, List.intercalate]

theorem documentText_singleton (b : Block) : documentText [b] = b.text := by
  simp [documentText, List.intercalate]

/-- A pass over a text that treats each block on its own finds what it finds in the blocks. -/
theorem pass_documentText {α : Type} {pass : Position → List Char → List α}
    (hnil : ∀ p, pass p [] = [])
    (hline : ∀ b ∈ blocks, ∀ p rest, pass p (b.text ++ '\n' :: rest) =
      pass p b.text ++ pass ((p.advance b.text).next '\n') rest) (p : Position) :
    pass p (documentText blocks) =
      (places Block.line p blocks).flatMap fun place => pass place.1 place.2.text := by
  induction blocks generalizing p with
  | nil => exact hnil p
  | cons b blocks ih =>
    rw [List.forall_mem_cons] at hline
    rw [places, List.flatMap_cons]
    by_cases hblocks : blocks = []
    · subst hblocks
      rw [documentText_singleton]
      exact (List.append_nil _).symm
    · rw [documentText_cons b hblocks, hline.1, ih hline.2, Block.line, Position.advance_append,
        ← Position.next_eq_advance]

/-- What stands before a block and from it on. -/
theorem exists_documentText_append (before : List Block) (b : Block) (behind : List Block) :
    ∃ rest, documentText (before ++ b :: behind) =
      before.flatMap Block.line ++ (b.text ++ rest) := by
  induction before with
  | nil =>
    by_cases hbehind : behind = []
    · subst hbehind
      exact ⟨[], by simp [documentText_singleton]⟩
    · exact ⟨_, documentText_cons b hbehind⟩
  | cons c before ih =>
    obtain ⟨rest, hrest⟩ := ih
    refine ⟨rest, ?_⟩
    rw [List.cons_append, documentText_cons c (by simp), hrest, List.flatMap_cons, Block.line]
    simp

/-- What stands before a segment and from it on. -/
theorem exists_documentText_segment (before behind : List Block) (front : List Segment)
    (s : Segment) (back : List Segment) :
    ∃ rest, documentText (before ++ .paragraph (front ++ s :: back) :: behind) =
      (before.flatMap Block.line ++ front.flatMap Segment.text) ++ (s.text ++ rest) := by
  obtain ⟨rest, hrest⟩ := exists_documentText_append before (.paragraph (front ++ s :: back)) behind
  refine ⟨back.flatMap Segment.text ++ rest, ?_⟩
  simp [hrest, Block.text]

/-! ### What is written -/

theorem Block.pairwise_spans {b : Block} (h : b.WellFormed) (p : Position) :
    ((b.spans p).Pairwise fun a b => a.stop ≤ b.start) ∧
      ∀ span ∈ b.spans p, Within p b.text span := by
  cases b with
  | fence width lines =>
    refine ⟨List.pairwise_singleton .., fun span hspan => ?_⟩
    obtain rfl := List.mem_singleton.mp hspan
    have hne : fenceText width lines ≠ [] := by simp [fenceText]
    have hpos := byteLength_pos hne
    exact ⟨Nat.le_refl _, Nat.lt_add_of_pos_right hpos, Nat.le_refl _⟩
  | paragraph segments =>
    exact pairwise_flatMap_places (fun s hs => Segment.pairwise_spans (h.2.1 s hs)) p

theorem pairwise_documentSpans (h : ∀ b ∈ blocks, b.WellFormed) :
    ((documentSpans blocks).Pairwise fun a b => a.stop ≤ b.start) ∧
      ∀ span ∈ documentSpans blocks, span.start < span.stop := by
  have hline : ∀ b ∈ blocks, ∀ p, ((b.spans p).Pairwise fun a b => a.stop ≤ b.start) ∧
      ∀ span ∈ b.spans p, Within p b.line span := by
    intro b hb p
    obtain ⟨hpairwise, hwithin⟩ := Block.pairwise_spans (h b hb) p
    refine ⟨hpairwise, fun span hspan => ?_⟩
    have hin := hwithin span hspan
    rw [Within] at hin ⊢
    rw [Block.line, byteLength_append]
    omega
  obtain ⟨hpairwise, hwithin⟩ := pairwise_flatMap_places hline .start
  exact ⟨hpairwise, fun span hspan => (hwithin span hspan).2.1⟩

/-- Different spans of a document lie apart. -/
theorem apart_of_mem_documentSpans (h : ∀ b ∈ blocks, b.WellFormed) {a b : CodeSpan}
    (ha : a ∈ documentSpans blocks) (hb : b ∈ documentSpans blocks) (hne : a ≠ b) : Apart a b := by
  have : Std.Symm Apart := ⟨fun _ _ => Or.symm⟩
  have hpairwise : (documentSpans blocks).Pairwise Apart := (pairwise_documentSpans h).1.imp Or.inl
  exact hpairwise.forall ha hb hne

theorem mem_documentSpans {span : CodeSpan} :
    span ∈ documentSpans blocks ↔
      ∃ place ∈ places Block.line .start blocks, span ∈ place.2.spans place.1 :=
  List.mem_flatMap

/-! ### The passes over a document -/

/-- A block on its own has its fence as fenced block. -/
theorem Block.fencedIn_text {b : Block} (h : b.WellFormed) (p : Position) :
    fencedIn p b.text = (b.spans p).filter CodeSpan.fenced := by
  cases b with
  | fence width lines =>
    rw [text, fencedIn_fence h.1 h.2]
    rfl
  | paragraph segments =>
    obtain ⟨hne, hwf, -⟩ := h
    have hinline : ∀ span ∈ (paragraph segments).spans p, ¬ span.fenced = true := by
      intro span hspan
      obtain ⟨place, -, hspan⟩ := List.mem_flatMap.mp hspan
      obtain ⟨-, rfl⟩ := Segment.mem_spans.mp hspan
      exact Bool.false_ne_true
    rw [List.filter_eq_nil_iff.mpr hinline]
    exact fencedIn_last (Segment.not_mem_row_lineFeed hwf) (Segment.row_ne_nil hwf hne)
      (Segment.not_opens_row hwf hne) p

/-- A block leaves no fence open for what follows it. -/
theorem Block.fencedIn_text_append {b : Block} (h : b.WellFormed) (p : Position)
    (rest : List Char) :
    fencedIn p (b.text ++ '\n' :: rest) =
      fencedIn p b.text ++ fencedIn ((p.advance b.text).next '\n') rest := by
  cases b with
  | fence width lines =>
    rw [text, fencedIn_fence_line h.1 h.2, fencedIn_fence h.1 h.2]
    rfl
  | paragraph segments =>
    obtain ⟨hne, hwf, -⟩ := h
    have hbreak := Segment.not_mem_row_lineFeed hwf
    have hopens := Segment.not_opens_row hwf hne
    have hrow := Segment.row_ne_nil hwf hne
    rw [text, fencedIn_line hbreak hopens, fencedIn_last hbreak hrow hopens]
    rfl

/-- The fenced blocks of a document are its fences. -/
theorem mem_fencedBlocks (h : ∀ b ∈ blocks, b.WellFormed) {span : CodeSpan} :
    span ∈ fencedBlocks (documentText blocks) ↔
      span ∈ documentSpans blocks ∧ span.fenced = true := by
  have hpass := pass_documentText (fun _ => rfl)
    (fun b hb p rest => Block.fencedIn_text_append (h b hb) p rest) .start
  have hfenced : fencedBlocks (documentText blocks) = fencedIn .start (documentText blocks) := rfl
  rw [hfenced, hpass, List.mem_flatMap, mem_documentSpans, ← exists_and_right]
  refine exists_congr fun place => ?_
  rw [and_assoc]
  refine and_congr_right fun hplace => ?_
  rw [Block.fencedIn_text (h _ (mem_of_mem_places hplace)), List.mem_filter]

/-- Inline code lies apart from the fences. -/
theorem apart_fences (h : ∀ b ∈ blocks, b.WellFormed) {span : CodeSpan}
    (hspan : span ∈ documentSpans blocks) (hinline : span.fenced = false) :
    ∀ fence ∈ fencedBlocks (documentText blocks), Apart span fence := by
  intro fence hfence
  obtain ⟨hfence, hfenced⟩ := (mem_fencedBlocks h).mp hfence
  refine apart_of_mem_documentSpans h hspan hfence ?_
  rintro rfl
  exact Bool.false_ne_true (hinline.symm.trans hfenced)

/-- The single backtick code that is found is that of the blocks on their own. -/
theorem mem_singles {f : Found Unit} :
    f ∈ findAllFrom singleSpan? 0 .start (documentText blocks) ↔
      ∃ place ∈ places Block.line .start blocks,
        f ∈ findAllFrom singleSpan? 0 place.1 place.2.text := by
  rw [pass_documentText (fun _ => rfl) fun b _ p rest => findAllFrom_singleSpan?_line p b.text rest,
    List.mem_flatMap]

theorem tickPairs_document (p : Position) :
    tickPairs p (documentText blocks) =
      (places Block.line p blocks).flatMap fun place => tickPairs place.1 place.2.text :=
  pass_documentText (fun _ => rfl) (fun b _ p rest => tickPairs_append_line p b.text rest) p

theorem length_tickPairs_lines (p : Position) (lines : List (List Char)) (rest : List Char) :
    (tickPairs p (lines.flatMap (· ++ ['\n']) ++ rest)).length =
      (lines.map fun line => (tickPairs .start line).length).sum +
        (tickPairs .start rest).length := by
  induction lines generalizing p with
  | nil =>
    rw [List.flatMap_nil, List.nil_append, List.map_nil, List.sum_nil, Nat.zero_add,
      length_tickPairs]
  | cons line lines ih =>
    rw [List.flatMap_cons, List.append_assoc, List.append_assoc, List.singleton_append,
      tickPairs_append_line, List.length_append, ih, List.map_cons, List.sum_cons, Nat.add_assoc,
      length_tickPairs p .start]

/-- The pairs of backticks in a block are even in number if those in the lines of its fence are. -/
theorem Block.length_tickPairs {b : Block} (h : b.WellFormed) (p : Position) :
    (tickPairs p b.text).length % 2 = b.fencedPairs % 2 := by
  cases b with
  | fence width lines =>
    -- The fence counts twice.
    rw [text, fenceText, tickPairs_append_line, List.length_append, length_tickPairs_lines,
      CodeSpan.length_tickPairs p .start, fencedPairs]
    omega
  | paragraph segments => exact Segment.length_tickPairs_row h.2.1 h.2.2 p

theorem length_tickPairs_places (h : ∀ b ∈ blocks, b.WellFormed) (p : Position) :
    ((places Block.line p blocks).flatMap fun place =>
      tickPairs place.1 place.2.text).length % 2 = (blocks.map Block.fencedPairs).sum % 2 := by
  induction blocks generalizing p with
  | nil => rfl
  | cons b blocks ih =>
    rw [List.forall_mem_cons] at h
    have hhead := Block.length_tickPairs h.1 p
    have htail := ih h.2 (p.advance b.line)
    rw [places, List.flatMap_cons, List.length_append, List.map_cons, List.sum_cons]
    dsimp only
    omega

/-- The pairs of backticks of a document are those ahead of a block, those in it and those behind
    it. -/
theorem exists_tickPairs_append {before : List Block} (h : ∀ b ∈ before, b.WellFormed) (b : Block)
    (behind : List Block) :
    ∃ xs ys, tickPairs .start (documentText (before ++ b :: behind)) =
        xs ++ (tickPairs (Position.start.advance (before.flatMap Block.line)) b.text ++ ys) ∧
      xs.length % 2 = (before.map Block.fencedPairs).sum % 2 := by
  rw [tickPairs_document, places_append, List.flatMap_append, places, List.flatMap_cons]
  exact ⟨_, _, rfl, length_tickPairs_places h .start⟩

/-! ### Double backtick code of a document -/

theorem mem_doubles {cs : List Char} {span : CodeSpan} :
    span ∈ inlineCode doubleSpan? cs ↔ ∃ f ∈ pairUp (tickPairs .start cs), ofFound f = span := by
  rw [inlineCode, Text.findAll, findAllFrom_doubleSpan?, List.mem_map]

/-- Behind an even number of pairs of backticks a paragraph has its own double backtick code. -/
theorem exists_pairUp_append (h : ∀ b ∈ blocks, b.WellFormed) (hpaired : FencesPaired blocks)
    {p : Position} {segments : List Segment}
    (hblock : (p, .paragraph segments) ∈ places Block.line .start blocks)
    (hdouble : ∃ s ∈ segments, s.isDouble = true) :
    ∃ xs ys, tickPairs .start (documentText blocks) =
        xs ++ (tickPairs p (segments.flatMap Segment.text) ++ ys) ∧
      pairUp (tickPairs .start (documentText blocks)) =
        pairUp xs ++ (pairUp (tickPairs p (segments.flatMap Segment.text)) ++ pairUp ys) := by
  obtain ⟨before, behind, rfl, rfl⟩ := mem_places.mp hblock
  obtain ⟨-, hwf, hsep⟩ := h (.paragraph segments) (by simp)
  obtain ⟨xs, ys, hpairs, hxs⟩ := exists_tickPairs_append
    (fun b hb => h b (List.mem_append_left _ hb)) (.paragraph segments) behind
  have heven := hxs.trans (hpaired before segments behind rfl hdouble)
  have hsegments := Segment.length_tickPairs_row hwf hsep
    (Position.start.advance (before.flatMap Block.line))
  rw [Block.text] at hpairs
  refine ⟨xs, ys, hpairs, ?_⟩
  rw [hpairs, pairUp_append heven, pairUp_append hsegments]

/-- Double backtick code behind an even number of pairs of backticks is found. -/
theorem double_mem (h : ∀ b ∈ blocks, b.WellFormed) (hpaired : FencesPaired blocks)
    {p q : Position} {segments : List Segment} {s : Segment}
    (hblock : (p, .paragraph segments) ∈ places Block.line .start blocks)
    (hs : (q, s) ∈ places Segment.text p segments) (hdouble : s.isDouble = true) :
    ofFound (s.found q) ∈ inlineCode doubleSpan? (documentText blocks) := by
  obtain ⟨-, hwf, hsep⟩ := h _ (mem_of_mem_places hblock)
  obtain ⟨xs, ys, -, hcut⟩ :=
    exists_pairUp_append h hpaired hblock ⟨s, mem_of_mem_places hs, hdouble⟩
  have hfound := (Segment.mem_pairUp_row hwf hsep).mpr ⟨_, hs, hdouble, rfl⟩
  rw [mem_doubles, hcut]
  exact ⟨_, List.mem_append_right _ (List.mem_append_left _ hfound), rfl⟩

/-- Something that starts in a fence does not lie apart from all fences. -/
theorem not_apart_fences (h : ∀ b ∈ blocks, b.WellFormed) {p : Position} {width : Nat}
    {lines : List (List Char)} {span : CodeSpan} (hstart : p.offset ≤ span.start)
    (hstop : span.start < p.offset + byteLength (Block.fence width lines).text)
    (hnonempty : span.start < span.stop)
    (hblock : (p, .fence width lines) ∈ places Block.line .start blocks) :
    ¬ ∀ fence ∈ fencedBlocks (documentText blocks), Apart span fence := by
  intro hapart
  have hfence : Fence.span ⟨tick, width, p⟩ (p.advance (fenceText width lines)) ∈
      documentSpans blocks := mem_documentSpans.mpr ⟨_, hblock, List.mem_cons_self ..⟩
  rcases hapart _ ((mem_fencedBlocks h).mpr ⟨hfence, rfl⟩) with hapart | hapart
  · exact absurd hapart (Nat.not_le.mpr (Nat.lt_of_le_of_lt hstart hnonempty))
  · exact absurd hapart (Nat.not_le.mpr hstop)

/-- Double backtick code that is found outside the fences is that of a paragraph. -/
theorem mem_documentSpans_of_double (h : ∀ b ∈ blocks, b.WellFormed)
    (hpaired : FencesPaired blocks) {span : CodeSpan}
    (hspan : span ∈ inlineCode doubleSpan? (documentText blocks))
    (hfences : ∀ fence ∈ fencedBlocks (documentText blocks), Apart span fence) :
    span ∈ documentSpans blocks := by
  have hnonempty := start_lt_stop_of_mem_inlineCode proper_doubleSpan? hspan
  obtain ⟨f, hf, rfl⟩ := mem_doubles.mp hspan
  have hstart := start_mem_of_mem_pairUp hf
  rw [tickPairs_document, List.mem_flatMap] at hstart
  obtain ⟨⟨p, b⟩, hblock, hstart⟩ := hstart
  cases b with
  | fence width lines =>
    obtain ⟨hle, hlt⟩ := (pairwise_tickPairs p _).2 _ hstart
    exact absurd hfences (not_apart_fences h hle hlt hnonempty hblock)
  | paragraph segments =>
    obtain ⟨-, hwf, hsep⟩ := h _ (mem_of_mem_places hblock)
    replace hstart : f.start ∈ tickPairs p (segments.flatMap Segment.text) := hstart
    obtain ⟨xs, ys, hpairs, hcut⟩ :=
      exists_pairUp_append h hpaired hblock (Segment.exists_double hwf hsep hstart)
    -- What starts in the paragraph is neither ahead of it nor behind it.
    have hpairwise := (pairwise_tickPairs .start (documentText blocks)).1
    rw [hpairs, List.pairwise_append, List.pairwise_append] at hpairwise
    obtain ⟨-, ⟨-, -, hbehind⟩, hahead⟩ := hpairwise
    rw [hcut, List.mem_append, List.mem_append] at hf
    rcases hf with hf | hf | hf
    · have hlt := hahead _ (start_mem_of_mem_pairUp hf) _ (List.mem_append_left _ hstart)
      exact absurd hlt (Nat.lt_irrefl _)
    · obtain ⟨place, hs, hdouble, rfl⟩ := (Segment.mem_pairUp_row hwf hsep).mp hf
      refine mem_documentSpans.mpr ⟨_, hblock, List.mem_flatMap.mpr ⟨place, hs, ?_⟩⟩
      exact Segment.mem_spans.mpr ⟨Segment.isCode_iff.mpr (.inr hdouble), rfl⟩
    · have hlt := hbehind _ hstart _ (start_mem_of_mem_pairUp hf)
      exact absurd hlt (Nat.lt_irrefl _)

/-! ### Single backtick code of a document -/

/-- Single backtick code is looked for where a backtick stands. -/
theorem exists_tick_of_mem {p : Position} {cs : List Char} {f : Found Unit}
    (h : f ∈ findAllFrom singleSpan? 0 p cs) :
    ∃ a rest, cs = a ++ tick :: rest ∧ f.start = p.advance a := by
  obtain ⟨a, m, b, rfl, -, hmatch, hstart, -⟩ := proper_singleSpan?.exists_of_mem h
  obtain ⟨code, rest, hcs, -⟩ := singleSpan?_eq_some_iff.mp hmatch
  exact ⟨a, _, by rw [List.append_assoc, hcs], hstart⟩

/-- Single backtick code that is found outside the fences and the double backtick code is that of a
    paragraph. -/
theorem mem_documentSpans_of_single (h : ∀ b ∈ blocks, b.WellFormed) (hfirst : SinglesFirst blocks)
    (hpaired : FencesPaired blocks) {span : CodeSpan}
    (hspan : span ∈ inlineCode singleSpan? (documentText blocks))
    (hfences : ∀ fence ∈ fencedBlocks (documentText blocks), Apart span fence)
    (hdoubles : ∀ code ∈ inlineCode doubleSpan? (documentText blocks),
      (∀ fence ∈ fencedBlocks (documentText blocks), Apart code fence) → Apart span code) :
    span ∈ documentSpans blocks := by
  have hnonempty := start_lt_stop_of_mem_inlineCode proper_singleSpan? hspan
  obtain ⟨f, hf, rfl⟩ := List.mem_map.mp hspan
  obtain ⟨⟨p, b⟩, hblock, hf⟩ := mem_singles.mp hf
  cases b with
  | fence width lines =>
    obtain ⟨hstart, hlt, hstop⟩ := proper_singleSpan?.within hf
    exact absurd hfences
      (not_apart_fences h hstart (Nat.lt_of_lt_of_le hlt hstop) hnonempty hblock)
  | paragraph segments =>
    obtain ⟨-, hwf, hsep⟩ := h _ (mem_of_mem_places hblock)
    obtain ⟨a, rest, hrow, hstart⟩ := exists_tick_of_mem hf
    obtain ⟨⟨q, s⟩, hs, hcode, hle, hlt⟩ := Segment.exists_code_of_tick hwf p hrow
    rw [← hstart] at hle hlt
    have hmem : ofFound (s.found q) ∈ documentSpans blocks :=
      mem_documentSpans.mpr ⟨_, hblock,
        List.mem_flatMap.mpr ⟨_, hs, Segment.mem_spans.mpr ⟨hcode, rfl⟩⟩⟩
    rcases Segment.isCode_iff.mp hcode with hsingle | hdouble
    · -- It starts in single backtick code, which is found itself.
      have hfound := Segment.single_mem hwf (hfirst segments (mem_of_mem_places hblock)) hs hsingle
      obtain rfl := proper_singleSpan?.eq_of_overlap hf hfound hlt
        (Nat.lt_of_le_of_lt hle hnonempty)
      exact hmem
    · have hcode := double_mem h hpaired hblock hs hdouble
      rcases hdoubles _ hcode (apart_fences h hmem rfl) with hapart | hapart
      · exact absurd hapart (Nat.not_le.mpr (Nat.lt_of_le_of_lt hle hnonempty))
      · exact absurd hapart (Nat.not_le.mpr hlt)

/-! ### The code of a document -/

/-- The code of a block is found. -/
theorem mem_findAll_of_mem_documentSpans (h : ∀ b ∈ blocks, b.WellFormed)
    (hfirst : SinglesFirst blocks) (hpaired : FencesPaired blocks) {span : CodeSpan}
    (hspan : span ∈ documentSpans blocks) : span ∈ findAll (documentText blocks) := by
  rw [mem_findAll]
  by_cases hfenced : span.fenced = true
  · exact .inl ((mem_fencedBlocks h).mpr ⟨hspan, hfenced⟩)
  · have hfences := apart_fences h hspan (Bool.eq_false_iff.mpr hfenced)
    by_cases hdouble : span ∈ inlineCode doubleSpan? (documentText blocks)
    · exact .inr (.inl ⟨hdouble, hfences⟩)
    · refine .inr (.inr ⟨?_, hfences, fun code hcode hapart => ?_⟩)
      · obtain ⟨⟨p, b⟩, hblock, hinblock⟩ := mem_documentSpans.mp hspan
        cases b with
        | fence width lines =>
          obtain rfl := List.mem_singleton.mp hinblock
          exact absurd rfl hfenced
        | paragraph segments =>
          obtain ⟨-, hwf, -⟩ := h _ (mem_of_mem_places hblock)
          obtain ⟨⟨q, s⟩, hs, hinsegment⟩ := List.mem_flatMap.mp hinblock
          obtain ⟨hcode, rfl⟩ := Segment.mem_spans.mp hinsegment
          rcases Segment.isCode_iff.mp hcode with hsingle | hdouble'
          · have hfound :=
              Segment.single_mem hwf (hfirst segments (mem_of_mem_places hblock)) hs hsingle
            exact List.mem_map_of_mem (mem_singles.mpr ⟨_, hblock, hfound⟩)
          · exact absurd (double_mem h hpaired hblock hs hdouble') hdouble
      · -- The double backtick code that was kept is code of the document, and none of it is this.
        have hcode' := mem_documentSpans_of_double h hpaired hcode hapart
        refine apart_of_mem_documentSpans h hspan hcode' ?_
        rintro rfl
        exact hdouble hcode

/-- The code that is found is the code that is written. -/
theorem findAll_documentText (h : ∀ b ∈ blocks, b.WellFormed)
    (hfirst : SinglesFirst blocks) (hpaired : FencesPaired blocks) :
    findAll (documentText blocks) = documentSpans blocks := by
  have hmem (span : CodeSpan) :
      span ∈ findAll (documentText blocks) ↔ span ∈ documentSpans blocks := by
    refine ⟨fun hspan => ?_, mem_findAll_of_mem_documentSpans h hfirst hpaired⟩
    rcases mem_findAll.mp hspan with hfence | ⟨hdouble, hfences⟩ | ⟨hsingle, hfences, hdoubles⟩
    · exact ((mem_fencedBlocks h).mp hfence).1
    · exact mem_documentSpans_of_double h hpaired hdouble hfences
    · exact mem_documentSpans_of_single h hfirst hpaired hsingle hfences hdoubles
  exact eq_of_mem_iff (pairwise_findAll _) (fun _ => start_lt_stop) (pairwise_documentSpans h).1
    (pairwise_documentSpans h).2 hmem

/-! ### Where code is missed -/

/-- A segment of code is code of the document. -/
theorem mem_documentSpans_segment {p q : Position} {segments : List Segment} {s : Segment}
    (hblock : (p, .paragraph segments) ∈ places Block.line .start blocks)
    (hs : (q, s) ∈ places Segment.text p segments) (hcode : s.isCode = true) :
    ofFound (s.found q) ∈ documentSpans blocks :=
  mem_documentSpans.mpr ⟨_, hblock,
    List.mem_flatMap.mpr ⟨_, hs, Segment.mem_spans.mpr ⟨hcode, rfl⟩⟩⟩

/-- Inline code that is found is found by one of the two patterns. -/
theorem exists_found_of_mem (h : ∀ b ∈ blocks, b.WellFormed) {f : Found Unit}
    (hf : byteRange (ofFound f) ∈ (findAll (documentText blocks)).map byteRange) :
    (∃ g ∈ findAllFrom doubleSpan? 0 .start (documentText blocks),
        g.start.offset = f.start.offset) ∨
      ∃ g ∈ findAllFrom singleSpan? 0 .start (documentText blocks),
        g.start.offset = f.start.offset := by
  obtain ⟨span, hspan, hrange⟩ := List.mem_map.mp hf
  obtain ⟨hstart, -, hfenced⟩ := byteRange_eq_iff.mp hrange
  rcases mem_findAll.mp hspan with hfence | ⟨hdouble, -⟩ | ⟨hsingle, -⟩
  · exact nomatch hfenced.symm.trans ((mem_fencedBlocks h).mp hfence).2
  · obtain ⟨g, hg, rfl⟩ := List.mem_map.mp hdouble
    exact .inl ⟨g, hg, hstart⟩
  · obtain ⟨g, hg, rfl⟩ := List.mem_map.mp hsingle
    exact .inr ⟨g, hg, hstart⟩

/-- Single backtick code behind double backtick code is missed. -/
theorem singlesFirst_of_findAll (h : ∀ b ∈ blocks, b.WellFormed)
    (hall : ∀ span ∈ documentSpans blocks,
      byteRange span ∈ (findAll (documentText blocks)).map byteRange) :
    SinglesFirst blocks := by
  intro segments hsegments
  by_contra hnot
  obtain ⟨front, code, between, code', back, rfl, hplain⟩ :=
    Segment.exists_single_behind_double hnot
  obtain ⟨before, behind, rfl⟩ := List.append_of_mem hsegments
  obtain ⟨-, hwf, hsep⟩ := h _ hsegments
  obtain ⟨front', hfront'⟩ : ∃ front', front' = front ++ .double code :: between := ⟨_, rfl⟩
  rw [← hfront'] at hwf hsep hall h
  have hbetween : ∀ s ∈ between, s.WellFormed := fun s hs => hwf s (by simp [hfront', hs])
  have hne : between ≠ [] := by
    rintro rfl
    rw [hfront', List.append_assoc, List.singleton_append] at hsep
    exact Segment.not_separated rfl rfl front back hsep
  have hmem := hall _ (mem_documentSpans_segment (mem_places_append ..)
    (mem_places_append Segment.text _ front' (.single code') back) rfl)
  obtain ⟨rest, hrest⟩ := exists_documentText_segment before behind front' (.single code') back
  rcases exists_found_of_mem h hmem with ⟨g, hg, hstart⟩ | ⟨g, hg, hstart⟩
  · -- It has only one backtick at its start.
    rw [hrest] at hg
    rw [Segment.found, ← Position.advance_append] at hstart
    obtain ⟨found, hmatch⟩ := proper_doubleSpan?.match_of_start hg hstart
    rw [Segment.doubleSpan?_single (hwf _ (by simp))] at hmatch
    exact nomatch hmatch
  · have hcut : documentText (before ++ .paragraph (front' ++ .single code' :: back) :: behind) =
        before.flatMap Block.line ++ front.flatMap Segment.text ++ (Segment.double code).text ++
          between.flatMap Segment.text ++ tick :: (code' ++ tick :: rest) := by
      rw [hrest, hfront']
      simp [Segment.text]
    have hahead : before.flatMap Block.line ++ front'.flatMap Segment.text =
        before.flatMap Block.line ++ front.flatMap Segment.text ++ (Segment.double code).text ++
          between.flatMap Segment.text := by
      simp [hfront']
    rw [hcut] at hg
    rw [Segment.found, ← Position.advance_append, hahead] at hstart
    exact Segment.single_not_mem_behind_double (Segment.row_ne_nil hbetween hne)
      (Segment.not_mem_row_tick hbetween hplain) (Segment.not_mem_row_lineFeed hbetween) .start hg
      hstart

/-- Double backtick code behind an odd number of pairs of backticks is missed. -/
theorem fencesPaired_of_findAll (h : ∀ b ∈ blocks, b.WellFormed)
    (hall : ∀ span ∈ documentSpans blocks,
      byteRange span ∈ (findAll (documentText blocks)).map byteRange) :
    FencesPaired blocks := by
  rintro before segments behind rfl ⟨s, hs, hdouble⟩
  by_contra hodd
  obtain ⟨front, back, rfl⟩ := List.append_of_mem hs
  cases s with
  | plain cs => exact nomatch hdouble
  | single code => exact nomatch hdouble
  | double code =>
    obtain ⟨-, hwf, hsep⟩ := h (.paragraph (front ++ .double code :: back)) (by simp)
    have hmem := hall _ (mem_documentSpans_segment (mem_places_append ..)
      (mem_places_append Segment.text _ front (.double code) back) rfl)
    rcases exists_found_of_mem h hmem with ⟨g, hg, hstart⟩ | ⟨g, hg, hstart⟩
    · obtain ⟨xs, ys, hpairs, hxs⟩ := exists_tickPairs_append
        (fun b hb => h b (List.mem_append_left _ hb)) (.paragraph (front ++ .double code :: back))
        behind
      obtain ⟨xs', ys', hpairs', hxs'⟩ := Segment.exists_tickPairs_row_append hwf hsep
        (Position.start.advance (before.flatMap Block.line))
      have hcut := hpairs
      rw [Block.text, hpairs', List.append_assoc, ← List.append_assoc xs, List.cons_append] at hcut
      -- The position of the double backtick code has others ahead of it and behind it.
      have hpairwise := (pairwise_tickPairs .start
        (documentText (before ++ .paragraph (front ++ .double code :: back) :: behind))).1
      rw [hcut, List.pairwise_append, List.pairwise_cons] at hpairwise
      obtain ⟨-, ⟨hbehind, -⟩, hahead⟩ := hpairwise
      rw [findAllFrom_doubleSpan?, hcut] at hg
      have hoddLength : (xs ++ xs').length % 2 = 1 := by
        rw [List.length_append]
        omega
      rcases start_mem_of_odd hoddLength hg with hstart' | hstart'
      · have hlt := hahead _ hstart' _ (List.mem_cons_self ..)
        exact absurd hstart (Nat.ne_of_lt hlt)
      · have hlt := hbehind _ hstart'
        exact absurd hstart (Nat.ne_of_gt hlt)
    · -- Between its first two backticks there is no code.
      obtain ⟨rest, hrest⟩ := exists_documentText_segment before behind front (.double code) back
      rw [hrest] at hg
      rw [Segment.found, ← Position.advance_append] at hstart
      obtain ⟨found, hmatch⟩ := proper_singleSpan?.match_of_start hg hstart
      rw [Segment.singleSpan?_double] at hmatch
      exact nomatch hmatch

/-- The byte ranges of the code of a document of well-formed blocks are found exactly if in no
    paragraph single backtick code stands behind double backtick code and if ahead of each paragraph
    with double backtick code the fences hold an even number of pairs of backticks. -/
theorem findAll_documentText_iff (h : ∀ b ∈ blocks, b.WellFormed) :
    (findAll (documentText blocks)).map byteRange = (documentSpans blocks).map byteRange ↔
      SinglesFirst blocks ∧ FencesPaired blocks := by
  constructor
  · intro heq
    have hall : ∀ span ∈ documentSpans blocks,
        byteRange span ∈ (findAll (documentText blocks)).map byteRange :=
      fun span hspan => heq ▸ List.mem_map_of_mem hspan
    exact ⟨singlesFirst_of_findAll h hall, fencesPaired_of_findAll h hall⟩
  · rintro ⟨hfirst, hpaired⟩
    rw [findAll_documentText h hfirst hpaired]

/-- A fence with two pairs of backticks in it, and behind it both kinds of code. -/
theorem findAll_documentText_iff_fence :
    (∀ b ∈ [Block.fence 3 [[tick, tick], ['x', tick, tick]],
        .paragraph [.single ['x'], .plain [' '], .double ['y']]], b.WellFormed) ∧
      SinglesFirst [.fence 3 [[tick, tick], ['x', tick, tick]],
        .paragraph [.single ['x'], .plain [' '], .double ['y']]] ∧
      FencesPaired [.fence 3 [[tick, tick], ['x', tick, tick]],
        .paragraph [.single ['x'], .plain [' '], .double ['y']]] :=
  ⟨by decide +kernel, (findAll_documentText_iff (by decide +kernel)).mp (by decide +kernel)⟩

/-- With one pair of backticks less in the fence only a part of the code behind it is found. -/
example : (findAll (documentText [.fence 3 [['x', tick, tick]], .paragraph [.double ['y']]])).map
    byteRange = [(0, 11, true), (13, 16, false)] := by decide +kernel

/-- The match that starts at the last backtick of the double backtick code ends at the first one of
    the single backtick code, which is not found for that reason. -/
theorem findAll_misses_single :
    ∃ blocks : List Block, (∀ b ∈ blocks, b.WellFormed) ∧
      documentText blocks = "``y`` b `c`".toList ∧
      (findAll (documentText blocks)).map byteRange ≠ (documentSpans blocks).map byteRange :=
  ⟨[.paragraph [.double ['y'], .plain [' ', 'b', ' '], .single ['c']]], by decide +kernel,
    by decide +kernel, by decide +kernel⟩

end WikiNotes
