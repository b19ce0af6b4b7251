import WikiNotes.Proofs.Note.FrontMatter
import WikiNotes.Proofs.Note.Line

/-! # Front matter line by line

A text has front matter if its first line is a delimiter and a later one closes it
(`FrontMatter.HasFrontMatter`).  The delimiters are sought among the characters, behind line feeds;
among the lines that is the first one that closes (`FrontMatter.afterDelimiter?_eq`,
`FrontMatter.closed?_of_lines`).  So the parts of a text, its delimiters with them, are the text
(`FrontMatter.split_exact`). -/

namespace WikiNotes.FrontMatter

open Text

/-! ### Lines that close -/

/-- A line that closes front matter: three hyphens, and a line end unless the text ends there. -/
def IsClosingLine (line : List Char) : Prop := line = "---".toList ∨ IsDelimiterLine line

instance : DecidablePred IsClosingLine := fun _ =>
  inferInstanceAs (Decidable (_ ∨ _ ∨ _))

variable {cs line rest opening closing : List Char} {between after : List (List Char)}

/-- A delimiter line is one line of a text. -/
theorem IsDelimiterLine.splitLines_append (h : IsDelimiterLine line) (rest : List Char) :
    splitLines (line ++ rest) = line :: splitLines rest := by
  have hline : splitLines line = [line] := by
    rcases h with rfl | rfl <;> rfl
  rw [h.endsLine.splitLines_append, hline, List.singleton_append]

/-- A delimiter at the head of a text is a first line that closes. -/
theorem afterDelimiter?_eq_some_iff :
    afterDelimiter? cs = some rest ↔
      ∃ line, IsClosingLine line ∧ splitLines cs = line :: splitLines rest := by
  constructor
  · intro h
    rcases afterDelimiter?_sound h with ⟨line, hline, rfl⟩ | ⟨rfl, rfl⟩
    · exact ⟨line, .inr hline, hline.splitLines_append rest⟩
    · exact ⟨"---".toList, .inl rfl, rfl⟩
  · rintro ⟨line, hline, hlines⟩
    have hcs : cs = line ++ rest := by
      have hflatten := congrArg List.flatten hlines
      rwa [List.flatten_cons, CodeSpan.splitLines_flatten, CodeSpan.splitLines_flatten] at hflatten
    rcases hline with rfl | hline
    · obtain ⟨rest', hcs', hrest', hended⟩ := exists_of_splitLines_cons hlines
      obtain rfl : rest = rest' := List.append_cancel_left (hcs.symm.trans hcs')
      rcases hended with rfl | ⟨text, -, htext⟩
      · rw [hcs]
        rfl
      · have hmem : '\n' ∈ "---".toList := by rw [htext]; simp
        exact absurd hmem (by decide)
    · rw [hcs, afterDelimiter?_complete hline]

/-- Whether a delimiter is at the head of a text is a matter of its first line. -/
theorem afterDelimiter?_of_lines {lines : List (List Char)} (h : splitLines cs = line :: lines) :
    afterDelimiter? cs = if IsClosingLine line then some lines.flatten else none := by
  split
  case isTrue hline =>
    obtain ⟨rest, -, hrest, -⟩ := exists_of_splitLines_cons h
    have hbody : lines.flatten = rest := by rw [← hrest, CodeSpan.splitLines_flatten]
    exact afterDelimiter?_eq_some_iff.mpr ⟨line, hline, by rw [hbody, hrest, h]⟩
  case isFalse hline =>
    rw [Option.eq_none_iff_forall_ne_some]
    intro rest hrest
    obtain ⟨closing, hclosing, hlines⟩ := afterDelimiter?_eq_some_iff.mp hrest
    rw [h] at hlines
    exact hline ((List.cons.inj hlines).1 ▸ hclosing)

/-- Behind the first line the closing delimiter is sought as if the text began there. -/
theorem splitClosing?_line (hline : '\n' ∉ line) (rest : List Char) :
    splitClosing? (line ++ '\n' :: rest) =
      match afterDelimiter? rest with
      | some body => some (line, body)
      | none => (splitClosing? rest).map fun (block, body) => (line ++ '\n' :: block, body) := by
  induction line with
  | nil => rfl
  | cons c line ih =>
    obtain ⟨hc, hline⟩ := not_or.mp (List.mem_cons.not.mp hline)
    rw [List.cons_append, splitClosing?, if_neg (Ne.symm hc), ih hline]
    cases afterDelimiter? rest with
    | some body => rfl
    | none => cases splitClosing? rest <;> rfl

theorem splitClosing?_last (hline : '\n' ∉ line) : splitClosing? line = none := by
  induction line with
  | nil => rfl
  | cons c line ih =>
    obtain ⟨hc, hline⟩ := not_or.mp (List.mem_cons.not.mp hline)
    rw [splitClosing?, if_neg (Ne.symm hc), ih hline]
    rfl

/-- The line feed that separates a block from its closing delimiter. -/
def separator (between : List (List Char)) : List Char := if between = [] then [] else ['\n']

/-- The closing delimiter is on the first line that closes. -/
theorem closed?_of_lines (hlines : splitLines cs = between ++ closing :: after)
    (hclosing : IsClosingLine closing) (hbetween : ∀ line ∈ between, ¬ IsClosingLine line) :
    ∃ block, closed? cs = some (block, after.flatten) ∧
      block ++ separator between = between.flatten := by
  induction between generalizing cs with
  | nil =>
    rw [closed?, afterDelimiter?_of_lines hlines, if_pos hclosing]
    exact ⟨[], rfl, rfl⟩
  | cons first between ih =>
    obtain ⟨hfirst, hmore⟩ := List.forall_mem_cons.mp hbetween
    obtain ⟨rest, rfl, hrest, rfl | ⟨text, hbreak, rfl⟩⟩ := exists_of_splitLines_cons hlines
    · exact absurd hrest (by simp [splitLines])
    · obtain ⟨block, hblock, hcut⟩ := ih hrest hmore
      rw [closed?, afterDelimiter?_of_lines hlines, if_neg hfirst, List.append_assoc,
        List.singleton_append]
      simp only [splitClosing?_line hbreak]
      -- The block is the first line alone if the next one closes.
      cases between with
      | nil =>
        rw [afterDelimiter?_of_lines hrest, if_pos hclosing]
        exact ⟨text, rfl, by simp [separator]⟩
      | cons second between =>
        have hsecond : ¬ IsClosingLine second := hmore second (List.mem_cons_self ..)
        rw [closed?, afterDelimiter?_of_lines hrest, if_neg hsecond] at hblock
        rw [afterDelimiter?_of_lines hrest, if_neg hsecond]
        refine ⟨text ++ '\n' :: block, by simp [hblock], ?_⟩
        rw [List.flatten_cons, ← hcut]
        simp [separator]

/-- Without a line that closes there is no closing delimiter. -/
theorem closed?_eq_none (h : ∀ line ∈ splitLines cs, ¬ IsClosingLine line) : closed? cs = none := by
  revert h
  refine splitLines_induction (motive := fun cs lines => (∀ line ∈ lines, ¬ IsClosingLine line) →
    closed? cs = none) ?nil ?last ?line cs
  case nil => exact fun _ => rfl
  case last =>
    intro line hne hbreak h
    have hlines := CodeSpan.splitLines_last hbreak hne
    have hline : ¬ IsClosingLine line := h line (List.mem_singleton_self _)
    rw [closed?, afterDelimiter?_of_lines hlines, if_neg hline]
    exact splitClosing?_last hbreak
  case line =>
    intro line rest hbreak ih h
    obtain ⟨hfirst, hmore⟩ := List.forall_mem_cons.mp h
    have hrest := ih hmore
    rw [closed?] at hrest
    rw [closed?, afterDelimiter?_of_lines (CodeSpan.splitLines_line hbreak rest), if_neg hfirst]
    simp only [splitClosing?_line hbreak]
    cases hafter : afterDelimiter? rest with
    | some body =>
      rw [hafter] at hrest
      exact absurd hrest (Option.some_ne_none _)
    | none =>
      rw [hafter] at hrest
      simp only [hrest, Option.map_none]

/-! ### Texts with front matter -/

/-- The first line of a text is a delimiter, and a later one closes it. -/
def HasFrontMatter (cs : List Char) : Prop :=
  ∃ opening lines, splitLines cs = opening :: lines ∧ IsDelimiterLine opening ∧
    ∃ line ∈ lines, IsClosingLine line

/-- The lines of a text with front matter: the two delimiters, what stands between them, and what
    follows. -/
structure Delimited (cs opening : List Char) (between : List (List Char)) (closing : List Char)
    (after : List (List Char)) : Prop where
  lines : splitLines cs = opening :: (between ++ closing :: after)
  opens : IsDelimiterLine opening
  closes : IsClosingLine closing
  first : ∀ line ∈ between, ¬ IsClosingLine line

/-- Among the later lines that close there is a first one. -/
theorem hasFrontMatter_iff :
    HasFrontMatter cs ↔ ∃ opening between closing after, Delimited cs opening between closing after := by
  constructor
  · rintro ⟨opening, lines, hlines, hopening, line, hline, hcloses⟩
    have hsome : (lines.find? fun line => decide (IsClosingLine line)).isSome :=
      List.find?_isSome.mpr ⟨line, hline, decide_eq_true hcloses⟩
    obtain ⟨closing, hfind⟩ := Option.isSome_iff_exists.mp hsome
    obtain ⟨hclosing, between, after, rfl, hfirst⟩ := List.find?_eq_some_iff_append.mp hfind
    exact ⟨opening, between, closing, after, hlines, hopening, of_decide_eq_true hclosing,
      fun line hline => by simpa using hfirst line hline⟩
  · rintro ⟨opening, between, closing, after, h⟩
    exact ⟨opening, _, h.lines, h.opens, closing, by simp, h.closes⟩

/-- What front matter is taken apart into, and how the parts make up the text. -/
theorem Delimited.split_eq (h : Delimited cs opening between closing after) :
    ∃ block, block ++ separator between = between.flatten ∧
      cs = opening ++ block ++ separator between ++ closing ++ after.flatten ∧
      split cs = ⟨some block, after.flatten,
        1 + lineFeeds (opening ++ block ++ separator between ++ closing)⟩ := by
  obtain ⟨rest, rfl, hrest, -⟩ := exists_of_splitLines_cons h.lines
  obtain ⟨block, hclosed, hblock⟩ := closed?_of_lines hrest h.closes h.first
  have hcut : rest = block ++ separator between ++ closing ++ after.flatten := by
    rw [hblock, ← CodeSpan.splitLines_flatten rest, hrest]
    simp
  have htext : opening ++ rest =
      (opening ++ block ++ separator between ++ closing) ++ after.flatten := by simp [hcut]
  refine ⟨block, hblock, htext, ?_⟩
  have hfeeds : lineFeeds (opening ++ rest) - lineFeeds after.flatten =
      lineFeeds (opening ++ block ++ separator between ++ closing) := by
    rw [htext, lineFeeds_append _ after.flatten, Nat.add_sub_cancel]
  rw [split, afterOpening?_complete h.opens, Option.bind_some, hclosed]
  simp only [hfeeds, Nat.add_comm]

/-- A text without front matter is all body. -/
theorem split_of_not_hasFrontMatter (h : ¬ HasFrontMatter cs) : split cs = ⟨none, cs, 1⟩ := by
  rw [split]
  cases hopening : afterOpening? cs with
  | none => rfl
  | some rest =>
    obtain ⟨line, hline, rfl⟩ := afterOpening?_sound hopening
    have hnone : closed? rest = none := closed?_eq_none fun closing hmem hcloses =>
      h ⟨line, splitLines rest, hline.splitLines_append rest, hline, closing, hmem, hcloses⟩
    rw [Option.bind_some, hnone]

/-- The body is the end of a text. -/
theorem body_suffix (cs : List Char) : (split cs).body <:+ cs := by
  by_cases h : HasFrontMatter cs
  · obtain ⟨opening, between, closing, after, hparts⟩ := hasFrontMatter_iff.mp h
    obtain ⟨block, -, hcut, hsplit⟩ := hparts.split_eq
    rw [hsplit]
    exact ⟨_, hcut.symm⟩
  · rw [split_of_not_hasFrontMatter h]

/-- Front matter is told by the lines of a text, and taking it apart loses nothing: a first line that
    is a delimiter and the first later line that closes it stand around the block, which ends in
    front of the line feed that precedes the closing line, and the body is what follows. -/
theorem split_exact (cs : List Char) :
    ((split cs).block.isSome ↔ HasFrontMatter cs) ∧
    (∀ opening between closing after, Delimited cs opening between closing after →
      ∃ block, block ++ separator between = between.flatten ∧
        cs = opening ++ block ++ separator between ++ closing ++ after.flatten ∧
        split cs = ⟨some block, after.flatten,
          1 + lineFeeds (opening ++ block ++ separator between ++ closing)⟩) ∧
    (¬ HasFrontMatter cs → split cs = ⟨none, cs, 1⟩) := by
  refine ⟨?_, fun _ _ _ _ h => h.split_eq, split_of_not_hasFrontMatter⟩
  constructor
  · intro hsome
    by_contra hnot
    rw [split_of_not_hasFrontMatter hnot] at hsome
    exact nomatch hsome
  · intro h
    obtain ⟨opening, between, closing, after, hparts⟩ := hasFrontMatter_iff.mp h
    obtain ⟨block, -, -, hsplit⟩ := hparts.split_eq
    rw [hsplit]
    rfl

/-- With carriage returns the last one of the block stays in it. -/
theorem split_exact_returns :
    let cs := "---\r\ntags: x\r\n---\r\nBody".toList
    Delimited cs "---\r\n".toList ["tags: x\r\n".toList] "---\r\n".toList ["Body".toList] ∧
      split cs = ⟨some "tags: x\r".toList, "Body".toList, 4⟩ := by
  intro cs
  have hparts : Delimited cs "---\r\n".toList ["tags: x\r\n".toList] "---\r\n".toList
      ["Body".toList] := ⟨by decide, .inr rfl, .inr (.inr rfl), by decide⟩
  obtain ⟨block, hblock, -, hsplit⟩ := (split_exact cs).2.1 _ _ _ _ hparts
  obtain rfl : block = "tags: x\r".toList := by
    have hcut : block ++ ['\n'] = "tags: x\r".toList ++ ['\n'] := hblock
    exact List.append_cancel_right hcut
  exact ⟨hparts, hsplit⟩

example : (split "---\n---".toList, split "---\n----\n---x\n".toList) =
    (⟨some [], [], 2⟩, ⟨none, "---\n----\n---x\n".toList, 1⟩) := by
  decide

end WikiNotes.FrontMatter
