import WikiNotes.Note.Heading
import WikiNotes.Proofs.Note.FencedLine

/-! # Which lines are headings

A line is a heading if it starts with one to six hashes, blanks and a text that is not blank
(`Heading.IsHeadingLine`).  The pattern that is sought takes any character as the text, a blank too:
so hashes with nothing but two or more blanks behind them get a heading of an empty text
(`Heading.IsBlankHeading`).  Those are the only lines on which the headings of a text and the grammar
differ (`Heading.followsGrammar_iff`).

The headings of a text are one for each line that has one, in order (`Heading.map_entry_outside`). -/

namespace WikiNotes.Heading

open Text

/-! ### The pattern of a line -/

/-- What the pattern takes apart: hashes, blanks, a body and blanks. -/
structure Matches (line : List Char) (level : Nat) (gap body trail : List Char) : Prop where
  cut : line = List.replicate level '#' ++ (gap ++ body ++ trail)
  level_pos : 1 ≤ level
  level_le : level ≤ 6
  gap_ne_nil : gap ≠ []
  body_ne_nil : body ≠ []
  gap_blank : ∀ c ∈ gap, isBlank c = true
  trail_blank : ∀ c ∈ trail, isBlank c = true

/-- What stands behind hashes is blanks, a body and blanks exactly if it starts with a blank and
    holds something else, or another blank. -/
theorem exists_gap_iff {rest text : List Char} :
    (rest.head?.any isBlank = true ∧ (trimChars rest ≠ [] ∨ 2 ≤ rest.length) ∧
        trimChars rest = text) ↔
      ∃ gap body trail, rest = gap ++ body ++ trail ∧ gap ≠ [] ∧ body ≠ [] ∧
        (∀ c ∈ gap, isBlank c = true) ∧ (∀ c ∈ trail, isBlank c = true) ∧
        text = trimChars body := by
  constructor
  · rintro ⟨hhead, hlong, rfl⟩
    by_cases htext : trimChars rest = []
    · -- There are only blanks: the first one separates, the others are taken for the text.
      match rest with
      | [] => exact nomatch hhead
      | [c] => exact absurd hlong (by simp [htext])
      | c :: d :: rest =>
        obtain ⟨hc, hmore⟩ := List.forall_mem_cons.mp (trimChars_eq_nil_iff.mp htext)
        have hbody : trimChars (d :: rest) = [] := trimChars_eq_nil_iff.mpr hmore
        exact ⟨[c], d :: rest, [], by simp, by simp, by simp, by simpa using hc, by simp,
          htext.trans hbody.symm⟩
    · obtain ⟨lead, trail, hrest, hlead, htrail⟩ := exists_stripWhile isBlank rest
      change rest = lead ++ trimChars rest ++ trail at hrest
      refine ⟨lead, trimChars rest, trail, hrest, ?_, htext, hlead, htrail,
        (stripWhile_stripWhile ..).symm⟩
      rintro rfl
      obtain ⟨c, text, hcons⟩ := List.exists_cons_of_ne_nil htext
      have hc : isBlank c = false := head?_stripWhile (congrArg List.head? hcons)
      rw [hrest, hcons] at hhead
      simp [hc] at hhead
  · rintro ⟨gap, body, trail, rfl, hgap, hbody, hblank, htrail, rfl⟩
    obtain ⟨c, gap, rfl⟩ := List.exists_cons_of_ne_nil hgap
    obtain ⟨d, body, rfl⟩ := List.exists_cons_of_ne_nil hbody
    refine ⟨hblank c (List.mem_cons_self ..), .inr ?_, stripWhile_between hblank htrail _⟩
    simp only [List.length_append, List.length_cons]
    omega

/-- Hashes in front of something else are as many as stand at the start. -/
theorem takeWhile_hashes {rest : List Char} (h : rest.head? ≠ some '#') (level : Nat) :
    (List.replicate level '#' ++ rest).takeWhile (· = '#') = List.replicate level '#' := by
  refine takeWhile_append_of_stop (fun c hc => ?_) fun c hc => ?_
  · exact decide_eq_true (List.eq_of_mem_replicate hc)
  · exact decide_eq_false fun heq => h (heq ▸ hc)

/-- A line is taken for a heading exactly if the pattern matches it somehow. -/
theorem ofLine?_eq_some_iff {line text : List Char} {level : Nat} :
    ofLine? line = some (level, text) ↔
      ∃ gap body trail, Matches line level gap body trail ∧ text = trimChars body := by
  simp only [ofLine?, Option.ite_none_right_eq_some, Option.some.injEq, Prod.mk.injEq]
  constructor
  · rintro ⟨⟨hpos, hle, hhead, hlong⟩, rfl, htext⟩
    obtain ⟨gap, body, trail, hrest, hgap, hbody, hblank, htrail, htext⟩ :=
      exists_gap_iff.mp ⟨hhead, hlong, htext⟩
    refine ⟨gap, body, trail, ⟨?_, hpos, hle, hgap, hbody, hblank, htrail⟩, htext⟩
    have hhashes : line.takeWhile (· = '#') =
        List.replicate (line.takeWhile (· = '#')).length '#' :=
      List.eq_replicate_iff.mpr ⟨rfl, fun c hc => by simpa using List.mem_takeWhile_imp hc⟩
    rw [← hrest, ← hhashes]
    exact List.prefix_iff_eq_append.mp (List.takeWhile_prefix _) |>.symm
  · rintro ⟨gap, body, trail, ⟨rfl, hpos, hle, hgap, hbody, hblank, htrail⟩, rfl⟩
    obtain ⟨hhead, hlong, htext⟩ := exists_gap_iff.mpr
      ⟨gap, body, trail, rfl, hgap, hbody, hblank, htrail, rfl⟩
    have hstop : (gap ++ body ++ trail).head? ≠ some '#' := by
      intro hhash
      rw [hhash] at hhead
      exact nomatch hhead
    have hlength : (List.replicate level '#').length = level := List.length_replicate ..
    have hdrop : (List.replicate level '#' ++ (gap ++ body ++ trail)).drop level =
        gap ++ body ++ trail := List.drop_left' hlength
    rw [takeWhile_hashes hstop, hlength, hdrop]
    exact ⟨⟨hpos, hle, hhead, hlong⟩, rfl, htext⟩

/-! ### The grammar of a line -/

/-- A line is a heading of a level: one to six hashes, blanks, and a text that is not blank. -/
structure IsHeadingLine (line : List Char) (level : Nat) (text : List Char) : Prop where
  cut : ∃ gap, line = List.replicate level '#' ++ (gap ++ text) ∧ gap ≠ [] ∧
    ∀ c ∈ gap, isBlank c = true
  level_pos : 1 ≤ level
  level_le : level ≤ 6
  text_named : ∃ c ∈ text, isBlank c = false

/-- A line is one to six hashes with two or more blanks behind them, and nothing else. -/
structure IsBlankHeading (line : List Char) (level : Nat) : Prop where
  cut : ∃ blanks, line = List.replicate level '#' ++ blanks ∧ 2 ≤ blanks.length ∧
    ∀ c ∈ blanks, isBlank c = true
  level_pos : 1 ≤ level
  level_le : level ≤ 6

theorem IsHeadingLine.trimChars_ne_nil {line text : List Char} {level : Nat}
    (h : IsHeadingLine line level text) : trimChars text ≠ [] := by
  intro hnil
  obtain ⟨c, hc, hblank⟩ := h.text_named
  rw [trimChars_eq_nil_iff.mp hnil c hc] at hblank
  exact nomatch hblank

/-- The lines that are taken for headings: those of the grammar, and those of blanks. -/
theorem ofLine?_eq_some_iff_grammar {line text : List Char} {level : Nat} :
    ofLine? line = some (level, text) ↔
      (∃ body, IsHeadingLine line level body ∧ text = trimChars body) ∨
        IsBlankHeading line level ∧ text = [] := by
  rw [ofLine?_eq_some_iff]
  constructor
  · rintro ⟨gap, body, trail, ⟨rfl, hpos, hle, hgap, hbody, hblank, htrail⟩, rfl⟩
    by_cases hnamed : ∃ c ∈ body, isBlank c = false
    · obtain ⟨c, hc, hcblank⟩ := hnamed
      refine .inl ⟨body ++ trail, ⟨⟨gap, by rw [List.append_assoc gap], hgap, hblank⟩, hpos, hle, c,
        List.mem_append_left _ hc, hcblank⟩, ?_⟩
      exact (CodeSpan.trimChars_append_of_blank htrail body).symm
    · have hbodyBlank : ∀ c ∈ body, isBlank c = true := by simpa using hnamed
      refine .inr ⟨⟨⟨gap ++ body ++ trail, rfl, ?_, ?_⟩, hpos, hle⟩,
        trimChars_eq_nil_iff.mpr hbodyBlank⟩
      · have hgapLength := List.length_pos_iff.mpr hgap
        have hbodyLength := List.length_pos_iff.mpr hbody
        simp only [List.length_append]
        omega
      · simp only [List.forall_mem_append]
        exact ⟨⟨hblank, hbodyBlank⟩, htrail⟩
  · rintro (⟨body, ⟨⟨gap, rfl, hgap, hblank⟩, hpos, hle, c, hc, -⟩, rfl⟩ |
      ⟨⟨⟨blanks, rfl, hlength, hblank⟩, hpos, hle⟩, rfl⟩)
    · exact ⟨gap, body, [], ⟨by simp, hpos, hle, hgap, List.ne_nil_of_mem hc, hblank, by simp⟩, rfl⟩
    · match blanks with
      | [] => simp at hlength
      | [_] => simp at hlength
      | c :: d :: blanks =>
        obtain ⟨hc, hmore⟩ := List.forall_mem_cons.mp hblank
        exact ⟨[c], d :: blanks, [], ⟨by simp, hpos, hle, by simp, by simp, by simpa using hc,
          by simp⟩, (trimChars_eq_nil_iff.mpr hmore).symm⟩

/-! ### The headings of lines -/

/-- What a heading says of a line: its number, the level and the text. -/
def entry (h : Heading) : Nat × Nat × List Char := (h.line, h.level, h.text.toList)

/-- What the heading says that a line gets, given with the number of lines in front of it, in a body
    that starts at a line of its note. -/
def entryOf? (code : List CodeSpan) (firstLine : Nat) (numbered : List Char × Nat) :
    Option (Nat × Nat × List Char) :=
  if CodeSpan.coversLine code (numbered.2 + 1) then none
  else (ofLine? (withoutLineEnd numbered.1)).map fun found => (firstLine + numbered.2, found)

theorem map_entry_fromLines (code : List CodeSpan) (firstLine : Nat)
    (seen : SortedMap String Nat) (n : Nat) (lines : List (List Char)) :
    (fromLines code firstLine seen (n + 1) lines).map entry =
      (lines.zipIdx n).filterMap (entryOf? code firstLine) := by
  induction lines generalizing seen n with
  | nil => rfl
  | cons line lines ih =>
    rw [List.zipIdx_cons, List.filterMap_cons, fromLines, entryOf?]
    cases hcode : CodeSpan.coversLine code (n + 1) with
    | true => simpa [hcode] using ih seen (n + 1)
    | false =>
      cases hline : ofLine? (withoutLineEnd line) with
      | none => simpa [hcode, hline] using ih seen (n + 1)
      | some found => simp [ih, entry]

/-- Every line outside code that is taken for a heading gets one, in order. -/
theorem map_entry_outside (code : List CodeSpan) (firstLine : Nat) (body : List Char) :
    (outside code firstLine body).map entry =
      (splitLines body).zipIdx.filterMap (entryOf? code firstLine) :=
  map_entry_fromLines ..

variable {code : List CodeSpan} {firstLine l level : Nat} {body text : List Char}

/-- The lines on which headings stand. -/
theorem exists_entry_iff :
    (∃ h ∈ outside code firstLine body, h.entry = (l, level, text)) ↔
      ∃ n line, (splitLines body)[n]? = some line ∧ l = firstLine + n ∧
        CodeSpan.coversLine code (n + 1) = false ∧
        ofLine? (withoutLineEnd line) = some (level, text) := by
  rw [← List.mem_map, map_entry_outside, List.mem_filterMap]
  constructor
  · rintro ⟨⟨line, n⟩, hmem, hentry⟩
    simp only [entryOf?, Option.ite_none_left_eq_some, Bool.not_eq_true, Option.map_eq_some_iff,
      Prod.mk.injEq] at hentry
    obtain ⟨hcode, found, hfound, rfl, rfl⟩ := hentry
    exact ⟨n, line, List.mk_mem_zipIdx_iff_getElem?.mp hmem, rfl, hcode, hfound⟩
  · rintro ⟨n, line, hline, rfl, hcode, hfound⟩
    refine ⟨(line, n), List.mk_mem_zipIdx_iff_getElem?.mpr hline, ?_⟩
    simp [entryOf?, hcode, hfound]

/-- No two headings stand on one line, and a later one stands on a later line. -/
theorem pairwise_outside (code : List CodeSpan) (firstLine : Nat) (body : List Char) :
    (outside code firstLine body).Pairwise fun a b => a.line < b.line := by
  have hnumbers : ((splitLines body).zipIdx.map Prod.snd).Pairwise (· < ·) := by
    rw [List.zipIdx_map_snd]
    exact List.pairwise_lt_range' 1
  have hentries : ((outside code firstLine body).map entry).Pairwise fun a b => a.1 < b.1 := by
    rw [map_entry_outside]
    refine (List.pairwise_map.mp hnumbers).filterMap _ fun a b hab c hc d hd => ?_
    simp only [entryOf?, Option.ite_none_left_eq_some, Option.map_eq_some_iff] at hc hd
    obtain ⟨-, _, -, rfl⟩ := hc
    obtain ⟨-, _, -, rfl⟩ := hd
    exact Nat.add_lt_add_left hab firstLine
  rw [List.pairwise_map] at hentries
  exact hentries

/-! ### The headings of a text -/

/-- A heading of a level and a text is reported for the line behind `n` others. -/
def Reports (content : String) (n level : Nat) (text : List Char) : Prop :=
  ∃ h ∈ ofText content, h.line = n + 1 ∧ h.level = level ∧ h.text.toList = text

/-- The headings of a text follow the grammar on the line behind `n` others: one is reported
    exactly if the line is a heading outside fenced blocks, with its level and its text trimmed. -/
def FollowsGrammar (content : String) (n : Nat) (line : List Char) : Prop :=
  ∀ level text, Reports content n level text ↔
    ¬ CodeSpan.InFence (splitLines content.toList) n ∧
      ∃ body, IsHeadingLine (withoutLineEnd line) level body ∧ text = trimChars body

variable {content : String} {n : Nat} {line : List Char}

theorem reports_iff (hline : (splitLines content.toList)[n]? = some line) :
    Reports content n level text ↔ ¬ CodeSpan.InFence (splitLines content.toList) n ∧
      ofLine? (withoutLineEnd line) = some (level, text) := by
  have hn : n < (splitLines content.toList).length := (List.getElem?_eq_some_iff.mp hline).1
  have hentry : Reports content n level text ↔
      ∃ h ∈ ofText content, h.entry = (n + 1, level, text) := by
    simp only [Reports, entry, Prod.mk.injEq]
  rw [hentry, ofText, ofChars, exists_entry_iff, ← CodeSpan.coversLine_findAll_iff hn,
    Bool.not_eq_true]
  constructor
  · rintro ⟨m, line', hline', hm, hcode, hfound⟩
    obtain rfl : n = m := by omega
    obtain rfl : line = line' := Option.some.inj (hline.symm.trans hline')
    exact ⟨hcode, hfound⟩
  · rintro ⟨hcode, hfound⟩
    exact ⟨n, line, hline, Nat.add_comm n 1, hcode, hfound⟩

/-- The headings of a text follow the grammar on a line exactly if the line belongs to a fenced
    block or is not of hashes and two or more blanks alone.  For a line that breaks the grammar a
    heading of no text is reported. -/
theorem followsGrammar_iff (hline : (splitLines content.toList)[n]? = some line) :
    (FollowsGrammar content n line ↔
      CodeSpan.InFence (splitLines content.toList) n ∨
        ∀ level, ¬ IsBlankHeading (withoutLineEnd line) level) ∧
    ∀ level, ¬ CodeSpan.InFence (splitLines content.toList) n →
      IsBlankHeading (withoutLineEnd line) level →
        ∀ level' text, Reports content n level' text ↔ level' = level ∧ text = [] := by
  have hblank {level : Nat} (hout : ¬ CodeSpan.InFence (splitLines content.toList) n)
      (h : IsBlankHeading (withoutLineEnd line) level) (level' : Nat) (text : List Char) :
      Reports content n level' text ↔ level' = level ∧ text = [] := by
    have hfound := ofLine?_eq_some_iff_grammar.mpr (.inr ⟨h, rfl⟩)
    rw [reports_iff hline, hfound]
    simp [hout, eq_comm]
  refine ⟨⟨fun hfollows => ?_, fun hgrammar level text => ?_⟩, fun level => hblank⟩
  · refine or_iff_not_imp_left.mpr fun hout level h => ?_
    have hreports := (hblank hout h level []).mpr ⟨rfl, rfl⟩
    obtain ⟨-, body, hheading, hnil⟩ := (hfollows level []).mp hreports
    exact hheading.trimChars_ne_nil hnil.symm
  · rw [reports_iff hline, ofLine?_eq_some_iff_grammar]
    refine and_congr_right fun hout => or_iff_left fun hbreaks => ?_
    exact hgrammar.resolve_left hout level hbreaks.1

/-- In a fenced block hashes and blanks are no heading. -/
theorem followsGrammar_fenced :
    let content := "```\n#  \n```\n"
    (splitLines content.toList)[1]? = some "#  \n".toList ∧
      FollowsGrammar content 1 "#  \n".toList := by
  intro content
  have hline : (splitLines content.toList)[1]? = some "#  \n".toList := by decide +kernel
  have hfence : CodeSpan.InFence (splitLines content.toList) 1 := by decide +kernel
  exact ⟨hline, (followsGrammar_iff hline).1.mpr (.inl hfence)⟩

/-- A hash and two blanks get a heading without a text, which the grammar does not have. -/
theorem not_followsGrammar_blanks :
    (splitLines "#  ".toList)[0]? = some "#  ".toList ∧
      ofText "#  " = [⟨"", 1, 1, ""⟩] ∧ ¬ FollowsGrammar "#  " 0 "#  ".toList := by
  have hheadings : ofText "#  " = [⟨"", 1, 1, ""⟩] := by decide +kernel
  refine ⟨by decide +kernel, hheadings, fun hfollows => ?_⟩
  have hreports : Reports "#  " 0 1 [] :=
    ⟨⟨"", 1, 1, ""⟩, by rw [hheadings]; exact List.mem_singleton_self _, rfl, rfl, rfl⟩
  obtain ⟨-, body, hheading, hnil⟩ := (hfollows 1 []).mp hreports
  exact hheading.trimChars_ne_nil hnil.symm

end WikiNotes.Heading
