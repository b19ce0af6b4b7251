import WikiNotes.Proofs.Note.FrontMatter
import WikiNotes.Proofs.Note.Heading

/-! # Line numbers point into the whole text

Three counts give the lines of a note: links count the line feeds in front of them in the whole text,
headings the lines of the body, and front matter the line feeds that it takes from the body.  They
agree (`Note.lines_point_into_text`): by its number a heading is told on a line of the text, which is
one of the body and never of the front matter, and a link on the line on which its brackets open. -/

namespace WikiNotes

open Text

/-! ### Lines of the body -/

/-- The lines of the body are lines of the whole text, from that on which the body starts. -/
theorem FrontMatter.getElem?_body {cs line : List Char} {n : Nat}
    (h : (splitLines (split cs).body)[n]? = some line) :
    ∃ m, (split cs).bodyLine = m + 1 ∧ (splitLines cs)[m + n]? = some line := by
  cases hblock : (split cs).block with
  | none =>
    have hwhole : split cs = ⟨none, cs, 1⟩ := by
      rw [split] at hblock ⊢
      cases hbind : (afterOpening? cs).bind closed? with
      | none => rfl
      | some found =>
        rw [hbind] at hblock
        exact absurd hblock (Option.some_ne_none _)
    rw [hwhole] at h ⊢
    exact ⟨0, rfl, by rw [Nat.zero_add, h]⟩
  | some block =>
    rcases split_cut hblock with ⟨front, hcut, hfront, hsplit⟩ | ⟨hbody, -⟩
    · refine ⟨lineFeeds front, ?_, ?_⟩
      · rw [hcut, hsplit]
      · rw [hcut, hfront.splitLines_append, ← hfront.length_splitLines,
          List.getElem?_append_right (Nat.le_add_right ..), Nat.add_sub_cancel_left, h]
    · rw [hbody, splitLines, List.getElem?_nil] at h
      exact absurd h.symm (Option.some_ne_none _)

/-! ### Lines of headings -/

/-- A heading is told on a line: hashes, as many as its level, a blank, and the rest, which is its
    text with blanks around it. -/
def Heading.StandsOn (h : Heading) (line : List Char) : Prop :=
  ∃ rest, line = List.replicate h.level '#' ++ rest ∧ (∃ c ∈ rest.head?, isBlank c = true) ∧
    trimChars rest = h.text.toList

theorem Heading.standsOn_of_ofLine? {h : Heading} {line : List Char}
    (hline : ofLine? (withoutLineEnd line) = some (h.level, h.text.toList)) : h.StandsOn line := by
  obtain ⟨gap, body, trail, hmatches, htext⟩ := ofLine?_eq_some_iff.mp hline
  obtain ⟨ending, hends, hblank⟩ := exists_withoutLineEnd line
  obtain ⟨hhead, -, htrim⟩ := exists_gap_iff.mpr ⟨gap, body, trail, rfl, hmatches.gap_ne_nil,
    hmatches.body_ne_nil, hmatches.gap_blank, hmatches.trail_blank, htext⟩
  refine ⟨gap ++ body ++ trail ++ ending, ?_, ?_, ?_⟩
  · rw [← List.append_assoc, ← hmatches.cut, ← hends]
  · obtain ⟨c, hc, hcblank⟩ := (Option.any_eq_true ..).mp hhead
    refine ⟨c, ?_, hcblank⟩
    rw [List.head?_append, hc]
    rfl
  · rw [CodeSpan.trimChars_append_of_blank hblank, htrim]

/-! ### Lines of links -/

namespace Link

/-- The brackets of a link open on a line of a text, the one behind `n` others: in front of the link
    that is found outside the given code are those lines and what the line has in front of it. -/
def OpensOn (code : List CodeSpan) (cs : List Char) (link : Link) (n : Nat) (line : List Char) :
    Prop :=
  ∃ a w u v, a = ((splitLines cs).take n).flatten ++ u ∧ line = u ++ Written.opening w ++ v ∧
    foundAt a w ∈ Text.findAll linkAt? cs ∧ CodeSpan.covers code (byteLength a) = false ∧
    ofFound? (foundAt a w) = some link

theorem not_mem_opening (w : Written) : '\n' ∉ w.opening := by
  rw [Written.opening]
  split <;> decide

variable {code : List CodeSpan} {cs : List Char} {link : Link}

/-- A link opens on the line that its number tells. -/
theorem exists_opensOn (h : link ∈ outside code cs) :
    ∃ n line, link.line = n + 1 ∧ (splitLines cs)[n]? = some line ∧ link.OpensOn code cs n line := by
  obtain ⟨found, hfound, hcode, hlink⟩ := mem_outside.mp h
  obtain ⟨a, heq, -, b, hcs⟩ := exists_foundAt hfound
  obtain ⟨w, hw⟩ : ∃ w, w = found.value := ⟨_, rfl⟩
  rw [← hw] at heq hcs
  rw [heq] at hfound hcode hlink
  have hcut : cs = a ++ w.opening ++ (w.body ++ [']', ']'] ++ b) := by
    rw [← hcs, Written.text]
    simp only [List.append_assoc]
  have hne : w.opening ≠ [] := by
    have hlength := w.length_opening_ge
    exact List.ne_nil_of_length_pos (by omega)
  obtain ⟨u, v, hline, ha⟩ := splitLines_at hcut hne (not_mem_opening w)
  have hnumber : link.line = lineFeeds a + 1 := by
    rw [(ofFound?_eq_some hlink).2.2]
    exact Nat.add_comm 1 _
  rw [foundAt, CodeSpan.offset_advance_start] at hcode
  exact ⟨lineFeeds a, _, hnumber, hline, a, w, u, v, ha, rfl, hfound, hcode, hlink⟩

/-- A link that was read further on is not on an earlier line. -/
theorem pairwise_line_outside (code : List CodeSpan) (cs : List Char) :
    (outside code cs).Pairwise fun a b => a.line ≤ b.line := by
  refine ((proper_linkAt?.pairwise_line .start cs).filter _).filterMap _ ?_
  intro f g hfg a ha b hb
  rwa [(ofFound?_eq_some ha).2.2, (ofFound?_eq_some hb).2.2]

end Link

/-! ### All lines -/

/-- The lines of headings and links point into the whole text of a note.  Headings stand on lines of
    the body, each further down than the one before; links open on their lines, none further up. -/
theorem Note.lines_point_into_text (policy : NamingPolicy) (content : String) :
    let note := Note.ofText policy content
    let lines := splitLines content.toList
    let split := FrontMatter.split content.toList
    note.headings.Pairwise (fun a b => a.line < b.line) ∧
    (∀ h ∈ note.headings, split.bodyLine ≤ h.line ∧ ∃ n line, h.line = n + 1 ∧
      lines[n]? = some line ∧ (splitLines split.body)[h.line - split.bodyLine]? = some line ∧
      h.StandsOn line) ∧
    note.links.Pairwise (fun a b => a.line ≤ b.line) ∧
    ∀ link ∈ note.links, ∃ n line, link.line = n + 1 ∧ lines[n]? = some line ∧
      link.OpensOn (CodeSpan.ofText content) content.toList n line := by
  intro note lines split
  refine ⟨Heading.pairwise_outside .., fun h hh => ?_, Link.pairwise_line_outside ..,
    fun link hlink => Link.exists_opensOn hlink⟩
  obtain ⟨n, line, hline, hnumber, -, hfound⟩ := Heading.exists_entry_iff.mp ⟨h, hh, rfl⟩
  obtain ⟨m, hbody, hwhole⟩ := FrontMatter.getElem?_body hline
  change split.bodyLine = m + 1 at hbody
  change h.line = split.bodyLine + n at hnumber
  refine ⟨by omega, m + n, line, by omega, hwhole, ?_, Heading.standsOn_of_ofLine? hfound⟩
  rw [hnumber, Nat.add_sub_cancel_left]
  exact hline

example :
    let note := Note.ofText {} "---\r\na: 1\r\n---\r\n# b\r\n\r\n![[c]]"
    note.headings.map (·.line) = [4] ∧ note.links.map (·.line) = [6] := by
  decide +kernel

end WikiNotes
