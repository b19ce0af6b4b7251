import WikiNotes.Proofs.Note.CodeBehind

/-! # Lines of a text

A text is its lines one behind the other, each of which ends with its only line feed, but for the
last one, which may have none (`splitLines_induction`).  So what holds no line feed stands on one
line, the one whose number is told by the line feeds in front of it (`splitLines_at`). -/

namespace WikiNotes.Text

/-- The induction along the lines of a text: there are none, there is a last one that is not ended,
    or a line feed ends the first one. -/
theorem splitLines_induction {motive : List Char → List (List Char) → Prop} (nil : motive [] [])
    (last : ∀ line, line ≠ [] → '\n' ∉ line → motive line [line])
    (line : ∀ line rest, '\n' ∉ line → motive rest (splitLines rest) →
      motive (line ++ '\n' :: rest) ((line ++ ['\n']) :: splitLines rest))
    (cs : List Char) : motive cs (splitLines cs) := by
  induction hlength : cs.length using Nat.strongRecOn generalizing cs with
  | ind n ih =>
    by_cases hbreak : '\n' ∈ cs
    · obtain ⟨front, rest, rfl, hfront⟩ := List.eq_append_cons_of_mem hbreak
      rw [CodeSpan.splitLines_line hfront]
      refine line front rest hfront (ih rest.length ?_ rest rfl)
      rw [← hlength, List.length_append, List.length_cons]
      omega
    · by_cases hne : cs = []
      · rw [hne]
        exact nil
      · rw [CodeSpan.splitLines_last hbreak hne]
        exact last cs hne hbreak

/-- The first line stands in front of the text of the others, and if there are others it is ended. -/
theorem exists_of_splitLines_cons {cs line : List Char} {lines : List (List Char)}
    (h : splitLines cs = line :: lines) :
    ∃ rest, cs = line ++ rest ∧ splitLines rest = lines ∧
      (rest = [] ∨ ∃ text, '\n' ∉ text ∧ line = text ++ ['\n']) := by
  revert h
  refine splitLines_induction (motive := fun cs found => found = line :: lines →
    ∃ rest, cs = line ++ rest ∧ splitLines rest = lines ∧
      (rest = [] ∨ ∃ text, '\n' ∉ text ∧ line = text ++ ['\n'])) ?nil ?last ?line cs
  case nil => exact fun h => nomatch h
  case last =>
    rintro text - - ⟨⟩
    exact ⟨[], by simp, rfl, .inl rfl⟩
  case line =>
    rintro text rest hbreak - ⟨⟩
    exact ⟨rest, by simp, rfl, .inr ⟨text, hbreak, rfl⟩⟩

theorem lineFeeds_of_not_mem {cs : List Char} (h : '\n' ∉ cs) : lineFeeds cs = 0 :=
  List.count_eq_zero.mpr h

theorem lineFeeds_line {line : List Char} (h : '\n' ∉ line) (rest : List Char) :
    lineFeeds (line ++ '\n' :: rest) = lineFeeds rest + 1 := by
  have hfeed : lineFeeds ('\n' :: rest) = lineFeeds rest + 1 := List.count_cons_self ..
  rw [lineFeeds_append, lineFeeds_of_not_mem h, hfeed, Nat.zero_add]

/-- A text that ends a line has as many lines as line feeds. -/
theorem EndsLine.length_splitLines {cs : List Char} (h : EndsLine cs) :
    (splitLines cs).length = lineFeeds cs := by
  revert h
  refine splitLines_induction (motive := fun cs lines => EndsLine cs → lines.length = lineFeeds cs)
    ?nil ?last ?line cs
  case nil => exact fun h => nomatch h
  case last => exact fun line _ hline h => absurd h.mem hline
  case line =>
    intro line rest hline ih h
    rw [lineFeeds_line hline, List.length_cons]
    by_cases hrest : rest = []
    · rw [hrest]
      rfl
    · have hends : EndsLine (['\n'] ++ rest) := h.of_append (by simp)
      rw [ih (hends.of_append hrest)]

theorem mem_of_cons_eq_append {c : Char} {cs x y : List Char} (hx : x ≠ [])
    (h : c :: cs = x ++ y) : c ∈ x := by
  obtain ⟨d, x, rfl⟩ := List.exists_cons_of_ne_nil hx
  rw [(List.cons.inj h).1]
  exact List.mem_cons_self ..

/-- What holds no line feed stands on one line, behind as many others as line feeds stand in front
    of it. -/
theorem splitLines_at {cs a m b : List Char} (hcs : cs = a ++ m ++ b) (hm : m ≠ [])
    (hbreak : '\n' ∉ m) :
    ∃ u v, (splitLines cs)[lineFeeds a]? = some (u ++ m ++ v) ∧
      a = ((splitLines cs).take (lineFeeds a)).flatten ++ u := by
  revert a
  refine splitLines_induction (motive := fun cs lines => ∀ {a}, cs = a ++ m ++ b →
    ∃ u v, lines[lineFeeds a]? = some (u ++ m ++ v) ∧
      a = (lines.take (lineFeeds a)).flatten ++ u) ?nil ?last ?line cs
  case nil =>
    intro a hcs
    simp [hm] at hcs
  case last =>
    rintro line - hline a rfl
    have ha : lineFeeds a = 0 := lineFeeds_of_not_mem fun hmem => hline (by simp [hmem])
    exact ⟨a, b, by rw [ha]; rfl, by rw [ha]; rfl⟩
  case line =>
    intro line rest hline ih a hcs
    rw [List.append_assoc] at hcs
    rcases List.append_eq_append_iff.mp hcs with ⟨more, rfl, hmore⟩ | ⟨more, rfl, hmore⟩
    · -- The text stands behind the first line.
      rcases List.cons_eq_append_iff.mp hmore with ⟨rfl, hm'⟩ | ⟨more, rfl, hrest⟩
      · exact absurd (mem_of_cons_eq_append hm hm'.symm) hbreak
      · rw [← List.append_assoc] at hrest
        obtain ⟨u, v, hat, hfront⟩ := ih hrest
        have hfeeds := lineFeeds_line hline more
        refine ⟨u, v, ?_, ?_⟩
        · rw [hfeeds, List.getElem?_cons_succ, hat]
        · rw [hfeeds, List.take_succ_cons, List.flatten_cons, List.append_assoc, ← hfront]
          simp
    · -- It begins on the first line, and it ends there as the line feed is no part of it.
      have ha : lineFeeds a = 0 := lineFeeds_of_not_mem fun hmem => hline (by simp [hmem])
      rcases List.append_eq_append_iff.mp hmore with ⟨v, rfl, -⟩ | ⟨w, rfl, hw⟩
      · exact ⟨a, v ++ ['\n'], by rw [ha]; simp, by rw [ha]; rfl⟩
      · by_cases hnil : w = []
        · exact ⟨a, ['\n'], by rw [ha, hnil]; simp, by rw [ha]; rfl⟩
        · exact absurd (List.mem_append_right _ (mem_of_cons_eq_append hnil hw)) hbreak

/-- Lines hold nothing that the text does not. -/
theorem not_mem_of_mem_splitLines {c : Char} {cs raw : List Char} (hc : c ∉ cs)
    (hraw : raw ∈ splitLines cs) : c ∉ raw := fun hmem => hc <| by
  rw [← CodeSpan.splitLines_flatten cs]
  exact List.mem_flatten.mpr ⟨raw, hraw, hmem⟩

/-- A line is ended by a line feed or not at all. -/
theorem line_of_mem_splitLines {cs raw : List Char} (h : raw ∈ splitLines cs) :
    ∃ line, '\n' ∉ line ∧ (raw = line ∨ raw = line ++ ['\n']) := by
  revert h
  refine splitLines_induction (motive := fun _ lines => raw ∈ lines →
    ∃ line, '\n' ∉ line ∧ (raw = line ∨ raw = line ++ ['\n'])) ?nil ?last ?line cs
  case nil => exact fun h => nomatch h
  case last =>
    intro line _ hbreak h
    exact ⟨line, hbreak, .inl (List.mem_singleton.mp h)⟩
  case line =>
    intro line rest hbreak ih h
    obtain rfl | h := List.mem_cons.mp h
    · exact ⟨line, hbreak, .inr rfl⟩
    · exact ih h

/-- What is left of a line without line ends holds no line feed. -/
theorem not_mem_dropEndWhile_line {line : List Char} (h : '\n' ∉ line) :
    '\n' ∉ dropEndWhile isLineEnd line ∧ '\n' ∉ dropEndWhile isLineEnd (line ++ ['\n']) := by
  have hdrop : dropEndWhile isLineEnd (line ++ ['\n']) = dropEndWhile isLineEnd line :=
    List.rdropWhile_concat_pos _ _ _ rfl
  have hpart : dropEndWhile isLineEnd line <+: line := dropEndWhile_prefix ..
  have hline : '\n' ∉ dropEndWhile isLineEnd line := fun hmem => h (hpart.subset hmem)
  exact ⟨hline, hdrop ▸ hline⟩

/-- A line ends with blanks behind what is left of it without its end. -/
theorem exists_withoutLineEnd (line : List Char) :
    ∃ trail, line = withoutLineEnd line ++ trail ∧ ∀ c ∈ trail, isBlank c = true := by
  rw [withoutLineEnd]
  split
  case h_1 text hline =>
    refine ⟨['\r', '\n'], ?_, by simp; decide⟩
    rw [← List.reverse_reverse line, hline]
    simp
  case h_2 text _ hline =>
    refine ⟨['\n'], ?_, by simp; decide⟩
    rw [← List.reverse_reverse line, hline]
    simp
  case h_3 => exact ⟨[], (List.append_nil line).symm, fun _ hc => nomatch hc⟩

/-- A line loses its line feed, and nothing else unless a carriage return stands in front of it. -/
theorem withoutLineEnd_append {line : List Char} (h : line.getLast? ≠ some '\r') :
    withoutLineEnd (line ++ ['\n']) = line := by
  rw [withoutLineEnd, List.reverse_append, List.reverse_singleton, List.singleton_append]
  split
  case h_1 text hline =>
    have hreverse : line.reverse = '\r' :: text := (List.cons.inj hline).2
    rw [List.getLast?_eq_head?_reverse, hreverse] at h
    exact absurd rfl h
  case h_2 text _ hline =>
    rw [← (List.cons.inj hline).2, List.reverse_reverse]
  case h_3 _ hother => exact absurd rfl (hother line.reverse)

end WikiNotes.Text
