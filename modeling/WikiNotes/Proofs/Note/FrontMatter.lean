import WikiNotes.Note.Document
import WikiNotes.Proofs.Note.LinkBehind

/-! # Links behind front matter

Front matter is what stands up to its closing delimiter, whatever the body behind it is
(`FrontMatter.split_cut`).  Headings and tags are sought in the body with the code of the body, links
in the whole text with the code of the whole text.  So code and brackets in the front matter may
reach into the body, where they hide links or bring to light those that the body has in code
(`body_link_in_code`).  The front matter plays no part in the links of any body exactly if it leaves
open neither code nor brackets (`FrontMatter.keepsBodyLinks_iff`). -/

namespace WikiNotes

open Text

namespace FrontMatter

/-! ### Delimiters -/

/-- A line of three hyphens. -/
def IsDelimiterLine (line : List Char) : Prop :=
  line = "---\n".toList ∨ line = "---\r\n".toList

variable {line cs rest block body : List Char}

theorem IsDelimiterLine.endsLine (h : IsDelimiterLine line) : EndsLine line := by
  rcases h with rfl | rfl <;> decide

/-- Of the beginnings of a delimiter line none ends a line but the whole of it. -/
theorem IsDelimiterLine.eq_of_begins (h : IsDelimiterLine line) (hcs : EndsLine cs)
    (hbegin : cs <+: line) : cs = line := by
  obtain ⟨text, hbreak, rfl⟩ : ∃ text, '\n' ∉ text ∧ line = text ++ ['\n'] := by
    rcases h with rfl | rfl
    · exact ⟨"---".toList, by decide, rfl⟩
    · exact ⟨"---\r".toList, by decide, rfl⟩
  rcases prefix_append_cases hbegin with htext | ⟨z, hz, rfl, hend⟩
  · exact absurd (htext.subset hcs.mem) hbreak
  · cases z with
    | nil => exact absurd rfl hz
    | cons c z =>
      obtain ⟨rfl, hnil⟩ := List.cons_prefix_cons.mp hend
      rw [List.prefix_nil.mp hnil]

theorem afterOpening?_sound (h : afterOpening? cs = some rest) :
    ∃ line, IsDelimiterLine line ∧ cs = line ++ rest := by
  unfold afterOpening? at h
  split at h
  case h_1 =>
    obtain rfl := Option.some.inj h
    exact ⟨_, .inl rfl, rfl⟩
  case h_2 =>
    obtain rfl := Option.some.inj h
    exact ⟨_, .inr rfl, rfl⟩
  case h_3 => exact nomatch h

theorem afterOpening?_complete (h : IsDelimiterLine line) (rest : List Char) :
    afterOpening? (line ++ rest) = some rest := by
  rcases h with rfl | rfl <;> rfl

/-- Behind a delimiter that does not end a line nothing follows. -/
theorem afterDelimiter?_sound (h : afterDelimiter? cs = some rest) :
    (∃ line, IsDelimiterLine line ∧ cs = line ++ rest) ∨ cs = "---".toList ∧ rest = [] := by
  unfold afterDelimiter? at h
  split at h
  case h_1 => exact .inr ⟨rfl, (Option.some.inj h).symm⟩
  case h_2 =>
    obtain rfl := Option.some.inj h
    exact .inl ⟨_, .inl rfl, rfl⟩
  case h_3 =>
    obtain rfl := Option.some.inj h
    exact .inl ⟨_, .inr rfl, rfl⟩
  case h_4 => exact nomatch h

theorem afterDelimiter?_complete (h : IsDelimiterLine line) (rest : List Char) :
    afterDelimiter? (line ++ rest) = some rest := by
  rcases h with rfl | rfl <;> rfl

/-- Whether a delimiter is at the head of a text that ends a line does not depend on what
    follows. -/
theorem afterDelimiter?_eq_none (hcs : EndsLine cs) (h : afterDelimiter? (cs ++ body) = none)
    (other : List Char) : afterDelimiter? (cs ++ other) = none := by
  rw [Option.eq_none_iff_forall_ne_some]
  intro rest hrest
  rcases afterDelimiter?_sound hrest with ⟨line, hline, hcut⟩ | ⟨hcut, -⟩
  · have hbegin : line <+: cs := by
      rcases List.prefix_or_prefix_of_prefix (List.prefix_append cs other)
        (hcut ▸ List.prefix_append line rest) with hbegin | hbegin
      · rw [hline.eq_of_begins hcs hbegin]
      · exact hbegin
    obtain ⟨more, rfl⟩ := hbegin
    rw [List.append_assoc, afterDelimiter?_complete hline] at h
    exact nomatch h
  · have hmem : '\n' ∈ cs ++ other := List.mem_append_left other hcs.mem
    rw [hcut] at hmem
    exact absurd hmem (by decide)

/-! ### Where the body begins -/

/-- The closing delimiter is found whatever follows its line, or nothing follows it. -/
theorem splitClosing?_cut (h : splitClosing? cs = some (block, body)) :
    (∃ front, cs = front ++ body ∧ EndsLine front ∧
        ∀ other, splitClosing? (front ++ other) = some (block, other)) ∨
      body = [] ∧ ∃ lines, cs = lines ++ "---".toList ∧ EndsLine lines := by
  induction cs generalizing block with
  | nil => exact nomatch h
  | cons c rest ih =>
    rw [splitClosing?] at h
    cases hafter : (if c = '\n' then afterDelimiter? rest else none) with
    | some found =>
      rw [hafter] at h
      obtain ⟨rfl, rfl⟩ := Prod.mk.inj (Option.some.inj h)
      by_cases hc : c = '\n'
      · subst hc
        rw [if_pos rfl] at hafter
        rcases afterDelimiter?_sound hafter with ⟨line, hline, rfl⟩ | ⟨rfl, rfl⟩
        · refine .inl ⟨'\n' :: line, rfl, hline.endsLine.append ['\n'], fun other => ?_⟩
          rw [List.cons_append, splitClosing?, if_pos rfl, afterDelimiter?_complete hline]
        · exact .inr ⟨rfl, ['\n'], rfl, rfl⟩
      · rw [if_neg hc] at hafter
        exact nomatch hafter
    | none =>
      rw [hafter] at h
      obtain ⟨⟨block, body⟩, hsplit, hcut⟩ := Option.map_eq_some_iff.mp h
      obtain ⟨rfl, rfl⟩ := Prod.mk.inj hcut
      rcases ih hsplit with ⟨front, rfl, hfront, hother⟩ | ⟨rfl, lines, rfl, hlines⟩
      · refine .inl ⟨c :: front, rfl, hfront.append [c], fun other => ?_⟩
        have hafter' : (if c = '\n' then afterDelimiter? (front ++ other) else none) = none := by
          by_cases hc : c = '\n'
          · rw [if_pos hc] at hafter ⊢
            exact afterDelimiter?_eq_none hfront hafter other
          · exact if_neg hc
        rw [List.cons_append, splitClosing?, hafter', hother]
        rfl
      · exact .inr ⟨rfl, c :: lines, rfl, hlines.append [c]⟩

theorem closed?_cut (h : closed? cs = some (block, body)) :
    (∃ front, cs = front ++ body ∧ EndsLine front ∧
        ∀ other, closed? (front ++ other) = some (block, other)) ∨
      body = [] ∧ ∃ lines, cs = lines ++ "---".toList ∧ (lines = [] ∨ EndsLine lines) := by
  rw [closed?] at h
  cases hafter : afterDelimiter? cs with
  | some found =>
    rw [hafter] at h
    obtain ⟨rfl, rfl⟩ := Prod.mk.inj (Option.some.inj h)
    rcases afterDelimiter?_sound hafter with ⟨line, hline, rfl⟩ | ⟨rfl, rfl⟩
    · refine .inl ⟨line, rfl, hline.endsLine, fun other => ?_⟩
      rw [closed?, afterDelimiter?_complete hline]
    · exact .inr ⟨rfl, [], rfl, .inl rfl⟩
  | none =>
    rw [hafter] at h
    rcases splitClosing?_cut h with ⟨front, rfl, hfront, hother⟩ | ⟨rfl, lines, rfl, hlines⟩
    · refine .inl ⟨front, rfl, hfront, fun other => ?_⟩
      rw [closed?, afterDelimiter?_eq_none hfront hafter other]
      exact hother other
    · exact .inr ⟨rfl, lines, rfl, .inr hlines⟩

/-- Front matter ends with a line and is front matter whatever follows it, or it ends with the
    text. -/
theorem split_cut (h : (split cs).block = some block) :
    (∃ front, cs = front ++ (split cs).body ∧ EndsLine front ∧
        ∀ body, split (front ++ body) = ⟨some block, body, lineFeeds front + 1⟩) ∨
      (split cs).body = [] ∧ (split cs).bodyLine = lineFeeds cs + 1 ∧
        ∃ lines, cs = lines ++ "---".toList ∧ EndsLine lines := by
  have hsplit {cs block body : List Char}
      (h : (afterOpening? cs).bind closed? = some (block, body)) :
      split cs = ⟨some block, body, lineFeeds cs - lineFeeds body + 1⟩ := by
    rw [split, h]
  cases hbind : (afterOpening? cs).bind closed? with
  | none =>
    rw [split, hbind] at h
    exact nomatch h
  | some found =>
    obtain ⟨block', body⟩ := found
    rw [hsplit hbind] at h ⊢
    obtain rfl := Option.some.inj h
    obtain ⟨rest, hopening, hclosed⟩ := Option.bind_eq_some_iff.mp hbind
    obtain ⟨line, hline, rfl⟩ := afterOpening?_sound hopening
    rcases closed?_cut hclosed with ⟨front, rfl, hfront, hother⟩ | ⟨rfl, lines, rfl, hlines⟩
    · refine .inl ⟨line ++ front, (List.append_assoc ..).symm, hfront.append line, fun other => ?_⟩
      have hfound : (afterOpening? (line ++ front ++ other)).bind closed? =
          some (block', other) := by
        rw [List.append_assoc, afterOpening?_complete hline, Option.bind_some, hother]
      rw [hsplit hfound, lineFeeds_append _ other, Nat.add_sub_cancel]
    · refine .inr ⟨rfl, rfl, line ++ lines, (List.append_assoc ..).symm, ?_⟩
      rcases hlines with rfl | hlines
      · rw [List.append_nil]
        exact hline.endsLine
      · exact hlines.append line

end FrontMatter

/-! ### Links of the body -/

theorem Note.links_ofChars (policy : NamingPolicy) (cs : List Char) :
    (Note.ofChars policy cs).links = Link.ofChars cs := rfl

/-- The links of a note on the lines of its body are those that the body has on its own, further
    down by the lines of the front matter. -/
def Note.KeepsBodyLinks (content : List Char) : Prop :=
  ∀ policy, ((Note.ofChars policy content).links.filter fun link =>
      (FrontMatter.split content).bodyLine ≤ link.line) =
    (Link.ofChars (FrontMatter.split content).body).map
      (·.moved ((FrontMatter.split content).bodyLine - 1))

namespace FrontMatter

/-- Of a note with front matter either the body is empty and has no links; or the front matter plays
    no part in the links of any body exactly if it leaves open neither code nor brackets, and then
    the code of the body is that which the body has on its own. -/
theorem keepsBodyLinks_iff {content block : List Char} (h : (split content).block = some block) :
    ((split content).body = [] ∧ Note.KeepsBodyLinks content) ∨
      ∃ front, content = front ++ (split content).body ∧
        (∀ body, split (front ++ body) = ⟨some block, body, lineFeeds front + 1⟩) ∧
        ((∀ body, Note.KeepsBodyLinks (front ++ body)) ↔ Link.KeepsLinks front) ∧
        (Link.KeepsLinks front → ∀ body, CodeSpan.findAll (front ++ body) =
          CodeSpan.findAll front ++
            (CodeSpan.findAll body).map (·.moved (byteLength front) (lineFeeds front))) := by
  rcases split_cut h with ⟨front, hcut, hfront, hsplit⟩ | ⟨hbody, hbodyLine, lines, hcut, hlines⟩
  · refine .inr ⟨front, hcut, hsplit, ?_, fun hkeeps => hkeeps.findAll_append⟩
    have hfollow (body : List Char) :
        Note.KeepsBodyLinks (front ++ body) ↔ Link.Follow front body := by
      simp only [Note.KeepsBodyLinks, hsplit, Link.Follow, Nat.add_sub_cancel, Nat.succ_le_iff]
      exact ⟨fun h => h {}, fun h _ => h⟩
    simp only [hfollow, Link.keepsLinks_iff hfront]
  · refine .inl ⟨hbody, fun policy => ?_⟩
    have hfeeds : lineFeeds content = lineFeeds lines := by
      rw [hcut, lineFeeds_append]
      rfl
    rw [hbody, hbodyLine, hfeeds]
    refine List.filter_eq_nil_iff.mpr fun link hlink => ?_
    have hlink : link ∈ Link.outside (CodeSpan.findAll content) content := hlink
    rw [hcut] at hlink
    have hle := Link.line_le_of_mem_outside hlines (by decide) hlink
    rw [decide_eq_true_eq]
    omega

/-- Front matter with a link of its own and nothing left open keeps the links of any body. -/
theorem keepsBodyLinks_iff_parent :
    let front := "---\nup: \"[[Parent]]\"\n---\n".toList
    (split (front ++ "[[Note]]".toList)).block = some "up: \"[[Parent]]\"".toList ∧
      Link.KeepsLinks front ∧ ∀ body, Note.KeepsBodyLinks (front ++ body) := by
  intro front
  have hblock : (split (front ++ "[[Note]]".toList)).block =
      some "up: \"[[Parent]]\"".toList := by decide +kernel
  have hbody : (split (front ++ "[[Note]]".toList)).body = "[[Note]]".toList := by decide +kernel
  have hkeeps : Link.KeepsLinks front :=
    ⟨⟨by decide, by decide +kernel, by decide +kernel⟩, by decide +kernel⟩
  clear_value front
  refine ⟨hblock, hkeeps, ?_⟩
  rcases keepsBodyLinks_iff hblock with ⟨hnil, -⟩ | ⟨front', hcut, -, hiff, -⟩
  · exact absurd (hbody.symm.trans hnil) (by decide)
  · rw [hbody] at hcut
    rw [List.append_cancel_right hcut] at hkeeps ⊢
    exact hiff.mpr hkeeps

/-- A pair of backticks in the front matter and the first one of the body make code of what is
    between them.  The link of the body, which it has in code, then stands outside. -/
theorem body_link_in_code :
    let content := "---\na: b ``c\n---\n``[[x]]``".toList
    split content = ⟨some "a: b ``c".toList, "``[[x]]``".toList, 4⟩ ∧
      Link.ofChars "``[[x]]``".toList = [] ∧
      (∀ policy, (Note.ofChars policy content).links = [⟨"x", none, none, false, 4⟩]) ∧
      ¬ Note.KeepsBodyLinks content := by
  intro content
  have hsplit : split content = ⟨some "a: b ``c".toList, "``[[x]]``".toList, 4⟩ := by
    decide +kernel
  have hquoted : Link.ofChars "``[[x]]``".toList = [] := by decide +kernel
  have hlinks : Link.ofChars content = [⟨"x", none, none, false, 4⟩] := by decide +kernel
  refine ⟨hsplit, hquoted, fun policy => (Note.links_ofChars policy content).trans hlinks, ?_⟩
  -- From here on only what was found about the content plays a part.
  clear_value content
  intro hkeeps
  have hnone := hkeeps {}
  rw [Note.links_ofChars, hlinks, hsplit, hquoted] at hnone
  exact absurd hnone (by decide)

end FrontMatter

end WikiNotes
