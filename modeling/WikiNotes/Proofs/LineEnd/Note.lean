import WikiNotes.Note.Document
import WikiNotes.Proofs.LineEnd.Code
import WikiNotes.Proofs.Note.FrontMatterLines
import WikiNotes.Proofs.Note.Heading
import WikiNotes.Proofs.Note.Tag
import WikiNotes.Proofs.Note.WrittenLink

/-! # Notes with carriage returns

A note reads the same with line feeds and with carriage returns in front of them.  Each parser has a
rule of its own for the returns: a line loses them at its end (`Heading.fromLines_crlf`), they are
blanks in front of a tag and behind it (`Tag.standing?_crlf`), any characters inside a link
(`Link.linkAt?_crlf`), and part of a delimiter (`FrontMatter.isDelimiterLine_crlf`).  What is read
differs by the returns inside links only (`Note.ofText_crlf`). -/

namespace WikiNotes

open Text

/-- A text with a carriage return in front of every line feed. -/
def Text.crlfText (s : String) : String := String.ofList (crlf s.toList)

theorem Text.toList_crlfText (s : String) : (crlfText s).toList = crlf s.toList :=
  String.toList_ofList

/-! ### Headings -/

namespace Heading

/-- A line without its end has no return of the line end left. -/
theorem withoutLineEnd_crlf {cs raw : List Char} (hreturn : '\r' ∉ cs)
    (hraw : raw ∈ splitLines cs) : withoutLineEnd (crlf raw) = withoutLineEnd raw := by
  have hpart : '\r' ∉ raw := not_mem_of_mem_splitLines hreturn hraw
  obtain ⟨line, hbreak, rfl | rfl⟩ := line_of_mem_splitLines hraw
  · rw [crlf_of_not_mem hbreak]
  · have hlast : line.getLast? ≠ some '\r' := fun hlast =>
      hpart (List.mem_append_left _ (List.mem_of_getLast? hlast))
    rw [withoutLineEnd_append hlast, crlf_append, crlf_of_not_mem hbreak]
    simp [withoutLineEnd]

theorem fromLines_crlf {code code' : List CodeSpan}
    (hcode : ∀ l, CodeSpan.coversLine code' l = CodeSpan.coversLine code l)
    {lines : List (List Char)}
    (hlines : ∀ raw ∈ lines, withoutLineEnd (crlf raw) = withoutLineEnd raw) (firstLine : Nat)
    (seen : SortedMap String Nat) (number : Nat) :
    fromLines code' firstLine seen number (lines.map crlf) =
      fromLines code firstLine seen number lines := by
  induction lines generalizing seen number with
  | nil => rfl
  | cons raw lines ih =>
    obtain ⟨hraw, hlines⟩ := List.forall_mem_cons.mp hlines
    simp only [List.map_cons, fromLines, hcode, hraw, ih hlines]

theorem outside_crlf {body : List Char} (hreturn : '\r' ∉ body) (firstLine : Nat) :
    outside (CodeSpan.findAll (crlf body)) firstLine (crlf body) =
      outside (CodeSpan.findAll body) firstLine body := by
  rw [outside, splitLines_crlf]
  exact fromLines_crlf (CodeSpan.coversLine_crlf body)
    (fun _ hraw => withoutLineEnd_crlf hreturn hraw) ..

end Heading

/-! ### Tags -/

namespace Tag

variable {a b cs : List Char} {c : Char}

theorem opens_iff (a rest : List Char) :
    (a.length = 0 ∨ ∃ c ∈ (a ++ rest)[a.length - 1]?, isBlank c = true) ↔
      ∀ c ∈ a.getLast?, isBlank c = true := by
  rcases List.eq_nil_or_concat a with rfl | ⟨front, c, rfl⟩
  · simp
  · simp

theorem runBehind_eq (a b : List Char) (c : Char) :
    runBehind (a ++ c :: b) a.length = b.takeWhile isTagChar := by
  have hcut : a ++ c :: b = (a ++ [c]) ++ b := by simp
  rw [runBehind, hcut, List.drop_left' (by simp)]

/-- Where a tag stands, told by what is in front of the place and behind it. -/
theorem standsAt_split_iff :
    StandsAt (a ++ c :: b) a.length ↔ c = '#' ∧ (∀ d ∈ a.getLast?, isBlank d = true) ∧
      (∃ d ∈ b.takeWhile isTagChar, d ≠ '/' ∧ d ≠ '-') ∧
      ∀ d ∈ (b.dropWhile isTagChar).head?, endsTag d = true := by
  have hcut : a ++ c :: b = (a ++ [c]) ++ b := by simp
  have hchar : (a ++ c :: b)[a.length]? = some c := by simp
  have hbehind : (a ++ c :: b).drop (a.length + 1) = b := by
    rw [hcut, List.drop_left' (by simp)]
  rw [standsAt_iff, opens_iff, getElem?_behind_run, hbehind, runBehind_eq, hchar, Option.some.injEq]

/-- The same tag stands at a place of a text and at that place of it with carriage returns. -/
theorem standing?_crlf (hc : c ≠ '\n') :
    standing? (CodeSpan.findAll (crlf (a ++ c :: b))) (crlf (a ++ c :: b)) (crlf a).length =
      standing? (CodeSpan.findAll (a ++ c :: b)) (a ++ c :: b) a.length := by
  have htext : crlf (a ++ c :: b) = crlf a ++ c :: crlf b := by rw [crlf_append, crlf_cons hc]
  have hrun : (crlf b).takeWhile isTagChar = b.takeWhile isTagChar := by
    rw [takeWhile_crlf (by decide), crlf_of_not_mem]
    exact fun hmem => absurd (List.mem_takeWhile_imp hmem) (by decide)
  have hnext : (∀ d ∈ ((crlf b).dropWhile isTagChar).head?, endsTag d = true) ↔
      ∀ d ∈ (b.dropWhile isTagChar).head?, endsTag d = true := by
    rw [dropWhile_crlf (by decide), head?_crlf]
    cases (b.dropWhile isTagChar).head? with
    | none => simp
    | some d =>
      by_cases hd : d = '\n'
      · have hends : endsTag '\r' = true ∧ endsTag '\n' = true := by decide
        simp [hd, hends]
      · simp [hd]
  have hcovers : CodeSpan.covers (CodeSpan.findAll (crlf (a ++ c :: b))) (byteLength (crlf a)) =
      CodeSpan.covers (CodeSpan.findAll (a ++ c :: b)) (byteLength a) := by
    have hplace : (Position.start.advance a).In (a ++ c :: b) := ⟨a, List.prefix_append .., rfl⟩
    have hcode := CodeSpan.covers_crlf hplace
    rwa [Position.crlf_start_advance, CodeSpan.offset_advance_start,
      CodeSpan.offset_advance_start] at hcode
  have hstands : StandsAt (crlf (a ++ c :: b)) (crlf a).length ↔ StandsAt (a ++ c :: b) a.length := by
    rw [htext, standsAt_split_iff, standsAt_split_iff, getLast?_crlf, hrun, hnext]
  have htoken : runBehind (crlf (a ++ c :: b)) (crlf a).length =
      runBehind (a ++ c :: b) a.length := by
    rw [htext, runBehind_eq, runBehind_eq, hrun]
  have htake : (crlf (a ++ c :: b)).take (crlf a).length = crlf a := by
    rw [htext, List.take_left' rfl]
  rw [standing?, standing?, htake, List.take_left' rfl, hcovers, htoken]
  exact if_congr (and_congr_left' hstands) rfl rfl

/-- At a line end no tag stands. -/
theorem standing?_other {code : List CodeSpan} (hc : c ≠ '#') :
    standing? code (a ++ c :: b) a.length = none :=
  standing?_eq_none (by simp [hc])

/-- The tags from some place on are those from that place on with carriage returns. -/
theorem filterMap_standing_crlf (hcs : cs = a ++ b) :
    (List.range' (crlf a).length (crlf b).length).filterMap
        (standing? (CodeSpan.findAll (crlf cs)) (crlf cs)) =
      (List.range' a.length b.length).filterMap (standing? (CodeSpan.findAll cs) cs) := by
  induction b generalizing a with
  | nil => rfl
  | cons c b ih =>
    have hrest := ih (a := a ++ [c]) (by simp [hcs])
    rw [crlf_append, List.length_append, List.length_append, List.length_singleton] at hrest
    rw [List.length_cons, List.range'_succ, List.filterMap_cons]
    by_cases hc : c = '\n'
    · -- One place without a tag on one side, two on the other.
      subst hc
      have hcut : crlf cs = (crlf a ++ ['\r']) ++ '\n' :: crlf b := by simp [hcs]
      have hfeed : standing? (CodeSpan.findAll cs) cs a.length = none := by
        rw [hcs]
        exact standing?_other (by decide)
      have hreturn : standing? (CodeSpan.findAll (crlf cs)) (crlf cs) (crlf a).length = none := by
        rw [hcut, List.append_assoc]
        exact standing?_other (by decide)
      have hbehind : standing? (CodeSpan.findAll (crlf cs)) (crlf cs) ((crlf a).length + 1) =
          none := by
        have hlength : (crlf a).length + 1 = (crlf a ++ ['\r']).length := by simp
        rw [hcut, hlength]
        exact standing?_other (by decide)
      rw [crlf_feed, List.length_cons, List.length_cons, List.range'_succ, List.range'_succ,
        List.filterMap_cons, List.filterMap_cons, hfeed, hreturn, hbehind]
      exact hrest
    · have hhead : standing? (CodeSpan.findAll (crlf cs)) (crlf cs) (crlf a).length =
          standing? (CodeSpan.findAll cs) cs a.length := by
        rw [hcs]
        exact standing?_crlf hc
      rw [crlf_cons hc] at hrest
      rw [crlf_cons hc, List.length_cons, List.range'_succ, List.filterMap_cons, hhead, ← hrest]
      rfl

/-- Tags stand at the same places. -/
theorem outside_crlf (cs : List Char) :
    outside (CodeSpan.findAll (crlf cs)) (crlf cs) = outside (CodeSpan.findAll cs) cs := by
  rw [outside_eq_standing, outside_eq_standing, List.range_eq_range', List.range_eq_range']
  exact filterMap_standing_crlf (a := []) rfl

end Tag

/-! ### Links -/

namespace Link

/-- A link as written, with carriage returns in its parts. -/
def Written.crlf (w : Written) : Written :=
  ⟨w.embed, Text.crlf w.target, w.heading.map Text.crlf, w.label.map Text.crlf⟩

/-- A link with carriage returns in its target, heading and label. -/
def crlf (link : Link) : Link :=
  { link with
    target := crlfText link.target
    heading := link.heading.map crlfText
    label := link.label.map crlfText }

theorem optionalPart_crlf {mark : Char} {allowed : Char → Bool} (hfeed : mark ≠ '\n')
    (hreturn : mark ≠ '\r') (hallowed : allowed '\r' = allowed '\n') (cs : List Char) :
    optionalPart mark allowed (Text.crlf cs) =
      ((optionalPart mark allowed cs).1.map Text.crlf,
        Text.crlf (optionalPart mark allowed cs).2) := by
  match cs with
  | [] => rfl
  | c :: cs =>
    by_cases hc : c = '\n'
    · subst hc
      simp [optionalPart, Ne.symm hfeed, Ne.symm hreturn]
    · rw [crlf_cons hc]
      simp only [optionalPart, takeWhile_crlf hallowed, dropWhile_crlf hallowed]
      by_cases hmark : c = mark
      · by_cases hpart : cs.takeWhile allowed = []
        · simp [hpart, crlf_cons hc]
        · simp [hmark, hpart, crlf_eq_nil_iff]
      · simp [hmark, crlf_cons hc]

/-- Brackets close with carriage returns as they do without. -/
theorem bracketed?_crlf (embed : Bool) (cs : List Char) :
    bracketed? embed (Text.crlf cs) =
      (bracketed? embed cs).map fun (w, rest) => (w.crlf, Text.crlf rest) := by
  have htarget : isTargetChar '\r' = isTargetChar '\n' := by decide
  have hheading (cs : List Char) : optionalPart '#' isHeadingChar (Text.crlf cs) =
      ((optionalPart '#' isHeadingChar cs).1.map Text.crlf,
        Text.crlf (optionalPart '#' isHeadingChar cs).2) :=
    optionalPart_crlf (by decide) (by decide) (by decide) cs
  have hlabel (cs : List Char) : optionalPart '|' (· != ']') (Text.crlf cs) =
      ((optionalPart '|' (· != ']') cs).1.map Text.crlf,
        Text.crlf (optionalPart '|' (· != ']') cs).2) :=
    optionalPart_crlf (by decide) (by decide) (by decide) cs
  simp only [bracketed?, takeWhile_crlf htarget, dropWhile_crlf htarget, hheading, hlabel,
    crlf_eq_nil_iff]
  generalize optionalPart '#' isHeadingChar (cs.dropWhile isTargetChar) = heading
  generalize optionalPart '|' (· != ']') heading.2 = label
  split
  case h_1 rest hclose =>
    obtain ⟨more, hmore, hrest⟩ := exists_of_crlf_eq_cons (by decide) hclose
    obtain ⟨more, rfl, rfl⟩ := exists_of_crlf_eq_cons (by decide) hrest.symm
    rw [hmore]
    split <;> rfl
  case h_2 hopen =>
    split
    case h_1 rest hclose =>
      rw [hclose] at hopen
      exact absurd rfl (hopen (Text.crlf rest))
    case h_2 => rfl

/-- What is behind opening brackets is read with carriage returns as it is without. -/
theorem map_bracketed?_crlf (embed : Bool) (front more : List Char) :
    ((bracketed? embed (Text.crlf more)).map fun (w, rest) =>
        (⟨w, (Text.crlf (front ++ more)).length - rest.length⟩ : Match Written)) =
      ((bracketed? embed more).map fun (w, rest) =>
        (⟨w, (front ++ more).length - rest.length⟩ : Match Written)).map
          fun m => ⟨m.value.crlf, (Text.crlf ((front ++ more).take m.length)).length⟩ := by
  rw [bracketed?_crlf, Option.map_map, Option.map_map]
  cases hread : bracketed? embed more with
  | none => rfl
  | some found =>
    obtain ⟨w, rest⟩ := found
    obtain ⟨-, -, hmore⟩ := bracketed?_eq_some_iff.mp hread
    have hcut : front ++ more = (front ++ w.body ++ [']', ']']) ++ rest := by simp [hmore]
    have hlength : (front ++ more).length - rest.length =
        (front ++ w.body ++ [']', ']']).length := by
      rw [hcut, List.length_append, Nat.add_sub_cancel]
    have hlength' : (Text.crlf (front ++ more)).length - (Text.crlf rest).length =
        (Text.crlf (front ++ w.body ++ [']', ']'])).length := by
      rw [hcut, crlf_append _ rest, List.length_append, Nat.add_sub_cancel]
    simp only [Option.map_some, Function.comp_apply, hlength, hlength']
    rw [hcut, List.take_left' rfl]

theorem linkAt?_crlf (cs : List Char) :
    linkAt? (Text.crlf cs) =
      (linkAt? cs).map fun m => ⟨m.value.crlf, (Text.crlf (cs.take m.length)).length⟩ := by
  rw [linkAt?.eq_def]
  dsimp only
  split
  case h_1 rest hopen =>
    obtain ⟨cs, rfl, hcs⟩ := exists_of_crlf_eq_cons (by decide) hopen
    obtain ⟨cs, rfl, hcs'⟩ := exists_of_crlf_eq_cons (by decide) hcs.symm
    obtain ⟨more, rfl, rfl⟩ := exists_of_crlf_eq_cons (by decide) hcs'.symm
    exact map_bracketed?_crlf true ['!', '[', '['] more
  case h_2 rest hopen =>
    obtain ⟨cs, rfl, hcs⟩ := exists_of_crlf_eq_cons (by decide) hopen
    obtain ⟨more, rfl, rfl⟩ := exists_of_crlf_eq_cons (by decide) hcs.symm
    exact map_bracketed?_crlf false ['[', '['] more
  case h_3 hembed hplain =>
    have hnone : linkAt? cs = none := by
      unfold linkAt?
      split
      case h_1 rest => exact absurd rfl (hembed (Text.crlf rest))
      case h_2 rest => exact absurd rfl (hplain (Text.crlf rest))
      case h_3 => rfl
    rw [hnone]
    rfl

theorem mindsNoReturns_linkAt? : MindsNoReturns linkAt? Written.crlf where
  proper := proper_linkAt?
  not_at_feed := fun _ => rfl
  not_at_return := fun _ => rfl
  reads := by
    intro c hc cs
    rw [← crlf_cons hc]
    exact linkAt?_crlf (c :: cs)

theorem trimmed?_crlf (cs : List Char) : trimmed? (Text.crlf cs) = (trimmed? cs).map crlfText := by
  simp only [trimmed?, trimChars_crlf]
  by_cases hblank : trimChars cs = []
  · simp [hblank]
  · simp [hblank, crlf_eq_nil_iff, crlfText]

theorem ofFound?_crlf (found : Found Written) :
    ofFound? (found.crlf Written.crlf) = (ofFound? found).map crlf := by
  have hlabels (part : Option (List Char)) :
      (part.map Text.crlf).map String.ofList = (part.map String.ofList).map crlfText := by
    cases part <;> simp [crlfText]
  have hheadings (part : Option (List Char)) :
      (part.map Text.crlf).bind trimmed? = (part.bind trimmed?).map crlfText := by
    cases part <;> simp [trimmed?_crlf]
  simp only [ofFound?, Found.crlf, Written.crlf, trimmed?_crlf, hlabels, hheadings]
  cases trimmed? found.value.target <;> rfl

/-- Links are found where they are found without the returns, with these in their parts. -/
theorem ofChars_crlf (cs : List Char) : ofChars (Text.crlf cs) = (ofChars cs).map crlf := by
  have hcovers : ∀ found ∈ Text.findAll linkAt? cs,
      CodeSpan.covers (CodeSpan.findAll (Text.crlf cs)) (found.crlf Written.crlf).start.offset =
        CodeSpan.covers (CodeSpan.findAll cs) found.start.offset := by
    intro found hfound
    obtain ⟨a, hplace, -, hstands⟩ := exists_foundAt hfound
    refine CodeSpan.covers_crlf ⟨a, (List.prefix_append ..).trans hstands, ?_⟩
    rw [hplace]
    rfl
  have hread : ofFound? ∘ Found.crlf Written.crlf = fun found => (ofFound? found).map crlf :=
    funext ofFound?_crlf
  rw [ofChars, outside, mindsNoReturns_linkAt?.findAll_crlf, List.filter_map, List.filterMap_map,
    hread, ofChars, outside, List.map_filterMap]
  refine congrArg _ (List.filter_congr fun found hfound => ?_)
  rw [Function.comp_apply, hcovers found hfound]

end Link

/-! ### Front matter -/

namespace FrontMatter

variable {cs line : List Char}

theorem isDelimiterLine_crlf (hreturn : '\r' ∉ line) :
    IsDelimiterLine (crlf line) ↔ IsDelimiterLine line := by
  have hback := filter_crlf hreturn
  constructor
  · rintro (hline | hline)
    · rw [hline] at hback
      exact .inl hback.symm
    · rw [hline] at hback
      exact .inl hback.symm
  · rintro (rfl | rfl)
    · exact .inr rfl
    · exact absurd (by decide) hreturn

theorem isClosingLine_crlf (hreturn : '\r' ∉ line) :
    IsClosingLine (crlf line) ↔ IsClosingLine line := by
  refine or_congr ⟨fun hline => ?_, ?_⟩ (isDelimiterLine_crlf hreturn)
  · have hback := filter_crlf hreturn
    rw [hline] at hback
    exact hback.symm
  · rintro rfl
    rfl

theorem hasFrontMatter_crlf (hreturn : '\r' ∉ cs) :
    HasFrontMatter (crlf cs) ↔ HasFrontMatter cs := by
  have hlines {line : List Char} (hline : line ∈ splitLines cs) : '\r' ∉ line :=
    not_mem_of_mem_splitLines hreturn hline
  rw [HasFrontMatter, splitLines_crlf]
  constructor
  · rintro ⟨opening, lines, hmap, hopening, line, hline, hclosing⟩
    obtain ⟨opening, lines, hcs, rfl, rfl⟩ := List.map_eq_cons_iff.mp hmap
    obtain ⟨line, hmem, rfl⟩ := List.mem_map.mp hline
    rw [isDelimiterLine_crlf (hlines (by simp [hcs]))] at hopening
    rw [isClosingLine_crlf (hlines (by simp [hcs, hmem]))] at hclosing
    exact ⟨opening, lines, hcs, hopening, line, hmem, hclosing⟩
  · rintro ⟨opening, lines, hcs, hopening, line, hline, hclosing⟩
    refine ⟨crlf opening, lines.map crlf, by rw [hcs, List.map_cons], ?_, crlf line,
      List.mem_map_of_mem hline, ?_⟩
    · exact (isDelimiterLine_crlf (hlines (by simp [hcs]))).mpr hopening
    · exact (isClosingLine_crlf (hlines (by simp [hcs, hline]))).mpr hclosing

/-- Delimiters and what stands between them are the same lines. -/
theorem Delimited.crlf {opening closing : List Char} {between after : List (List Char)}
    (h : Delimited cs opening between closing after) (hreturn : '\r' ∉ cs) :
    Delimited (Text.crlf cs) (Text.crlf opening) (between.map Text.crlf) (Text.crlf closing)
      (after.map Text.crlf) where
  lines := by simp [splitLines_crlf, h.lines]
  opens := (isDelimiterLine_crlf (not_mem_of_mem_splitLines hreturn (by simp [h.lines]))).mpr h.opens
  closes := (isClosingLine_crlf (not_mem_of_mem_splitLines hreturn (by simp [h.lines]))).mpr h.closes
  first := by
    intro line hline
    obtain ⟨line, hmem, rfl⟩ := List.mem_map.mp hline
    rw [isClosingLine_crlf (not_mem_of_mem_splitLines hreturn (by simp [h.lines, hmem]))]
    exact h.first line hmem

/-- The line on which the body starts is told by the line feeds that it does not have. -/
theorem bodyLine_eq (cs : List Char) :
    (split cs).bodyLine = lineFeeds cs - lineFeeds (split cs).body + 1 := by
  rw [split]
  split
  · rfl
  · simp

/-- The body is where it was, with carriage returns in it. -/
theorem split_crlf (hreturn : '\r' ∉ cs) :
    (split (crlf cs)).body = crlf (split cs).body ∧
      (split (crlf cs)).bodyLine = (split cs).bodyLine := by
  have hbody : (split (crlf cs)).body = crlf (split cs).body := by
    by_cases h : HasFrontMatter cs
    · obtain ⟨opening, between, closing, after, hparts⟩ := hasFrontMatter_iff.mp h
      obtain ⟨block, -, -, hsplit⟩ := hparts.split_eq
      obtain ⟨block', -, -, hsplit'⟩ := (hparts.crlf hreturn).split_eq
      rw [hsplit, hsplit', crlf_flatten]
    · rw [split_of_not_hasFrontMatter h,
        split_of_not_hasFrontMatter ((hasFrontMatter_crlf hreturn).not.mpr h)]
  refine ⟨hbody, ?_⟩
  rw [bodyLine_eq, bodyLine_eq, hbody, lineFeeds_crlf, lineFeeds_crlf]

end FrontMatter

/-! ### Notes -/

/-- With a carriage return in front of every line feed a note has the same headings and tags, on the
    same lines, and the same links but for the returns in their parts. -/
theorem Note.ofText_crlf {content : String} (hreturn : '\r' ∉ content.toList) :
    Heading.ofText (crlfText content) = Heading.ofText content ∧
    Tag.ofText (crlfText content) = Tag.ofText content ∧
    ∀ policy,
      (Note.ofText policy (crlfText content)).headings = (Note.ofText policy content).headings ∧
      (Note.ofText policy (crlfText content)).links =
        (Note.ofText policy content).links.map Link.crlf := by
  simp only [Heading.ofText, Tag.ofText, Note.ofText, toList_crlfText]
  refine ⟨Heading.outside_crlf hreturn 1, Tag.outside_crlf _, fun policy => ⟨?_, ?_⟩⟩
  · obtain ⟨hbody, hline⟩ := FrontMatter.split_crlf hreturn
    have hbodyReturn : '\r' ∉ (FrontMatter.split content.toList).body := fun hmem =>
      hreturn ((FrontMatter.body_suffix _).subset hmem)
    simp only [Note.ofChars, hbody, hline]
    exact Heading.outside_crlf hbodyReturn _
  · exact Link.ofChars_crlf content.toList

/-- A link over two lines keeps the return that stands in it. -/
theorem Note.ofText_crlf_link :
    let content := "---\na: 1\n---\n# b\n#c [[d\ne#f|g\n]]"
    '\r' ∉ content.toList ∧ Tag.ofText (crlfText content) = ["c"] ∧
      (Note.ofText {} (crlfText content)).headings = [⟨"b", 1, 4, "b"⟩] ∧
      (Note.ofText {} (crlfText content)).links =
        [⟨"d\r\ne", some "f", some "g\r\n", false, 5⟩] := by
  intro content
  have hreturn : '\r' ∉ content.toList := by decide +kernel
  have htags : Tag.ofText content = ["c"] := by decide +kernel
  have hheadings : (Note.ofText {} content).headings = [⟨"b", 1, 4, "b"⟩] := by decide +kernel
  have hlinks : (Note.ofText {} content).links = [⟨"d\ne", some "f", some "g\n", false, 5⟩] := by
    decide +kernel
  obtain ⟨-, htags', hnote⟩ := Note.ofText_crlf hreturn
  obtain ⟨hheadings', hlinks'⟩ := hnote {}
  refine ⟨hreturn, htags'.trans htags, hheadings'.trans hheadings, ?_⟩
  rw [hlinks', hlinks]
  decide +kernel

end WikiNotes
