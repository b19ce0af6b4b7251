import WikiNotes.Proofs.Note.CodeSpan

/-! # Code as intervals of a text

Fenced blocks are found line by line, and code between backticks character by character, yet all
spans start and stop at positions of one text (`in_of_mem_findAll`): their offsets fall between
characters and their lines count the line feeds in front of these.  The spans are intervals of the
text that are not empty and lie one behind the other (`ofText_intervals`). -/

namespace WikiNotes

open Text

namespace CodeSpan

/-! ### Spans lie in their text -/

/-- A span from one position of a text to another. -/
structure In (span : CodeSpan) (cs : List Char) : Prop where
  start_in : Position.In ⟨span.start, span.startLine⟩ cs
  stop_in : Position.In ⟨span.stop, span.stopLine⟩ cs

theorem in_of_mem_inlineCode {pattern : List Char → Option (Match Unit)} (h : Proper pattern)
    {cs : List Char} {span : CodeSpan} (hspan : span ∈ inlineCode pattern cs) : span.In cs := by
  obtain ⟨f, hf, rfl⟩ := List.mem_map.mp hspan
  obtain ⟨a, m, b, rfl, -, -, hstart, hstop⟩ := h.exists_of_mem hf
  exact ⟨⟨a, ⟨m ++ b, by simp⟩, hstart⟩, ⟨a ++ m, ⟨b, rfl⟩, hstop⟩⟩

theorem in_of_mem_fencedFrom {cs before : List Char} {lines : List (List Char)}
    {fence? : Option Fence} (hcs : cs = before ++ lines.flatten)
    (hfence : ∀ fence ∈ fence?, fence.opened.In cs) {span : CodeSpan}
    (h : span ∈ fencedFrom fence? (Position.start.advance before) lines) : span.In cs := by
  induction lines generalizing before fence? with
  | nil =>
    cases fence? with
    | none => exact nomatch h
    | some fence =>
      obtain rfl := List.mem_singleton.mp h
      exact ⟨hfence fence rfl, before, ⟨[], by simp [hcs]⟩, rfl⟩
  | cons raw lines ih =>
    have hcs' : cs = (before ++ raw) ++ lines.flatten := by simp [hcs]
    cases fence? with
    | none =>
      rw [fencedFrom_none_cons, ← Position.advance_append] at h
      refine ih hcs' (fun fence hopen => ?_) h
      obtain ⟨found, -, rfl⟩ := Option.map_eq_some_iff.mp hopen
      exact ⟨before, ⟨(raw :: lines).flatten, hcs.symm⟩, rfl⟩
    | some fence =>
      rw [fencedFrom_some_cons, ← Position.advance_append, ← Position.advance_append] at h
      split at h
      case isFalse => exact ih hcs' hfence h
      case isTrue =>
        obtain rfl | h := List.mem_cons.mp h
        · -- A block stops in front of the end of its last line.
          obtain ⟨trail, htrail⟩ : dropEndWhile isLineEnd raw <+: raw := dropEndWhile_prefix ..
          refine ⟨hfence fence rfl, _, ⟨trail ++ lines.flatten, ?_⟩, rfl⟩
          rw [List.append_assoc, ← List.append_assoc _ trail, htrail, hcs', List.append_assoc]
        · exact ih hcs' (by simp) h

theorem in_of_mem_fencedBlocks {cs : List Char} {span : CodeSpan} (h : span ∈ fencedBlocks cs) :
    span.In cs := by
  have hcs : cs = [] ++ (splitLines cs).flatten := (splitLines_flatten cs).symm
  exact in_of_mem_fencedFrom hcs (by simp) h

theorem in_of_mem_findAll {cs : List Char} {span : CodeSpan} (h : span ∈ findAll cs) :
    span.In cs := by
  rcases mem_findAll.mp h with h | ⟨h, -⟩ | ⟨h, -⟩
  · exact in_of_mem_fencedBlocks h
  · exact in_of_mem_inlineCode proper_doubleSpan? h
  · exact in_of_mem_inlineCode proper_singleSpan? h

/-! ### Bytes of a text -/

theorem utf8ByteSize_eq (text : String) : text.utf8ByteSize = byteLength text.toList := by
  obtain ⟨cs, rfl⟩ : ∃ cs, text = String.ofList cs := ⟨text.toList, String.ofList_toList.symm⟩
  rw [String.toList_ofList]
  induction cs with
  | nil => rfl
  | cons c cs ih => simp [byteLength_cons, ← ih]

/-- A byte offset cuts a text between characters, and in front of it are as many line feeds as its
    line tells. -/
structure CutsAt (content : String) (offset line : Nat) : Prop where
  /-- The offset does not fall inside a character. -/
  isValid : String.Pos.Raw.IsValid content ⟨offset⟩
  /-- The line is one more than the line feeds in front. -/
  line_eq (front behind : String) : content = front ++ behind → front.utf8ByteSize = offset →
    line = front.toList.count '\n' + 1

theorem cutsAt_of_in {content : String} {p : Position} (h : p.In content.toList) :
    CutsAt content p.offset p.line where
  isValid := by
    obtain ⟨a, ⟨rest, hcut⟩, rfl⟩ := h
    refine String.Pos.Raw.isValid_iff_exists_append.mpr
      ⟨String.ofList a, String.ofList rest, ?_, ?_⟩
    · rw [← String.ofList_append, hcut, String.ofList_toList]
    · rw [String.rawEndPos, utf8ByteSize_eq, String.toList_ofList, offset_advance_start]
  line_eq front behind hcut hsize := by
    obtain ⟨a, ⟨rest, ha⟩, rfl⟩ := h
    -- Two beginnings of one text that have as many bytes are the same.
    have hcut' : a ++ rest = front.toList ++ behind.toList := by
      rw [ha, hcut, String.toList_append]
    have hbytes : byteLength a = byteLength front.toList := by
      rw [← utf8ByteSize_eq, hsize, offset_advance_start]
    have hlength : a.length = front.toList.length :=
      Nat.le_antisymm ((byteLength_le_iff hcut').mp (Nat.le_of_eq hbytes))
        ((byteLength_le_iff hcut'.symm).mp (Nat.le_of_eq hbytes.symm))
    rw [← (List.append_inj hcut' hlength).1]
    exact Nat.add_comm ..

/-! ### All spans -/

/-- Whatever is found as code shares a byte with a span that is kept, if it is not kept itself. -/
theorem any_overlaps_of_found {cs : List Char} {span : CodeSpan}
    (h : span ∈ fencedBlocks cs ∨ span ∈ inlineCode doubleSpan? cs ∨
      span ∈ inlineCode singleSpan? cs) : (findAll cs).any span.overlaps = true := by
  by_contra hnone
  rw [Bool.not_eq_true, any_overlaps_eq_false_iff] at hnone
  have hfenced : ∀ b ∈ fencedBlocks cs, Apart span b := fun b hb =>
    hnone b (mem_findAll.mpr (.inl hb))
  have hdouble : ∀ b ∈ inlineCode doubleSpan? cs,
      (∀ c ∈ fencedBlocks cs, Apart b c) → Apart span b := fun b hb hapart =>
    hnone b (mem_findAll.mpr (.inr (.inl ⟨hb, hapart⟩)))
  have hspan : span ∈ findAll cs := by
    rw [mem_findAll]
    rcases h with h | h | h
    · exact .inl h
    · exact .inr (.inl ⟨h, hfenced⟩)
    · exact .inr (.inr ⟨h, hfenced, hdouble⟩)
  -- A span that is kept is not empty, so it does not lie apart from itself.
  have hne := start_lt_stop hspan
  have hself : span.stop ≤ span.start ∨ span.stop ≤ span.start := hnone span hspan
  omega

/-- The code of a text is a list of intervals of it, in order: each has at least one byte and ends
    within the text, no later one starts before its end, and at both ends it cuts the text between
    characters and tells the line there.  Nothing that is found as code lies apart from all of
    them. -/
theorem ofText_intervals (content : String) :
    let spans := ofText content
    let cs := content.toList
    spans.Pairwise (fun a b => a.start < b.start) ∧ spans.Pairwise (fun a b => a.stop ≤ b.start) ∧
      (∀ span ∈ spans, span.start < span.stop ∧ span.stop ≤ content.utf8ByteSize ∧
        CutsAt content span.start span.startLine ∧ CutsAt content span.stop span.stopLine) ∧
      ∀ span ∈ fencedBlocks cs ++ inlineCode doubleSpan? cs ++ inlineCode singleSpan? cs,
        spans.any span.overlaps = true := by
  intro spans cs
  have hpairwise : spans.Pairwise fun a b => a.stop ≤ b.start := pairwise_findAll cs
  refine ⟨?_, hpairwise, fun span hspan => ?_, fun span hfound => any_overlaps_of_found ?_⟩
  · refine hpairwise.imp_of_mem fun ha _ hle => ?_
    exact Nat.lt_of_lt_of_le (start_lt_stop ha) hle
  · have hin : span.In cs := in_of_mem_findAll hspan
    have hstop := cutsAt_of_in hin.stop_in
    exact ⟨start_lt_stop hspan, hstop.isValid.le_rawEndPos, cutsAt_of_in hin.start_in, hstop⟩
  · rwa [List.mem_append, List.mem_append, or_assoc] at hfound

example :
    ofText "é ``a\nb``\r\n\n~~~\r\nc\r\n~~~ \r\nd `e`\n```" =
      [⟨3, 10, 1, 2, false⟩, ⟨13, 25, 4, 6, true⟩, ⟨29, 32, 7, 7, false⟩,
        ⟨33, 36, 8, 8, true⟩] := by
  decide +kernel

end CodeSpan

end WikiNotes
