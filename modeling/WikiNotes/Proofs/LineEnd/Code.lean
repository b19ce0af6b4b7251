import WikiNotes.Proofs.LineEnd.Text
import WikiNotes.Proofs.Note.CodeInterval

/-! # Code in texts with carriage returns

Code is the same in a text with carriage returns: the patterns of backticks start at no line end and
read over the returns (`CodeSpan.mindsNoReturns_double`, `CodeSpan.mindsNoReturns_single`), and fences
are told by lines without their ends (`CodeSpan.fencedBlocks_crlf`).  The spans are further on by the
line feeds in front of them, in the same order and as far apart, so the same ones are kept
(`CodeSpan.findAll_crlf`). -/

namespace WikiNotes.CodeSpan

open Text

/-! ### Code between backticks -/

theorem doubleTail?_crlf (cs : List Char) :
    doubleTail? (Text.crlf cs) = (doubleTail? cs).map fun n => (Text.crlf (cs.take n)).length := by
  induction cs using doubleTail?.induct with
  | case1 => rfl
  | case2 c cs hc ih =>
    rw [doubleTail?_of_ne hc, Option.map_map]
    by_cases hfeed : c = '\n'
    · subst hfeed
      rw [crlf_feed, doubleTail?_of_ne (by decide), doubleTail?_of_ne hc, ih]
      simp [Function.comp_def]
    · rw [crlf_cons hfeed, doubleTail?_of_ne hc, ih]
      simp [Function.comp_def, crlf_cons hfeed]
  | case3 c hc =>
    obtain rfl := Decidable.not_not.mp hc
    rfl
  | case4 c hc cs =>
    obtain rfl := Decidable.not_not.mp hc
    rw [crlf_cons (by decide), crlf_cons (by decide), doubleTail?_pair, doubleTail?_pair]
    rfl
  | case5 c hc c' cs hc' ih =>
    obtain rfl := Decidable.not_not.mp hc
    have htick : tick ≠ '\n' := by decide
    rw [doubleTail?_tick_of_ne hc', Option.map_map, crlf_cons htick]
    by_cases hfeed : c' = '\n'
    · -- The backtick takes the return with it, the line feed comes next.
      subst hfeed
      rw [crlf_feed, doubleTail?_tick_of_ne (by decide), doubleTail?_of_ne hc', ih]
      simp [Function.comp_def, crlf_cons htick]
    · rw [crlf_cons hfeed, doubleTail?_tick_of_ne hc', ih]
      simp [Function.comp_def, crlf_cons hfeed, crlf_cons htick]

theorem doubleSpan?_of_ne {c : Char} (hc : c ≠ tick) (cs : List Char) :
    doubleSpan? (c :: cs) = none := by
  cases cs <;> simp [doubleSpan?, hc]

theorem doubleSpan?_tick_of_ne {c : Char} (hc : c ≠ tick) (cs : List Char) :
    doubleSpan? (tick :: c :: cs) = none := by
  simp [doubleSpan?, hc]

theorem mindsNoReturns_double : MindsNoReturns doubleSpan? id where
  proper := proper_doubleSpan?
  not_at_feed := doubleSpan?_of_ne (by decide)
  not_at_return := doubleSpan?_of_ne (by decide)
  reads := by
    intro c hfeed cs
    by_cases hc : c = tick
    · subst hc
      match cs with
      | [] => rfl
      | c' :: cs =>
        by_cases hc' : c' = tick
        · subst hc'
          rw [crlf_cons hfeed, doubleSpan?_pair, doubleSpan?_pair, doubleTail?_crlf]
          simp [Function.comp_def, crlf_cons hfeed]
        · rw [doubleSpan?_tick_of_ne hc']
          by_cases hfeed' : c' = '\n'
          · rw [hfeed', crlf_feed, doubleSpan?_tick_of_ne (by decide)]
            rfl
          · rw [crlf_cons hfeed', doubleSpan?_tick_of_ne hc']
            rfl
    · rw [doubleSpan?_of_ne hc, doubleSpan?_of_ne hc]
      rfl

/-- Whether a backtick opens single backtick code is told by what ends the stretch behind it. -/
theorem singleSpan?_stretch {code rest : List Char} (hcode : ∀ c ∈ code, c ≠ tick ∧ c ≠ '\n')
    (hrest : ∀ c, rest.head? = some c → c = tick ∨ c = '\n') :
    singleSpan? (tick :: (code ++ rest)) =
      if code ≠ [] ∧ rest.head? = some tick then some ⟨(), code.length + 2⟩ else none := by
  have hstretch : ∀ c ∈ code, decide (c ≠ tick ∧ c ≠ '\n') = true := fun c hc =>
    decide_eq_true (hcode c hc)
  have hstop : ∀ c, rest.head? = some c → decide (c ≠ tick ∧ c ≠ '\n') = false := fun c hc =>
    decide_eq_false fun hother => (hrest c hc).elim hother.1 hother.2
  simp only [singleSpan?, takeWhile_append_of_stop hstretch hstop, List.drop_left]
  simp

/-- Behind a backtick there is a stretch that a backtick, a line feed or the end of the text ends. -/
theorem exists_stretch (cs : List Char) :
    ∃ code rest, cs = code ++ rest ∧ (∀ c ∈ code, c ≠ tick ∧ c ≠ '\n') ∧
      ∀ c, rest.head? = some c → c = tick ∨ c = '\n' := by
  obtain ⟨code, rest, rfl, hcode, hstop⟩ :=
    exists_longest (fun c => decide (c ≠ tick ∧ c ≠ '\n')) cs
  refine ⟨code, rest, rfl, fun c hc => of_decide_eq_true (hcode c hc), fun c hc => ?_⟩
  have hother := of_decide_eq_false (hstop c hc)
  by_contra hnot
  exact hother (not_or.mp hnot)

theorem singleSpan?_crlf (cs : List Char) :
    singleSpan? (tick :: Text.crlf cs) =
      (singleSpan? (tick :: cs)).map fun m =>
        ⟨m.value, (Text.crlf ((tick :: cs).take m.length)).length⟩ := by
  obtain ⟨code, rest, rfl, hcode, hrest⟩ := exists_stretch cs
  have hbreak : '\n' ∉ code := fun hmem => (hcode _ hmem).2 rfl
  rw [crlf_append, crlf_of_not_mem hbreak, singleSpan?_stretch hcode hrest]
  match rest with
  | [] =>
    rw [crlf_nil, singleSpan?_stretch hcode (by simp)]
    simp
  | d :: rest =>
    obtain rfl | rfl := hrest d rfl
    · rw [crlf_cons (by decide), singleSpan?_stretch hcode (by simp)]
      have hcut : tick :: (code ++ tick :: rest) = (tick :: (code ++ [tick])) ++ rest := by simp
      have htake : (tick :: (code ++ tick :: rest)).take (code.length + 2) =
          tick :: (code ++ [tick]) := by
        rw [hcut]
        exact List.take_left' (by simp)
      have hspan : '\n' ∉ tick :: (code ++ [tick]) := by simp [hbreak, tick]
      by_cases hne : code = []
      · simp [hne]
      · simp [hne, htake, crlf_of_not_mem hspan]
    · -- The stretch takes the return with it and ends at the line feed.
      have hcut : code ++ Text.crlf ('\n' :: rest) =
          (code ++ ['\r']) ++ '\n' :: Text.crlf rest := by simp
      have hreturn : ∀ c ∈ code ++ ['\r'], c ≠ tick ∧ c ≠ '\n' := by
        rw [List.forall_mem_append, List.forall_mem_singleton]
        exact ⟨hcode, by decide, by decide⟩
      rw [hcut, singleSpan?_stretch hreturn (by simp)]
      simp [tick]

theorem mindsNoReturns_single : MindsNoReturns singleSpan? id where
  proper := proper_singleSpan?
  not_at_feed := singleSpan?_of_ne (by decide)
  not_at_return := singleSpan?_of_ne (by decide)
  reads := by
    intro c hfeed cs
    by_cases hc : c = tick
    · subst hc
      exact singleSpan?_crlf cs
    · rw [singleSpan?_of_ne hc, singleSpan?_of_ne hc]
      rfl

/-! ### Spans -/

/-- A span in a text with carriage returns. -/
def crlf (span : CodeSpan) : CodeSpan :=
  ⟨span.start + (span.startLine - 1), span.stop + (span.stopLine - 1), span.startLine,
    span.stopLine, span.fenced⟩

theorem inlineCode_crlf {pattern : List Char → Option (Match Unit)}
    (h : MindsNoReturns pattern id) (cs : List Char) :
    inlineCode pattern (Text.crlf cs) = (inlineCode pattern cs).map crlf := by
  rw [inlineCode, h.findAll_crlf, List.map_map, inlineCode, List.map_map]
  rfl

/-- A fence in a text with carriage returns. -/
def Fence.crlf (fence : Fence) : Fence := ⟨fence.mark, fence.width, fence.opened.crlf⟩

/-- Lines that are told by what stands in front of their ends have the same fenced blocks. -/
theorem fencedFrom_crlf {lines : List (List Char)}
    (hlines : ∀ raw ∈ lines, '\n' ∉ dropEndWhile isLineEnd raw) (fence? : Option Fence)
    {p : Position} (hp : 1 ≤ p.line) :
    fencedFrom (fence?.map Fence.crlf) p.crlf (lines.map Text.crlf) =
      (fencedFrom fence? p lines).map crlf := by
  induction lines generalizing fence? p with
  | nil => cases fence? <;> rfl
  | cons raw lines ih =>
    obtain ⟨hraw, hlines⟩ := List.forall_mem_cons.mp hlines
    have hline : dropEndWhile isLineEnd (Text.crlf raw) = dropEndWhile isLineEnd raw := by
      rw [dropEndWhile_crlf (by decide), crlf_of_not_mem hraw]
    have hrest (fence? : Option Fence) :
        fencedFrom (fence?.map Fence.crlf) (p.crlf.advance (Text.crlf raw)) (lines.map Text.crlf) =
          (fencedFrom fence? (p.advance raw) lines).map crlf := by
      rw [← Position.crlf_advance hp]
      exact ih hlines fence? (Position.one_le_advance hp raw)
    cases fence? with
    | none =>
      rw [List.map_cons, Option.map_none, fencedFrom_none_cons, fencedFrom_none_cons, hline, ← hrest,
        Option.map_map]
      rfl
    | some fence =>
      have hclosed (line : List Char) : fence.crlf.closedBy line = fence.closedBy line := rfl
      have hopen := hrest (some fence)
      rw [Option.map_some] at hopen
      rw [List.map_cons, Option.map_some, fencedFrom_some_cons, fencedFrom_some_cons, hline, hclosed]
      split
      · have hstop := Position.crlf_advance hp (dropEndWhile isLineEnd raw)
        rw [crlf_of_not_mem hraw] at hstop
        rw [List.map_cons, ← hrest none, ← hstop]
        rfl
      · exact hopen

theorem fencedBlocks_crlf (cs : List Char) :
    fencedBlocks (Text.crlf cs) = (fencedBlocks cs).map crlf := by
  have hlines : ∀ raw ∈ splitLines cs, '\n' ∉ dropEndWhile isLineEnd raw := by
    intro raw hraw
    obtain ⟨line, hbreak, rfl | rfl⟩ := line_of_mem_splitLines hraw
    · exact (not_mem_dropEndWhile_line hbreak).1
    · exact (not_mem_dropEndWhile_line hbreak).2
  rw [fencedBlocks, splitLines_crlf]
  exact fencedFrom_crlf hlines none (p := .start) (Nat.le_refl 1)

/-! ### All spans -/

/-- Spans lie as far apart as without the returns. -/
theorem In.apart_crlf {a b : CodeSpan} {cs : List Char} (ha : a.In cs) (hb : b.In cs) :
    Apart a.crlf b.crlf ↔ Apart a b :=
  or_congr (ha.stop_in.crlf_le_iff hb.start_in) (hb.stop_in.crlf_le_iff ha.start_in)

/-- The code of a text is the code of it with carriage returns. -/
theorem findAll_crlf (cs : List Char) : findAll (Text.crlf cs) = (findAll cs).map crlf := by
  have hall : ∀ span ∈ fencedBlocks cs ++ inlineCode doubleSpan? cs ++ inlineCode singleSpan? cs,
      span.In cs := by
    simp only [List.mem_append]
    rintro span ((hspan | hspan) | hspan)
    · exact in_of_mem_fencedBlocks hspan
    · exact in_of_mem_inlineCode proper_doubleSpan? hspan
    · exact in_of_mem_inlineCode proper_singleSpan? hspan
  have hmem (span : CodeSpan) :
      span ∈ findAll (Text.crlf cs) ↔ span ∈ (findAll cs).map crlf := by
    rw [mem_findAll_iff_kept, fencedBlocks_crlf, inlineCode_crlf mindsNoReturns_double,
      inlineCode_crlf mindsNoReturns_single,
      kept_map fun a ha b hb => (hall a ha).apart_crlf (hall b hb), List.mem_map]
    simp only [mem_findAll_iff_kept]
  -- Both lists are in order, so it is enough that they have the same spans.
  refine eq_of_mem_iff (pairwise_findAll _) (fun _ => start_lt_stop)
    (List.pairwise_map.mpr ?_) (fun span hspan => ?_) hmem
  · refine (pairwise_findAll cs).imp_of_mem fun {a b} ha hb hle => ?_
    exact ((in_of_mem_findAll ha).stop_in.crlf_le_iff (in_of_mem_findAll hb).start_in).mpr hle
  · obtain ⟨inner, hinner, rfl⟩ := List.mem_map.mp hspan
    have hin := in_of_mem_findAll hinner
    exact Nat.not_le.mp fun hle =>
      absurd ((hin.stop_in.crlf_le_iff hin.start_in).mp hle) (Nat.not_le.mpr (start_lt_stop hinner))

/-- Positions lie in the code of a text exactly if they do with carriage returns. -/
theorem covers_crlf {cs : List Char} {p : Position} (hp : p.In cs) :
    covers (findAll (Text.crlf cs)) p.crlf.offset = covers (findAll cs) p.offset := by
  rw [findAll_crlf, covers, List.any_map, covers, Bool.eq_iff_iff, List.any_eq_true,
    List.any_eq_true]
  refine exists_congr fun span => and_congr_right fun hspan => ?_
  have hin := in_of_mem_findAll hspan
  have hstop : p.crlf.offset < span.crlf.stop ↔ p.offset < span.stop := by
    rw [← Nat.not_le, ← Nat.not_le]
    exact not_congr (hin.stop_in.crlf_le_iff hp)
  simp only [Function.comp_apply, Bool.and_eq_true, decide_eq_true_eq]
  exact and_congr (hin.start_in.crlf_le_iff hp) hstop

/-- Lines lie in the fenced blocks of a text exactly if they do with carriage returns. -/
theorem coversLine_crlf (cs : List Char) (line : Nat) :
    coversLine (findAll (Text.crlf cs)) line = coversLine (findAll cs) line := by
  rw [findAll_crlf, coversLine, List.any_map, coversLine]
  rfl

end WikiNotes.CodeSpan
