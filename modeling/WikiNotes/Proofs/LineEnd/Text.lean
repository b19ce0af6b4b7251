import WikiNotes.Proofs.Note.Line

/-! # Texts with carriage returns

`crlf` puts a carriage return in front of every line feed of a text.  It goes along with taking a
text apart: into parts, at a class of characters that has both of them or neither
(`takeWhile_crlf`, `trimChars_crlf`), and into lines (`splitLines_crlf`).  What was found at some
position of a text is found as many bytes further on as there are line feeds in front of it
(`Position.crlf`), if the pattern does not start at a line end and reads the same between others
(`MindsNoReturns.findAll_crlf`). -/

namespace WikiNotes.Text

/-- A text with a carriage return in front of every line feed. -/
def crlf (cs : List Char) : List Char := cs.flatMap fun c => if c = '\n' then ['\r', '\n'] else [c]

variable {cs : List Char}

@[simp] theorem crlf_nil : crlf [] = [] := rfl

@[simp] theorem crlf_feed (cs : List Char) : crlf ('\n' :: cs) = '\r' :: '\n' :: crlf cs := rfl

theorem crlf_cons {c : Char} (hc : c ≠ '\n') (cs : List Char) : crlf (c :: cs) = c :: crlf cs := by
  simp [crlf, hc]

@[simp] theorem crlf_append (a b : List Char) : crlf (a ++ b) = crlf a ++ crlf b :=
  List.flatMap_append

theorem crlf_flatten (lines : List (List Char)) : crlf lines.flatten = (lines.map crlf).flatten := by
  induction lines with
  | nil => rfl
  | cons line lines ih => simp [ih]

/-- Without line feeds nothing changes. -/
theorem crlf_of_not_mem (h : '\n' ∉ cs) : crlf cs = cs := by
  induction cs with
  | nil => rfl
  | cons c cs ih =>
    obtain ⟨hc, hcs⟩ := not_or.mp (List.mem_cons.not.mp h)
    rw [crlf_cons (Ne.symm hc), ih hcs]

theorem crlf_eq_nil_iff : crlf cs = [] ↔ cs = [] := by
  cases cs with
  | nil => simp
  | cons c cs =>
    by_cases hc : c = '\n'
    · simp [hc]
    · simp [crlf_cons hc]

theorem head?_crlf (cs : List Char) :
    (crlf cs).head? = cs.head?.map fun c => if c = '\n' then '\r' else c := by
  cases cs with
  | nil => rfl
  | cons c cs =>
    by_cases hc : c = '\n'
    · simp [hc]
    · simp [crlf_cons hc, hc]

/-- What does not start with a carriage return starts as the text does. -/
theorem exists_of_crlf_eq_cons {c : Char} {rest : List Char} (hc : c ≠ '\r')
    (h : crlf cs = c :: rest) : ∃ more, cs = c :: more ∧ rest = crlf more := by
  cases cs with
  | nil => exact nomatch h
  | cons d cs =>
    by_cases hd : d = '\n'
    · subst hd
      exact absurd (List.cons.inj h).1.symm hc
    · rw [crlf_cons hd] at h
      obtain ⟨rfl, rfl⟩ := List.cons.inj h
      exact ⟨cs, rfl, rfl⟩

/-- From a text that had none the carriage returns are taken away again. -/
theorem filter_crlf (h : '\r' ∉ cs) : (crlf cs).filter (· ≠ '\r') = cs := by
  induction cs with
  | nil => rfl
  | cons c cs ih =>
    obtain ⟨hc, hcs⟩ := not_or.mp (List.mem_cons.not.mp h)
    by_cases hfeed : c = '\n'
    · subst hfeed
      simpa using ih hcs
    · rw [crlf_cons hfeed, List.filter_cons_of_pos (by simp [Ne.symm hc]), ih hcs]

/-! ### Classes of characters -/

section Classes

variable {p : Char → Bool}

/-- A property that carriage returns and line feeds share is one of the text. -/
theorem forall_mem_crlf (hp : p '\r' = p '\n') :
    (∀ c ∈ crlf cs, p c = true) ↔ ∀ c ∈ cs, p c = true := by
  induction cs with
  | nil => simp
  | cons c cs ih =>
    by_cases hc : c = '\n'
    · simp [hc, hp, ih]
    · simp [crlf_cons hc, ih]

theorem takeWhile_crlf (hp : p '\r' = p '\n') : (crlf cs).takeWhile p = crlf (cs.takeWhile p) := by
  induction cs with
  | nil => rfl
  | cons c cs ih =>
    by_cases hc : c = '\n'
    · subst hc
      cases hfeed : p '\n' <;> simp [hfeed, hp, ih]
    · rw [crlf_cons hc, List.takeWhile_cons, List.takeWhile_cons]
      split
      · rw [ih, crlf_cons hc]
      · rfl

theorem dropWhile_crlf (hp : p '\r' = p '\n') : (crlf cs).dropWhile p = crlf (cs.dropWhile p) := by
  induction cs with
  | nil => rfl
  | cons c cs ih =>
    by_cases hc : c = '\n'
    · subst hc
      cases hfeed : p '\n' <;> simp [hfeed, hp, ih]
    · rw [crlf_cons hc, List.dropWhile_cons, List.dropWhile_cons]
      split
      · exact ih
      · rw [crlf_cons hc]

theorem getLast?_crlf (cs : List Char) : (crlf cs).getLast? = cs.getLast? := by
  rcases List.eq_nil_or_concat cs with rfl | ⟨front, c, rfl⟩
  · rfl
  · by_cases hc : c = '\n' <;> simp [crlf, hc]

theorem dropEndWhile_crlf (hp : p '\r' = p '\n') :
    dropEndWhile p (crlf cs) = crlf (dropEndWhile p cs) := by
  obtain ⟨trail, hcs, htrail⟩ := exists_dropEndWhile p cs
  conv => lhs; rw [hcs, crlf_append]
  refine dropEndWhile_append_of_stop (fun c hc => ?_) ((forall_mem_crlf hp).mpr htrail)
  rw [getLast?_crlf] at hc
  exact getLast?_dropEndWhile hc

theorem trimChars_crlf (cs : List Char) : trimChars (crlf cs) = crlf (trimChars cs) := by
  have hblank : isBlank '\r' = isBlank '\n' := by decide
  rw [trimChars, stripWhile, dropWhile_crlf hblank, dropEndWhile_crlf hblank]
  rfl

end Classes

/-! ### Positions -/

theorem lineFeeds_crlf (cs : List Char) : lineFeeds (crlf cs) = lineFeeds cs := by
  induction cs with
  | nil => rfl
  | cons c cs ih =>
    by_cases hc : c = '\n'
    · subst hc
      simpa [lineFeeds] using ih
    · simpa [lineFeeds, crlf_cons hc, hc] using ih

theorem byteLength_crlf (cs : List Char) :
    byteLength (crlf cs) = byteLength cs + lineFeeds cs := by
  induction cs with
  | nil => rfl
  | cons c cs ih =>
    by_cases hc : c = '\n'
    · subst hc
      have hsizes : Char.utf8Size '\r' = 1 ∧ Char.utf8Size '\n' = 1 := by decide
      have hfeeds : lineFeeds ('\n' :: cs) = lineFeeds cs + 1 := List.count_cons_self ..
      rw [crlf_feed, byteLength_cons, byteLength_cons, byteLength_cons, ih, hfeeds, hsizes.1]
      omega
    · have hfeeds : lineFeeds (c :: cs) = lineFeeds cs := List.count_cons_of_ne hc
      rw [crlf_cons hc, byteLength_cons, byteLength_cons, ih, hfeeds, Nat.add_assoc]

/-- A position in a text with carriage returns: one byte further on for every line feed in front of
    it. -/
def Position.crlf (p : Position) : Position := ⟨p.offset + (p.line - 1), p.line⟩

theorem Position.crlf_start_advance (cs : List Char) :
    (start.advance cs).crlf = start.advance (Text.crlf cs) := by
  have hfeeds := lineFeeds_crlf cs
  have hbytes := byteLength_crlf cs
  simp only [crlf, start, advance, hfeeds, hbytes, Position.mk.injEq, and_true]
  omega

theorem Position.crlf_advance {p : Position} (hp : 1 ≤ p.line) (cs : List Char) :
    (p.advance cs).crlf = p.crlf.advance (Text.crlf cs) := by
  have hfeeds := lineFeeds_crlf cs
  have hbytes := byteLength_crlf cs
  simp only [crlf, advance, hfeeds, hbytes, Position.mk.injEq, and_true]
  omega

theorem Position.one_le_advance {p : Position} (hp : 1 ≤ p.line) (cs : List Char) :
    1 ≤ (p.advance cs).line :=
  Nat.le_trans hp (Nat.le_add_right ..)

/-- Positions of a text stay in order. -/
theorem Position.In.crlf_le_iff {p q : Position} (hp : p.In cs) (hq : q.In cs) :
    p.crlf.offset ≤ q.crlf.offset ↔ p.offset ≤ q.offset := by
  obtain ⟨a, ha, rfl⟩ := hp
  obtain ⟨b, hb, rfl⟩ := hq
  simp only [crlf_start_advance, CodeSpan.offset_advance_start, byteLength_crlf]
  rcases List.prefix_or_prefix_of_prefix ha hb with ⟨more, rfl⟩ | ⟨more, rfl⟩
  · rw [byteLength_append, lineFeeds_append]
    omega
  · rw [byteLength_append, lineFeeds_append]
    by_cases hmore : more = []
    · simp [hmore, byteLength, lineFeeds]
    · have hpos := byteLength_pos hmore
      omega

/-! ### Lines -/

/-- The lines of a text are the lines of it with carriage returns. -/
theorem splitLines_crlf (cs : List Char) : splitLines (crlf cs) = (splitLines cs).map crlf := by
  refine splitLines_induction (motive := fun cs lines =>
    splitLines (crlf cs) = lines.map crlf) ?nil ?last ?line cs
  case nil => rfl
  case last =>
    intro line hne hbreak
    simp only [crlf_of_not_mem hbreak, CodeSpan.splitLines_last hbreak hne, List.map_cons,
      List.map_nil]
  case line =>
    intro line rest hbreak ih
    have hreturn : '\n' ∉ line ++ ['\r'] := by simp [hbreak]
    have hcut : crlf (line ++ '\n' :: rest) = (line ++ ['\r']) ++ '\n' :: crlf rest := by
      simp [crlf_of_not_mem hbreak]
    rw [hcut, CodeSpan.splitLines_line hreturn, ih, List.map_cons]
    simp [crlf_of_not_mem hbreak]

/-! ### Searching -/

section Search

variable {α : Type} {pattern : List Char → Option (Match α)} {f : α → α}

/-- What was found, in the text with carriage returns. -/
def Found.crlf (f : α → α) (found : Found α) : Found α :=
  ⟨f found.value, found.start.crlf, found.stop.crlf⟩

/-- A pattern that does not start at a line end and reads the same between others, but for what the
    returns change in the value. -/
structure MindsNoReturns (pattern : List Char → Option (Match α)) (f : α → α) : Prop where
  proper : Proper pattern
  not_at_feed : ∀ cs, pattern ('\n' :: cs) = none
  not_at_return : ∀ cs, pattern ('\r' :: cs) = none
  reads : ∀ {c}, c ≠ '\n' → ∀ cs, pattern (c :: crlf cs) =
    (pattern (c :: cs)).map fun m => ⟨f m.value, (crlf ((c :: cs).take m.length)).length⟩

theorem MindsNoReturns.reads_append (h : MindsNoReturns pattern f) {m rest : List Char} {value : α}
    (hne : m ≠ []) (hmatch : pattern (m ++ rest) = some ⟨value, m.length⟩) :
    pattern (crlf m ++ crlf rest) = some ⟨f value, (crlf m).length⟩ := by
  obtain ⟨c, m, rfl⟩ := List.exists_cons_of_ne_nil hne
  have hc : c ≠ '\n' := by
    rintro rfl
    rw [List.cons_append, h.not_at_feed] at hmatch
    exact nomatch hmatch
  rw [← crlf_append, List.cons_append, crlf_cons hc, h.reads hc, ← List.cons_append, hmatch]
  simp

/-- What is found in a text is found in it with carriage returns. -/
theorem MindsNoReturns.findAllFrom_crlf (h : MindsNoReturns pattern f) {p : Position}
    (hp : 1 ≤ p.line) (cs : List Char) :
    findAllFrom pattern 0 p.crlf (crlf cs) =
      (findAllFrom pattern 0 p cs).map (Found.crlf f) := by
  revert hp
  refine h.proper.findAllFrom_induction (motive := fun p cs founds => 1 ≤ p.line →
    findAllFrom pattern 0 p.crlf (crlf cs) = founds.map (Found.crlf f)) ?nil ?fail ?find p cs
  case nil => exact fun _ _ => rfl
  case fail =>
    intro p c cs founds hnone ih hp
    have hnext : (p.next c).crlf = p.crlf.advance (crlf [c]) := by
      rw [Position.next_eq_advance, Position.crlf_advance hp]
    have hrest := ih (Position.next_eq_advance p c ▸ Position.one_le_advance hp [c])
    by_cases hc : c = '\n'
    · -- Nothing is found at either character of the line end.
      subst hc
      rw [crlf_feed, findAllFrom_of_none (h.not_at_return _), findAllFrom_of_none (h.not_at_feed _),
        ← hrest, hnext, Position.next_eq_advance, Position.next_eq_advance,
        ← Position.advance_append]
      rfl
    · have hfail : pattern (c :: crlf cs) = none := by
        rw [h.reads hc, hnone]
        rfl
      rw [crlf_cons hc, findAllFrom_of_none hfail, ← hrest, hnext, crlf_cons hc,
        Position.next_eq_advance, crlf_nil]
  case find =>
    intro p value m rest founds hne hmatch ih hp
    rw [crlf_append,
      findAllFrom_of_some (crlf_eq_nil_iff.not.mpr hne) (h.reads_append hne hmatch),
      ← Position.crlf_advance hp, ih (Position.one_le_advance hp m)]
    rfl

theorem MindsNoReturns.findAll_crlf (h : MindsNoReturns pattern f) (cs : List Char) :
    findAll pattern (crlf cs) = (findAll pattern cs).map (Found.crlf f) :=
  h.findAllFrom_crlf (p := .start) (Nat.le_refl 1) cs

end Search

end WikiNotes.Text
