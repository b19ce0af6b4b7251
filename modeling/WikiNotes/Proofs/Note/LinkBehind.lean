import Mathlib.Data.List.Infix
import WikiNotes.Proofs.Note.CodeBehind
import WikiNotes.Proofs.Note.WrittenLink

/-! # Links behind a text

A text may take part in the links of what follows it in three ways: by a fence that is open, by a
pair of backticks that waits for the next one, and by brackets that are open, where closing ones
would end a link (`LeavesBracketsOpen`).  If a text ends a line and does nothing of that
(`KeepsLinks`), what follows it has the links that it has on its own, further down
(`KeepsLinks.follow`).  Of a text that ends a line no other one does so for everything that
may follow (`keepsLinks_iff`). -/

namespace WikiNotes

open Text

namespace Link

/-! ### Brackets left open -/

/-- Closing brackets right behind a text would end a link that opens in it. -/
def LeavesBracketsOpen (front : List Char) : Prop :=
  ∃ a w, Written.WellFormed w ∧ front ++ [']', ']'] = a ++ w.text

/-- The search for such a link, from left to right. -/
theorem leavesBracketsOpen_iff {front : List Char} :
    LeavesBracketsOpen front ↔ ((front ++ [']', ']']).tails.any fun cs =>
      (linkAt? cs).any fun found => found.length == cs.length) = true := by
  simp only [LeavesBracketsOpen, List.any_eq_true, List.mem_tails, Option.any_eq_true, beq_iff_eq]
  constructor
  · rintro ⟨a, w, hw, hcut⟩
    exact ⟨w.text, ⟨a, hcut.symm⟩, ⟨w, w.text.length⟩,
      linkAt?_eq_some_iff.mpr ⟨hw, List.prefix_rfl, rfl⟩, rfl⟩
  · rintro ⟨cs, ⟨a, hcut⟩, found, hfound, hlength⟩
    obtain ⟨hw, htext, hlength'⟩ := linkAt?_eq_some_iff.mp hfound
    refine ⟨a, found.value, hw, ?_⟩
    rw [← hcut, htext.eq_of_length (hlength'.symm.trans hlength)]

instance : DecidablePred LeavesBracketsOpen := fun _ =>
  decidable_of_iff _ leavesBracketsOpen_iff.symm

namespace Written

variable {w : Written} {x y more : List Char}

theorem WellFormed.body_ne_nil (h : w.WellFormed) : w.body ≠ [] := by
  simp [body, h.target_ne]

theorem WellFormed.of_target {embed : Bool} {target : List Char} (hne : target ≠ [])
    (hchars : ∀ c ∈ target, isTargetChar c = true) :
    WellFormed ⟨embed, target, none, none⟩ where
  target_ne := hne
  target_chars := hchars
  heading_ne := by simp
  heading_chars := by simp
  label_ne := by simp
  label_chars := by simp

theorem WellFormed.withHeading (h : w.WellFormed) {part : List Char} (hne : part ≠ [])
    (hchars : ∀ c ∈ part, isHeadingChar c = true) :
    WellFormed { w with heading := some part } :=
  { h with
    heading_ne := by simpa using hne
    heading_chars := by simpa using hchars }

theorem WellFormed.withLabel (h : w.WellFormed) {part : List Char} (hne : part ≠ [])
    (hchars : ∀ c ∈ part, (c != ']') = true) : WellFormed { w with label := some part } :=
  { h with
    label_ne := by simpa using hne
    label_chars := by simpa using hchars }

theorem length_opening_ge (w : Written) : 2 ≤ w.opening.length := by
  rw [opening]
  split <;> simp

theorem mem_text (w : Written) : '[' ∈ w.text := by
  rw [text, opening]
  split <;> simp

/-- A link has brackets around something. -/
theorem WellFormed.length_text_ge (h : w.WellFormed) : 5 ≤ w.text.length := by
  have hopening := w.length_opening_ge
  have hbody := List.length_pos_iff.mpr h.body_ne_nil
  simp only [text, List.length_append, List.length_cons, List.length_nil]
  omega

/-- The beginning of an optional part that ends a line is such a part itself. -/
theorem exists_optionalText_cut {mark : Char} {part? : Option (List Char)} (hy : EndsLine y)
    (hmark : mark ≠ '\n') (h : y <+: optionalText mark part?) :
    ∃ front ≠ [], y = mark :: front ∧ ∃ part ∈ part?, front <+: part := by
  cases part? with
  | none =>
    obtain rfl := List.prefix_nil.mp h
    exact nomatch hy
  | some part =>
    cases y with
    | nil => exact nomatch hy
    | cons c front =>
      obtain ⟨rfl, hfront⟩ := List.cons_prefix_cons.mp h
      refine ⟨front, ?_, rfl, part, rfl, hfront⟩
      rintro rfl
      exact hmark (Option.some.inj hy)

/-- The beginning of what stands between brackets can stand between brackets itself, if it ends a
    line. -/
theorem WellFormed.exists_body_cut (h : w.WellFormed) (hy : EndsLine y) (hbody : y <+: w.body) :
    ∃ w' : Written, w'.embed = w.embed ∧ w'.WellFormed ∧ w'.body = y := by
  -- The text ends within the target, within the heading or within the label.
  rcases prefix_append_cases hbody with htarget | ⟨z, hz, rfl, hrest⟩
  · have hne : y ≠ [] := List.ne_nil_of_mem hy.mem
    exact ⟨⟨w.embed, y, none, none⟩, rfl,
      .of_target hne fun c hc => h.target_chars c (htarget.subset hc), by simp [body, optionalText]⟩
  · have hy := hy.of_append hz
    rcases prefix_append_cases hrest with hheading | ⟨z', hz', rfl, hlabel⟩
    · obtain ⟨part, hne, rfl, whole, hwhole, hpart⟩ :=
        exists_optionalText_cut hy (by decide) hheading
      have hchars (c : Char) (hc : c ∈ part) : isHeadingChar c = true :=
        h.heading_chars whole hwhole c (hpart.subset hc)
      exact ⟨⟨w.embed, w.target, some part, none⟩, rfl,
        .withHeading (.of_target h.target_ne h.target_chars) hne hchars,
        by simp [body, optionalText]⟩
    · obtain ⟨part, hne, rfl, whole, hwhole, hpart⟩ :=
        exists_optionalText_cut (hy.of_append hz') (by decide) hlabel
      have hchars (c : Char) (hc : c ∈ part) : (c != ']') = true :=
        h.label_chars whole hwhole c (hpart.subset hc)
      exact ⟨⟨w.embed, w.target, w.heading, some part⟩, rfl, h.withLabel hne hchars,
        by simp [body, optionalText]⟩

/-- What stands between brackets may go on with characters that mean nothing there. -/
theorem WellFormed.exists_body_append (h : w.WellFormed)
    (hmore : ∀ c ∈ more, c ≠ ']' ∧ c ≠ '|' ∧ c ≠ '#') :
    ∃ w' : Written, w'.embed = w.embed ∧ w'.WellFormed ∧ w'.body = w.body ++ more := by
  obtain ⟨embed, target, heading, label⟩ := w
  have hne {part : List Char} (hpart : part ≠ []) : part ++ more ≠ [] := by simp [hpart]
  have hchars {allowed : Char → Bool} {part : List Char} (hpart : ∀ c ∈ part, allowed c = true)
      (hallowed : ∀ c ∈ more, allowed c = true) : ∀ c ∈ part ++ more, allowed c = true :=
    List.forall_mem_append.mpr ⟨hpart, hallowed⟩
  -- The last part that is there goes on.
  cases label with
  | some part =>
    have hpart : part ≠ [] := fun hnil => h.label_ne (congrArg some hnil)
    exact ⟨⟨embed, target, heading, some (part ++ more)⟩, rfl,
      h.withLabel (hne hpart) (hchars (h.label_chars part rfl) fun c hc => by simp [hmore c hc]),
      by simp [body, optionalText]⟩
  | none =>
    cases heading with
    | some part =>
      have hpart : part ≠ [] := fun hnil => h.heading_ne (congrArg some hnil)
      exact ⟨⟨embed, target, some (part ++ more), none⟩, rfl,
        h.withHeading (hne hpart) (hchars (h.heading_chars part rfl) fun c hc => by
          simp [isHeadingChar, hmore c hc]), by simp [body, optionalText]⟩
    | none =>
      exact ⟨⟨embed, target ++ more, none, none⟩, rfl,
        .of_target (hne h.target_ne) (hchars h.target_chars fun c hc => by
          simp [isTargetChar, hmore c hc]), by simp [body, optionalText]⟩

end Written

/-- A link that begins in a text and goes on behind it needs brackets that are left open. -/
theorem leavesBracketsOpen_of_crossing {front x : List Char} {w : Written} (hx : x <:+ front)
    (hline : EndsLine x) (hw : w.WellFormed) (hbegin : x <+: w.text) :
    LeavesBracketsOpen front := by
  have hopening : '\n' ∉ w.opening := by
    rw [Written.opening]
    split <;> simp
  rw [Written.text, List.append_assoc] at hbegin
  rcases prefix_append_cases hbegin with hbegin | ⟨y, hy, rfl, hbody⟩
  · exact absurd (hbegin.subset hline.mem) hopening
  have hy := hline.of_append hy
  have hbody : y <+: w.body := by
    rcases prefix_append_cases hbody with hbody | ⟨z, hz, rfl, hclose⟩
    · exact hbody
    · exact absurd (hclose.subset (hy.of_append hz).mem) (by simp)
  obtain ⟨w', hembed, hw', hsame⟩ := hw.exists_body_cut hy hbody
  obtain ⟨a, rfl⟩ := hx
  have hopens : w'.opening = w.opening := by rw [Written.opening, Written.opening, hembed]
  exact ⟨a, w', hw', by simp [Written.text, hsame, hopens]⟩

/-! ### Links that are kept -/

/-- A link so many lines further on. -/
def moved (link : Link) (lines : Nat) : Link := { link with line := link.line + lines }

/-- A text that ends a line and leaves open neither code nor brackets. -/
structure KeepsLinks (front : List Char) : Prop extends CodeSpan.KeepsCode front where
  brackets_closed : ¬ LeavesBracketsOpen front

/-- The links behind a text are those that what follows it has on its own, further down by the lines
    of the text. -/
def Follow (front body : List Char) : Prop :=
  (ofChars (front ++ body)).filter (fun link => lineFeeds front < link.line) =
    (ofChars body).map (·.moved (lineFeeds front))

variable {front body : List Char}

/-- What follows a text plays no part in the brackets of the text. -/
theorem linkAt?_append (hopen : ¬ LeavesBracketsOpen front) {x : List Char} (hx : x <:+ front)
    (hline : EndsLine x) (body : List Char) : linkAt? (x ++ body) = linkAt? x := by
  refine Option.ext fun found => ?_
  rw [linkAt?_eq_some_iff, linkAt?_eq_some_iff]
  refine and_congr_right fun hw => and_congr_left fun _ => ⟨fun htext => ?_, fun htext =>
    htext.trans (List.prefix_append ..)⟩
  rcases List.prefix_or_prefix_of_prefix htext (List.prefix_append x body) with htext | hcross
  · exact htext
  · exact absurd (leavesBracketsOpen_of_crossing hx hline hw hcross) hopen

theorem findAll_linkAt?_append (hline : EndsLine front) (hopen : ¬ LeavesBracketsOpen front)
    (body : List Char) :
    Text.findAll linkAt? (front ++ body) = Text.findAll linkAt? front ++
      (Text.findAll linkAt? body).map (·.moved (byteLength front) (lineFeeds front)) := by
  have hcut (x : List Char) (hne : x ≠ []) (hx : x <:+ front) :
      linkAt? (x ++ body) = linkAt? x := by
    obtain ⟨a, rfl⟩ := hx
    exact linkAt?_append hopen (List.suffix_append a x) (hline.of_append hne) body
  rw [Text.findAll, proper_linkAt?.findAllFrom_append hcut, Position.start_advance,
    findAllFrom_moved]
  rfl

/-- What begins in a text that ends a line begins on one of its lines. -/
theorem line_le_of_append {a rest : List Char} (hline : EndsLine (a ++ rest)) (hne : rest ≠ []) :
    (Position.start.advance a).line ≤ lineFeeds (a ++ rest) := by
  have hpos : 0 < lineFeeds rest := List.count_pos_iff.mpr (hline.of_append hne).mem
  have hstart : (Position.start.advance a).line = 1 + lineFeeds a := rfl
  rw [hstart, lineFeeds_append]
  omega

/-- Where no brackets follow a text that ends a line, all links begin on the lines of the text. -/
theorem line_le_of_mem_outside (hline : EndsLine front) {rest : List Char} (hrest : '[' ∉ rest)
    {code : List CodeSpan} {link : Link} (hlink : link ∈ outside code (front ++ rest)) :
    link.line ≤ lineFeeds front := by
  obtain ⟨f, hf, -, hofFound⟩ := mem_outside.mp hlink
  obtain ⟨a, hfound, hw, b, hcut⟩ := exists_foundAt hf
  have hlinkLine : link.line = (Position.start.advance a).line := by
    rw [(ofFound?_eq_some hofFound).2.2, hfound]
    rfl
  rw [hlinkLine]
  rw [List.append_assoc] at hcut
  rcases List.append_eq_append_iff.mp hcut with ⟨more, rfl, hmore⟩ | ⟨u, rfl, hu⟩
  · by_cases hnil : more = []
    · rw [hnil, List.nil_append] at hmore
      exact absurd (hmore ▸ List.mem_append_left b f.value.mem_text) hrest
    · exact line_le_of_append hline hnil
  · refine absurd ?_ hrest
    rw [hu]
    exact List.mem_append_right _ (List.mem_append_left _ f.value.mem_text)

theorem line_pos_of_mem_outside {code : List CodeSpan} {link : Link}
    (hlink : link ∈ outside code body) : 0 < link.line := by
  obtain ⟨f, hf, -, hofFound⟩ := mem_outside.mp hlink
  obtain ⟨a, m, b, -, -, -, hstart, -⟩ := proper_linkAt?.exists_of_mem hf
  rw [(ofFound?_eq_some hofFound).2.2, hstart]
  exact Nat.lt_of_lt_of_le Nat.zero_lt_one (Nat.le_add_right 1 (lineFeeds a))

theorem ofFound?_moved (f : Found Written) (bytes lines : Nat) :
    ofFound? (f.moved bytes lines) = (ofFound? f).map (·.moved lines) := by
  rw [ofFound?, ofFound?, Option.map_map]
  rfl

/-- Behind a text that keeps links those of the body are the links that the body has on its own. -/
theorem KeepsLinks.follow (h : KeepsLinks front) (body : List Char) : Follow front body := by
  have hbody : outside (CodeSpan.findAll (front ++ body)) (front ++ body) =
      outside (CodeSpan.findAll (front ++ body)) front ++
        (ofChars body).map (·.moved (lineFeeds front)) := by
    rw [outside, findAll_linkAt?_append h.endsLine h.brackets_closed, List.filter_append,
      List.filterMap_append, List.filter_map, List.filterMap_map]
    congr 1
    rw [ofChars, outside, List.map_filterMap]
    have hcode (f : Found Written) :
        CodeSpan.covers (CodeSpan.findAll (front ++ body))
            (f.moved (byteLength front) (lineFeeds front)).start.offset =
          CodeSpan.covers (CodeSpan.findAll body) f.start.offset := h.covers_append body _
    simp only [Function.comp_def, hcode, ofFound?_moved]
  rw [Follow, ofChars, hbody, List.filter_append, List.filter_eq_nil_iff.mpr, List.nil_append,
    List.filter_eq_self.mpr]
  · intro link hlink
    obtain ⟨inner, hinner, rfl⟩ := List.mem_map.mp hlink
    exact decide_eq_true (Nat.lt_add_of_pos_left (line_pos_of_mem_outside hinner))
  · intro link hlink
    rw [← List.append_nil front] at hlink
    simpa using line_le_of_mem_outside h.endsLine List.not_mem_nil hlink

/-! ### Texts that keep links -/

/-- If what follows a text has a link on its own, there is one behind the text. -/
theorem Follow.exists_behind (h : Follow front body) (hbody : ofChars body ≠ []) :
    ∃ link ∈ ofChars (front ++ body), lineFeeds front < link.line := by
  obtain ⟨link, hlink⟩ := List.exists_mem_of_ne_nil _ hbody
  have hmoved := List.mem_map_of_mem (f := (·.moved (lineFeeds front))) hlink
  rw [← h] at hmoved
  obtain ⟨hfound, hbehind⟩ := List.mem_filter.mp hmoved
  exact ⟨_, hfound, of_decide_eq_true hbehind⟩

/-- A link right behind a text is found only if no brackets of the text reach over it and the text
    has no code there. -/
theorem Follow.found (hline : EndsLine front) (h : Follow front "[[x]]".toList) :
    ¬ Overrun (front ++ "[[x]]".toList) front ∧
      CodeSpan.covers (CodeSpan.findAll (front ++ "[[x]]".toList)) (byteLength front) = false := by
  obtain ⟨link, hlink, hbehind⟩ := h.exists_behind (by decide +kernel)
  obtain ⟨a, w, -, ⟨hw, rest, hcut⟩, hover, hcode, hfound⟩ := mem_ofChars_iff.mp hlink
  have hlinkLine : link.line = (Position.start.advance a).line :=
    ((ofFound?_eq_some hfound).2.2).trans (line_inFront a)
  -- Any other brackets than those right behind the text would begin on one of its lines.
  suffices ha : a = front by
    subst ha
    exact ⟨hover, hcode⟩
  rw [List.append_assoc] at hcut
  rcases List.append_eq_append_iff.mp hcut with ⟨more, rfl, -⟩ | ⟨u, rfl, hu⟩
  · by_cases hnil : more = []
    · simp [hnil]
    · have hle := line_le_of_append hline hnil
      rw [← hlinkLine] at hle
      exact absurd hbehind (Nat.not_lt.mpr hle)
  · have hlength := congrArg List.length hu
    have htext := hw.length_text_ge
    have hfive : "[[x]]".toList.length = 5 := rfl
    rw [List.length_append, List.length_append, hfive] at hlength
    have hnil : u.length = 0 := by omega
    rw [List.length_eq_zero_iff.mp hnil, List.append_nil]

/-- Brackets that are left open reach over a link right behind the text. -/
theorem LeavesBracketsOpen.overrun (h : LeavesBracketsOpen front) :
    Overrun (front ++ "[[x]]".toList) front := by
  obtain ⟨a, w, hw, hcut⟩ := h
  obtain ⟨w', hembed, hw', hbody⟩ : ∃ w' : Written, w'.embed = w.embed ∧ w'.WellFormed ∧
      w'.body = w.body ++ "[[x".toList := hw.exists_body_append (by simp)
  have hopens : w'.opening = w.opening := by rw [Written.opening, Written.opening, hembed]
  have hfront : front = a ++ (w.opening ++ w.body) := by
    have hcut' : front ++ [']', ']'] = (a ++ (w.opening ++ w.body)) ++ [']', ']'] := by
      rw [hcut, Written.text]
      simp
    exact List.append_cancel_right hcut'
  have htext : a ++ w'.text = front ++ "[[x]]".toList := by
    simp [Written.text, hopens, hbody, hfront]
  have hstands' : w'.StandsAt (front ++ "[[x]]".toList) a := ⟨hw', htext ▸ List.prefix_rfl⟩
  obtain ⟨a', w'', hw'', hstands, htext', hplace⟩ := hstands'.brackets
  refine ⟨a', w'', hw'', hstands, ?_, ?_⟩
  · have hlength := congrArg List.length hfront
    have hopening := w.length_opening_ge
    rw [List.length_append, List.length_append] at hlength
    rcases hplace with ⟨rfl, -⟩ | ⟨rfl, -⟩
    · omega
    · rw [List.length_append, List.length_singleton]
      omega
  · have hlength := congrArg List.length (htext'.trans htext)
    rw [List.length_append, List.length_append] at hlength
    have hfive : "[[x]]".toList.length = 5 := rfl
    omega

/-- A line that starts with brackets does not close a fence, so the block goes on behind it. -/
theorem fencedFrom_link {fence : CodeSpan.Fence} (hmark : CodeSpan.IsMark fence.mark)
    (hwidth : 0 < fence.width) (p : Position) :
    CodeSpan.fencedFrom (some fence) p (splitLines "[[x]]".toList) =
      [fence.span (p.advance "[[x]]".toList)] := by
  have hclosed : ¬ fence.closedBy "[[x]]".toList = true := by
    intro hclosed
    rcases (CodeSpan.Fence.closedBy_sound hwidth hclosed).2 '[' (by simp) with hbracket | hblank
    · rw [← hbracket] at hmark
      exact absurd hmark (by decide)
    · exact nomatch hblank
  have hsplit : splitLines "[[x]]".toList = ["[[x]]".toList] := by decide
  have hbare : dropEndWhile isLineEnd "[[x]]".toList = "[[x]]".toList := by decide
  rw [hsplit, CodeSpan.fencedFrom_some_cons, hbare, if_neg hclosed]
  rfl

/-- A fence that is left open has a link right behind the text in it. -/
theorem covers_of_fenceBehind (hline : EndsLine front) {fence : CodeSpan.Fence}
    (h : CodeSpan.fenceBehind none .start (splitLines front) = some fence) :
    CodeSpan.covers (CodeSpan.findAll (front ++ "[[x]]".toList)) (byteLength front) = true := by
  have hnone : ∀ fence ∈ (none : Option CodeSpan.Fence), CodeSpan.IsMark fence.mark ∧
      0 < fence.width ∧ fence.opened.offset ≤ Position.start.offset := by simp
  obtain ⟨hmark, hwidth, hopened⟩ := CodeSpan.fenceBehind_sound hnone fence h
  rw [CodeSpan.splitLines_flatten, CodeSpan.offset_advance_start] at hopened
  obtain ⟨closed, hfences⟩ := CodeSpan.exists_fencedFrom_append none .start (splitLines front)
  rw [CodeSpan.splitLines_flatten, h] at hfences
  have hspan : fence.span ((Position.start.advance front).advance "[[x]]".toList) ∈
      CodeSpan.findAll (front ++ "[[x]]".toList) := by
    refine CodeSpan.mem_findAll.mpr (.inl ?_)
    rw [CodeSpan.fencedBlocks, hline.splitLines_append, hfences, fencedFrom_link hmark hwidth]
    simp
  refine List.any_eq_true.mpr ⟨_, hspan, ?_⟩
  have hstop : (fence.span ((Position.start.advance front).advance "[[x]]".toList)).stop =
      byteLength front + 5 := by
    rw [← CodeSpan.offset_advance_start front]
    rfl
  rw [hstop, Bool.and_eq_true, decide_eq_true_eq, decide_eq_true_eq]
  exact ⟨hopened, by omega⟩

/-- With one more pair of backticks on a line of its own the number of pairs is even, and what
    follows has its own links. -/
theorem keepsLinks_append_pair (hline : EndsLine front)
    (hclosed : CodeSpan.fenceBehind none .start (splitLines front) = none)
    (hodd : (CodeSpan.tickPairs .start front).length % 2 = 1)
    (hbrackets : ¬ LeavesBracketsOpen front) : KeepsLinks (front ++ "``\n".toList) where
  endsLine := EndsLine.append (by decide) front
  fence_closed := by
    rw [hline.splitLines_append, CodeSpan.fenceBehind_append, hclosed]
    rfl
  pairs_even := by
    obtain ⟨line, rfl⟩ := endsLine_iff.mp hline
    have hpair (p : Position) : (CodeSpan.tickPairs p "``\n".toList).length = 1 :=
      CodeSpan.length_tickPairs p .start _
    rw [List.append_assoc, List.singleton_append, CodeSpan.tickPairs_append_line,
      List.length_append, hpair]
    rw [CodeSpan.tickPairs_append_line, List.length_append] at hodd
    have hnil (p : Position) : (CodeSpan.tickPairs p []).length = 0 := rfl
    rw [hnil] at hodd
    omega
  brackets_closed := by
    rintro ⟨a, w, hw, hcut⟩
    rw [List.append_assoc] at hcut
    have hfive : ("``\n".toList ++ [']', ']']).length = 5 := rfl
    -- What was added has no opening brackets, so the link begins in the text and goes on behind it.
    have hadded : w.text ≠ "``\n".toList ++ [']', ']'] := by
      rw [Written.text, Written.opening]
      split <;> simp
    rcases List.append_eq_append_iff.mp hcut with ⟨more, rfl, hmore⟩ | ⟨z, rfl, hz⟩
    · have hlength := congrArg List.length hmore
      have htext := hw.length_text_ge
      rw [hfive, List.length_append] at hlength
      obtain rfl := List.length_eq_zero_iff.mp (by omega : more.length = 0)
      exact hadded hmore.symm
    · have hne : z ≠ [] := fun hnil => hadded (by rw [hz, hnil, List.nil_append])
      exact hbrackets (leavesBracketsOpen_of_crossing (List.suffix_append a z) (hline.of_append hne)
        hw (hz ▸ List.prefix_append ..))

/-- A text that ends a line keeps links if it does so whatever follows it. -/
theorem keepsLinks_of_follow (hline : EndsLine front) (h : ∀ body, Follow front body) :
    KeepsLinks front := by
  obtain ⟨hover, hcode⟩ := Follow.found hline (h "[[x]]".toList)
  have hbrackets : ¬ LeavesBracketsOpen front := fun hopen => hover hopen.overrun
  have hclosed : CodeSpan.fenceBehind none .start (splitLines front) = none := by
    rw [Option.eq_none_iff_forall_ne_some]
    exact fun fence hfence =>
      nomatch hcode.symm.trans (covers_of_fenceBehind hline hfence)
  refine ⟨⟨hline, hclosed, ?_⟩, hbrackets⟩
  by_contra hodd
  -- On its own the body has code around its link, behind the text it has not.
  have hodd : (CodeSpan.tickPairs .start front).length % 2 = 1 := by omega
  have hbehind := (keepsLinks_append_pair hline hclosed hodd hbrackets).follow "[[x]]``".toList
  have hpaired := h "``\n[[x]]``".toList
  have hquoted : ofChars "``\n[[x]]``".toList = [] := by decide +kernel
  rw [Follow, hquoted, List.map_nil, List.filter_eq_nil_iff] at hpaired
  obtain ⟨link, hlink, hline'⟩ := hbehind.exists_behind (by decide +kernel)
  rw [List.append_assoc] at hlink
  refine hpaired link hlink (decide_eq_true (Nat.lt_of_le_of_lt ?_ hline'))
  rw [lineFeeds_append]
  exact Nat.le_add_right ..

/-- A text that ends a line plays no part in the links of anything that may follow it exactly if it
    leaves open neither a fence nor a pair of backticks nor brackets. -/
theorem keepsLinks_iff (hline : EndsLine front) :
    (∀ body, Follow front body) ↔ KeepsLinks front :=
  ⟨keepsLinks_of_follow hline, KeepsLinks.follow⟩

end Link

end WikiNotes
