import WikiNotes.Proofs.Note.CodeSpan
import WikiNotes.Proofs.Note.Link

/-! # Links as they are written

`Written.text` writes a link down, and `Written.WellFormed` says which ones can be written.  The
pattern of links matches exactly these (`linkAt?_eq_some_iff`).  Since nothing between the brackets
of a link closes them, links that overlap end together (`Written.StandsAt.end_eq`), so in a text the
brackets are read over which none reach that open earlier (`Written.StandsAt.found_iff`).  The
earlier ones do so in code as well: code is left out of what was found only afterwards
(`mem_ofChars_iff`), and brackets in code can keep a link behind it from being read
(`exists_mem_ofText_iff`, `ofText_misses_link`). -/

namespace WikiNotes

open Text

namespace Link

/-! ### The grammar -/

/-- An optional part as it is written: its mark and what stands behind that. -/
def optionalText (mark : Char) : Option (List Char) → List Char
  | none => []
  | some part => mark :: part

namespace Written

/-- What stands between the brackets of a link. -/
def body (w : Written) : List Char :=
  w.target ++ (optionalText '#' w.heading ++ optionalText '|' w.label)

/-- What stands in front of the body of a link. -/
def opening (w : Written) : List Char := if w.embed then ['!', '[', '['] else ['[', '[']

/-- A link as it is written. -/
def text (w : Written) : List Char := w.opening ++ w.body ++ [']', ']']

/-- The parts of a link are not empty and hold none of the characters that end them. -/
structure WellFormed (w : Written) : Prop where
  target_ne : w.target ≠ []
  target_chars : ∀ c ∈ w.target, isTargetChar c = true
  heading_ne : w.heading ≠ some []
  heading_chars : ∀ part ∈ w.heading, ∀ c ∈ part, isHeadingChar c = true
  label_ne : w.label ≠ some []
  label_chars : ∀ part ∈ w.label, ∀ c ∈ part, (c != ']') = true

end Written

variable {mark : Char} {allowed : Char → Bool}

theorem head?_optionalText_append {part? : Option (List Char)} {rest : List Char} {c : Char}
    (h : (optionalText mark part? ++ rest).head? = some c) : c = mark ∨ rest.head? = some c := by
  cases part? with
  | none => exact .inr h
  | some part => exact .inl (Option.some.inj h).symm

theorem optionalPart_sound {cs rest : List Char} {part? : Option (List Char)}
    (h : optionalPart mark allowed cs = (part?, rest)) :
    cs = optionalText mark part? ++ rest ∧ part? ≠ some [] ∧
      ∀ part ∈ part?, ∀ c ∈ part, allowed c = true := by
  cases cs with
  | nil =>
    obtain ⟨rfl, rfl⟩ := Prod.mk.inj h
    exact ⟨rfl, nofun, nofun⟩
  | cons c cs =>
    simp only [optionalPart] at h
    split at h
    case isFalse =>
      obtain ⟨rfl, rfl⟩ := Prod.mk.inj h
      exact ⟨rfl, nofun, nofun⟩
    case isTrue hpart =>
      obtain ⟨rfl, hne⟩ := hpart
      obtain ⟨rfl, rfl⟩ := Prod.mk.inj h
      refine ⟨by simp [optionalText], by simpa using hne, ?_⟩
      rintro part ⟨⟩ c hc
      exact List.mem_takeWhile_imp hc

/-- An optional part is read back if what follows neither belongs to it nor looks like one. -/
theorem optionalPart_complete {part? : Option (List Char)} {rest : List Char}
    (hne : part? ≠ some []) (hchars : ∀ part ∈ part?, ∀ c ∈ part, allowed c = true)
    (hrest : ∀ c, rest.head? = some c → allowed c = false ∧ c ≠ mark) :
    optionalPart mark allowed (optionalText mark part? ++ rest) = (part?, rest) := by
  cases part? with
  | none =>
    cases rest with
    | nil => rfl
    | cons c rest =>
      have hmark := (hrest c rfl).2
      simp [optionalText, optionalPart, hmark]
  | some part =>
    have hall : ∀ c ∈ part, allowed c = true := hchars part rfl
    have hstop : ∀ c, rest.head? = some c → allowed c = false := fun c hc => (hrest c hc).1
    have hpart : part ≠ [] := fun heq => hne (congrArg some heq)
    simp [optionalText, optionalPart, takeWhile_append_of_stop hall hstop,
      dropWhile_append_of_stop hall hstop, hpart]

/-- What is read behind the opening brackets is a body and the closing brackets. -/
theorem bracketed?_eq_some_iff {embed : Bool} {cs rest : List Char} {w : Written} :
    bracketed? embed cs = some (w, rest) ↔
      w.embed = embed ∧ w.WellFormed ∧ cs = w.body ++ ']' :: ']' :: rest := by
  constructor
  · intro h
    simp only [bracketed?] at h
    have hcut := (List.takeWhile_append_dropWhile (p := isTargetChar) (l := cs)).symm
    generalize hheading : optionalPart '#' isHeadingChar (cs.dropWhile isTargetChar) = found at h
    obtain ⟨heading, cs₁⟩ := found
    generalize hlabel : optionalPart '|' (· != ']') cs₁ = found at h
    obtain ⟨label, cs₂⟩ := found
    obtain ⟨heq, hheading_ne, hheading_chars⟩ := optionalPart_sound hheading
    obtain ⟨heq₁, hlabel_ne, hlabel_chars⟩ := optionalPart_sound hlabel
    dsimp only at h
    split at h
    case h_2 => exact nomatch h
    case h_1 =>
      split at h
      case isTrue => exact nomatch h
      case isFalse htarget =>
        obtain ⟨rfl, rfl⟩ := Prod.mk.inj (Option.some.inj h)
        refine ⟨rfl, ⟨htarget, fun c hc => List.mem_takeWhile_imp hc, hheading_ne, hheading_chars,
          hlabel_ne, hlabel_chars⟩, ?_⟩
        rw [heq, heq₁] at hcut
        simpa [Written.body] using hcut
  · rintro ⟨rfl, hw, rfl⟩
    obtain ⟨close, hclose⟩ : ∃ close, close = ']' :: ']' :: rest := ⟨_, rfl⟩
    obtain ⟨tail, htail⟩ : ∃ tail, tail = optionalText '|' w.label ++ close := ⟨_, rfl⟩
    have hbody : w.body ++ ']' :: ']' :: rest =
        w.target ++ (optionalText '#' w.heading ++ tail) := by
      rw [htail, hclose, Written.body, List.append_assoc, List.append_assoc]
    have hclose_stop : ∀ c, close.head? = some c → c = ']' := by
      rw [hclose]
      exact fun c hc => (Option.some.inj hc).symm
    have htail_stop : ∀ c, tail.head? = some c → c = '|' ∨ c = ']' := by
      rw [htail]
      exact fun c hc => (head?_optionalText_append hc).imp_right (hclose_stop c)
    have htarget : ∀ c, (optionalText '#' w.heading ++ tail).head? = some c →
        isTargetChar c = false := by
      intro c hc
      rcases (head?_optionalText_append hc).imp_right (htail_stop c) with rfl | rfl | rfl <;> rfl
    have hheading : optionalPart '#' isHeadingChar (optionalText '#' w.heading ++ tail) =
        (w.heading, tail) := by
      refine optionalPart_complete hw.heading_ne hw.heading_chars fun c hc => ?_
      rcases htail_stop c hc with rfl | rfl <;> decide
    have hlabel : optionalPart '|' (· != ']') tail = (w.label, close) := by
      rw [htail]
      refine optionalPart_complete hw.label_ne hw.label_chars fun c hc => ?_
      obtain rfl := hclose_stop c hc
      decide
    simp only [bracketed?, hbody, takeWhile_append_of_stop hw.target_chars htarget,
      dropWhile_append_of_stop hw.target_chars htarget, hheading, hlabel, hclose, hw.target_ne,
      if_false]

/-- The pattern of links matches what is written as a link. -/
theorem linkAt?_eq_some_iff {cs : List Char} {found : Match Written} :
    linkAt? cs = some found ↔ found.value.WellFormed ∧ found.value.text <+: cs ∧
      found.length = found.value.text.length := by
  constructor
  · intro h
    obtain ⟨⟨w, rest⟩, hread, rfl⟩ := Option.map_eq_some_iff.mp h
    have hwritten : w.WellFormed ∧ cs = w.text ++ rest := by
      split at hread
      case h_1 =>
        obtain ⟨hembed, hw, rfl⟩ := bracketed?_eq_some_iff.mp hread
        exact ⟨hw, by simp [Written.text, Written.opening, hembed]⟩
      case h_2 =>
        obtain ⟨hembed, hw, rfl⟩ := bracketed?_eq_some_iff.mp hread
        exact ⟨hw, by simp [Written.text, Written.opening, hembed]⟩
      case h_3 => exact nomatch hread
    obtain ⟨hw, rfl⟩ := hwritten
    exact ⟨hw, List.prefix_append .., by simp⟩
  · rintro ⟨hw, ⟨rest, rfl⟩, hlength⟩
    obtain ⟨w, n⟩ := found
    obtain rfl : n = w.text.length := hlength
    have hread : bracketed? w.embed (w.body ++ ']' :: ']' :: rest) = some (w, rest) :=
      bracketed?_eq_some_iff.mpr ⟨rfl, hw, rfl⟩
    have hlink : linkAt? (w.text ++ rest) = (bracketed? w.embed (w.body ++ ']' :: ']' :: rest)).map
        fun read => ⟨read.1, (w.text ++ rest).length - read.2.length⟩ := by
      cases hembed : w.embed with
      | true =>
        have htext : w.text ++ rest = '!' :: '[' :: '[' :: (w.body ++ ']' :: ']' :: rest) := by
          simp [Written.text, Written.opening, hembed]
        rw [htext]
        rfl
      | false =>
        have htext : w.text ++ rest = '[' :: '[' :: (w.body ++ ']' :: ']' :: rest) := by
          simp [Written.text, Written.opening, hembed]
        rw [htext]
        rfl
    rw [hlink, hread]
    simp

theorem proper_linkAt? : Proper linkAt? := by
  intro cs found h
  obtain ⟨-, htext, hlength⟩ := linkAt?_eq_some_iff.mp h
  rw [hlength]
  refine ⟨?_, htext.length_le⟩
  simp only [Written.text, List.length_append, List.length_cons]
  omega

/-! ### Brackets in a text -/

/-- A link stands in a text behind a part of it. -/
def Written.StandsAt (w : Written) (cs a : List Char) : Prop :=
  w.WellFormed ∧ a ++ w.text <+: cs

theorem not_mem_optionalText {part? : Option (List Char)} {c : Char} (hmark : c ≠ mark)
    (hchars : ∀ part ∈ part?, ∀ c ∈ part, allowed c = true) (hc : allowed c = false) :
    c ∉ optionalText mark part? := by
  cases part? with
  | none => exact List.not_mem_nil
  | some part =>
    rw [optionalText, List.mem_cons, not_or]
    exact ⟨hmark, fun hmem => Bool.false_ne_true (hc.symm.trans (hchars part rfl c hmem))⟩

/-- Between the brackets of a link stands no closing bracket. -/
theorem Written.WellFormed.not_mem_body {w : Written} (h : w.WellFormed) : ']' ∉ w.body := by
  have htarget : ']' ∉ w.target := fun hmem => absurd (h.target_chars _ hmem) (by decide)
  have hheading := not_mem_optionalText (by decide : ']' ≠ '#') h.heading_chars (by decide)
  have hlabel := not_mem_optionalText (by decide : ']' ≠ '|') h.label_chars (by decide)
  simp [body, htarget, hheading, hlabel]

/-- In front of the closing brackets of a link stands no closing bracket. -/
theorem Written.WellFormed.not_mem_front {w : Written} (h : w.WellFormed) :
    ∀ c ∈ w.opening ++ w.body, (c != ']') = true := by
  intro c hc
  rw [bne_iff_ne]
  rintro rfl
  rcases List.mem_append.mp hc with hc | hc
  · rw [opening] at hc
    split at hc <;> simp at hc
  · exact h.not_mem_body hc

theorem Written.text_eq_cons (w : Written) :
    ∃ c c' rest, w.text = c :: c' :: rest ∧ c ≠ ']' ∧ c' ≠ ']' := by
  rw [text, opening]
  split
  · exact ⟨'!', '[', _, rfl, by decide, by decide⟩
  · exact ⟨'[', '[', _, rfl, by decide, by decide⟩

/-- Links that overlap end together. -/
theorem Written.StandsAt.end_eq {w w' : Written} {cs a a' : List Char} (h : w.StandsAt cs a)
    (h' : w'.StandsAt cs a') (hle : a.length ≤ a'.length)
    (hlt : a'.length < a.length + w.text.length) :
    a.length + w.text.length = a'.length + w'.text.length := by
  obtain ⟨hw, b, hcs⟩ := h
  obtain ⟨hw', b', hcs'⟩ := h'
  obtain ⟨u, rfl⟩ : a <+: a' := List.prefix_of_prefix_length_le
    ⟨w.text ++ b, by rw [← List.append_assoc, hcs]⟩
    ⟨w'.text ++ b', by rw [← List.append_assoc, hcs']⟩ hle
  have hsame : (w.opening ++ w.body) ++ ']' :: ']' :: b = u ++ (w'.text ++ b') := by
    rw [← hcs'] at hcs
    simpa [text] using hcs
  have hstop (rest : List Char) : ∀ c, (']' :: rest).head? = some c → (c != ']') = false := by
    rintro c ⟨⟩
    rfl
  -- The second link opens behind `u`, so `u` ends before the first one closes.
  rcases List.append_eq_append_iff.mp hsame with ⟨v, rfl, hv⟩ | ⟨v, hfront, hv⟩
  · obtain ⟨c, c', rest, htext, hc, hc'⟩ := w'.text_eq_cons
    rw [htext] at hv
    match v with
    | [] => exact absurd (List.cons.inj hv).1.symm hc
    | [_] => exact absurd (List.cons.inj (List.cons.inj hv).2).1.symm hc
    | _ :: _ :: v =>
      simp only [text, List.length_append, List.length_cons, List.length_nil] at hlt
      omega
  · have hno : ∀ c ∈ v, (c != ']') = true := fun c hc =>
      hw.not_mem_front c (hfront ▸ List.mem_append_right _ hc)
    have hv' : (w'.opening ++ w'.body) ++ ']' :: ']' :: b' = v ++ ']' :: ']' :: b := by
      simpa [text] using hv
    have htake := congrArg (List.takeWhile (· != ']')) hv'
    rw [takeWhile_append_of_stop hw'.not_mem_front (hstop _),
      takeWhile_append_of_stop hno (hstop _)] at htake
    have hlength := congrArg List.length hfront
    rw [← htake] at hlength
    simp only [text, List.length_append, List.length_cons, List.length_nil] at hlength ⊢
    omega

/-- Brackets that open earlier in a text reach over a place in it. -/
def Overrun (cs a : List Char) : Prop :=
  ∃ a' w, w.embed = false ∧ Written.StandsAt w cs a' ∧ a'.length < a.length ∧
    a.length < a'.length + w.text.length

/-! ### Which links are found -/

/-- What is found where a link stands. -/
def foundAt (a : List Char) (w : Written) : Found Written :=
  ⟨w, Position.start.advance a, Position.start.advance (a ++ w.text)⟩

theorem exists_foundAt {cs : List Char} {f : Found Written} (h : f ∈ Text.findAll linkAt? cs) :
    ∃ a, f = foundAt a f.value ∧ f.value.StandsAt cs a := by
  obtain ⟨a, m, b, rfl, -, hmatch, hstart, hstop⟩ := proper_linkAt?.exists_of_mem h
  obtain ⟨hw, htext, hlength⟩ := linkAt?_eq_some_iff.mp hmatch
  obtain rfl : f.value.text = m :=
    (List.prefix_of_prefix_length_le htext ⟨b, rfl⟩ (Nat.le_of_eq hlength.symm)).eq_of_length
      hlength.symm
  refine ⟨a, ?_, hw, List.prefix_append ..⟩
  rw [foundAt, ← hstart, ← hstop]

/-- A link that stands in a text is found unless it starts inside one that is found. -/
theorem Written.StandsAt.found_or_inside {w : Written} {cs a : List Char} (h : w.StandsAt cs a) :
    foundAt a w ∈ Text.findAll linkAt? cs ∨
      ∃ a' w', foundAt a' w' ∈ Text.findAll linkAt? cs ∧ w'.StandsAt cs a' ∧
        a'.length < a.length ∧ a.length < a'.length + w'.text.length := by
  obtain ⟨hw, b, rfl⟩ := h
  have hne : w.text ≠ [] := by simp [text]
  have hmatch : linkAt? (w.text ++ b) = some ⟨w, w.text.length⟩ :=
    linkAt?_eq_some_iff.mpr ⟨hw, List.prefix_append .., rfl⟩
  refine (proper_linkAt?.mem_or_inside .start hne hmatch).imp_right ?_
  rintro ⟨a', m, b', w', hcs, hmatch', hmem, hbefore, hbehind⟩
  obtain ⟨hw', htext, hlength⟩ := linkAt?_eq_some_iff.mp hmatch'
  obtain rfl : w'.text = m :=
    (List.prefix_of_prefix_length_le htext ⟨b', rfl⟩ (Nat.le_of_eq hlength.symm)).eq_of_length
      hlength.symm
  exact ⟨a', w', hmem, ⟨hw', b', hcs⟩, hbefore, hbehind⟩

/-- Of two links that are found the first one ends before the other one starts. -/
theorem length_le_of_found {cs a a' : List Char} {w w' : Written} (hw : w.StandsAt cs a)
    (h : foundAt a w ∈ Text.findAll linkAt? cs) (hw' : w'.StandsAt cs a')
    (h' : foundAt a' w' ∈ Text.findAll linkAt? cs) (hlt : a'.length < a.length) :
    a'.length + w'.text.length ≤ a.length := by
  obtain ⟨-, b, hcs⟩ := hw
  obtain ⟨-, b', hcs'⟩ := hw'
  have hcut : a' ++ (w'.text ++ b') = a ++ (w.text ++ b) := by
    rw [← List.append_assoc, hcs', ← List.append_assoc, hcs]
  have hstop := proper_linkAt?.stop_le_of_start_lt h' h
    (Nat.add_lt_add_left ((byteLength_lt_iff hcut).mpr hlt) _)
  have hcut' : (a' ++ w'.text) ++ b' = a ++ (w.text ++ b) := by
    rw [hcs', ← List.append_assoc, hcs]
  rw [← List.length_append, ← byteLength_le_iff hcut']
  exact Nat.le_of_add_le_add_left hstop

/-- A link that is found does not start inside any other one. -/
theorem length_le_of_standsAt {cs a a' : List Char} {w w' : Written} (hw : w.StandsAt cs a)
    (h : foundAt a w ∈ Text.findAll linkAt? cs) (hw' : w'.StandsAt cs a')
    (hlt : a'.length < a.length) : a'.length + w'.text.length ≤ a.length := by
  rcases hw'.found_or_inside with hfound | ⟨a'', w'', hfound, hstands, hbefore, hbehind⟩
  · exact length_le_of_found hw h hw' hfound hlt
  · -- The link around its start ends together with it.
    have hend := hstands.end_eq hw' (Nat.le_of_lt hbefore) hbehind
    have hle := length_le_of_found hw h hstands hfound (Nat.lt_trans hbefore hlt)
    omega

/-! ### Exclamation marks -/

/-- What is in front of a link whose brackets open behind a part of a text. -/
def inFront (a : List Char) : List Char := if a.getLast? = some '!' then a.dropLast else a

/-- Brackets as they are read: an exclamation mark in front of them makes an embed. -/
def asRead (a : List Char) (w : Written) : Written :=
  { w with embed := decide (a.getLast? = some '!') }

/-- The two ways in which brackets are read. -/
theorem inFront_cases (a : List Char) (w : Written) (hw : w.embed = false) :
    (a.getLast? ≠ some '!' ∧ inFront a = a ∧ asRead a w = w) ∨
      ∃ x, a = x ++ ['!'] ∧ inFront a = x ∧ asRead a w = { w with embed := true } := by
  by_cases hlast : a.getLast? = some '!'
  · obtain ⟨x, rfl⟩ := List.getLast?_eq_some_iff.mp hlast
    exact .inr ⟨x, rfl, by simp [inFront], by simp [asRead]⟩
  · refine .inl ⟨hlast, if_neg hlast, ?_⟩
    cases w
    simp_all [asRead]

theorem inFront_append_text (a : List Char) (w : Written) (hw : w.embed = false) :
    inFront a ++ (asRead a w).text = a ++ w.text := by
  rcases inFront_cases a w hw with ⟨-, hfront, hread⟩ | ⟨x, rfl, hfront, hread⟩
  · rw [hfront, hread]
  · rw [hfront, hread]
    simp [Written.text, Written.opening, Written.body, hw]

theorem Written.WellFormed.withEmbed {w : Written} (h : w.WellFormed) (embed : Bool) :
    { w with embed }.WellFormed :=
  ⟨h.1, h.2, h.3, h.4, h.5, h.6⟩

/-- Where a link stands, its brackets stand, right there or behind an exclamation mark. -/
theorem Written.StandsAt.brackets {w : Written} {cs a : List Char} (h : w.StandsAt cs a) :
    ∃ a' w', w'.embed = false ∧ w'.StandsAt cs a' ∧ a' ++ w'.text = a ++ w.text ∧
      (a' = a ∧ w' = w ∨ a' = a ++ ['!'] ∧ { w' with embed := true } = w) := by
  cases hembed : w.embed with
  | false => exact ⟨a, w, hembed, h, rfl, .inl ⟨rfl, rfl⟩⟩
  | true =>
    have htext : (a ++ ['!']) ++ { w with embed := false }.text = a ++ w.text := by
      simp [text, opening, body, hembed]
    have hstands : { w with embed := false }.StandsAt cs (a ++ ['!']) := by
      refine ⟨h.1.withEmbed false, ?_⟩
      rw [htext]
      exact h.2
    refine ⟨a ++ ['!'], { w with embed := false }, rfl, hstands, htext, .inr ⟨rfl, ?_⟩⟩
    rw [← hembed]

theorem Written.StandsAt.asRead {w : Written} {cs a : List Char} (h : w.StandsAt cs a)
    (hw : w.embed = false) : (asRead a w).StandsAt cs (inFront a) := by
  refine ⟨h.1.withEmbed _, ?_⟩
  rw [inFront_append_text a w hw]
  exact h.2

theorem Written.length_text_pos (w : Written) : 1 < w.text.length := by
  simp only [text, List.length_append, List.length_cons, List.length_nil]
  omega

/-- Brackets are read exactly if no brackets that open earlier reach over them. -/
theorem Written.StandsAt.found_iff {w : Written} {cs a : List Char} (h : w.StandsAt cs a)
    (hw : w.embed = false) :
    foundAt (inFront a) (Link.asRead a w) ∈ Text.findAll linkAt? cs ↔ ¬ Overrun cs a := by
  have hread := h.asRead hw
  have hlength : (inFront a).length + (Link.asRead a w).text.length = a.length + w.text.length := by
    rw [← List.length_append, inFront_append_text a w hw, List.length_append]
  have hpos := w.length_text_pos
  constructor
  · rintro hfound ⟨a', w', hw', hstands, hbefore, hbehind⟩
    rcases inFront_cases a w hw with ⟨-, hfront, -⟩ | ⟨x, rfl, hfront, hembed⟩
    · have hle := length_le_of_standsAt hread hfound hstands (by rwa [hfront])
      rw [hfront] at hle
      omega
    · rw [List.length_append, List.length_singleton] at hbefore hbehind
      by_cases hlt : a'.length < x.length
      · have hle := length_le_of_standsAt hread hfound hstands (by rwa [hfront])
        rw [hfront] at hle
        omega
      · -- At one place there is an exclamation mark or a bracket.
        obtain ⟨-, b, hcs⟩ := hread
        obtain ⟨-, b', hcs'⟩ := hstands
        rw [hfront, hembed] at hcs
        rw [← hcs, List.append_assoc, List.append_assoc] at hcs'
        have hsame := (List.append_inj hcs' (by omega)).2
        simp [text, opening, hw'] at hsame
  · intro hover
    refine hread.found_or_inside.resolve_right ?_
    rintro ⟨a', w', -, hstands, hbefore, hbehind⟩
    have hend := hstands.end_eq hread (Nat.le_of_lt hbefore) hbehind
    obtain ⟨a'', w'', hw'', hstands', htext, hplace⟩ := hstands.brackets
    have hend' := congrArg List.length htext
    rw [List.length_append, List.length_append] at hend'
    refine hover ⟨a'', w'', hw'', hstands', ?_, by omega⟩
    rcases inFront_cases a w hw with ⟨hlast, hfront, -⟩ | ⟨x, rfl, hfront, -⟩
    · rw [hfront] at hbefore
      rcases hplace with ⟨rfl, -⟩ | ⟨rfl, -⟩
      · exact hbefore
      · -- Otherwise the exclamation mark would stand right in front of the brackets.
        refine Nat.lt_of_le_of_ne (by rw [List.length_append]; exact hbefore) fun heq => hlast ?_
        obtain ⟨-, b, hcs⟩ := h
        obtain ⟨-, b', hcs'⟩ := hstands'
        have hcut : (a' ++ ['!']) ++ (w''.text ++ b') = a ++ (w.text ++ b) := by
          rw [← List.append_assoc, hcs', ← List.append_assoc, hcs]
        rw [← (List.append_inj hcut heq).1]
        simp
    · rw [hfront] at hbefore
      rcases hplace with ⟨rfl, -⟩ | ⟨rfl, -⟩
      · simp only [List.length_append, List.length_singleton]
        omega
      · simpa using hbefore

/-- What is found are brackets as they are read. -/
theorem exists_brackets_of_found {cs : List Char} {f : Found Written}
    (h : f ∈ Text.findAll linkAt? cs) :
    ∃ a w, w.embed = false ∧ w.StandsAt cs a ∧ f = foundAt (inFront a) (asRead a w) := by
  obtain ⟨x, hf, hstands⟩ := exists_foundAt h
  obtain ⟨a, w, hw, hstands', -, ⟨rfl, rfl⟩ | ⟨rfl, hembed⟩⟩ := hstands.brackets
  · rcases inFront_cases a f.value hw with ⟨-, hfront, hread⟩ | ⟨y, rfl, -⟩
    · exact ⟨a, f.value, hw, hstands', by rw [hfront, hread]; exact hf⟩
    · -- An exclamation mark in front would have been read with the brackets.
      have hembed : { f.value with embed := true }.StandsAt cs y := by
        refine ⟨hstands.1.withEmbed true, ?_⟩
        have htext := inFront_append_text (y ++ ['!']) f.value hw
        have hprefix := hstands.2
        rw [← htext] at hprefix
        simpa [inFront, asRead] using hprefix
      rw [hf] at h
      have hle := length_le_of_standsAt hstands h hembed (by simp)
      have hpos := { f.value with embed := true }.length_text_pos
      rw [List.length_append, List.length_singleton] at hle
      omega
  · refine ⟨x ++ ['!'], w, hw, hstands', ?_⟩
    have hread : asRead (x ++ ['!']) w = f.value := by rw [← hembed]; simp [asRead]
    have hfront : inFront (x ++ ['!']) = x := by simp [inFront]
    rw [hread, hfront]
    exact hf

/-! ### Links outside code -/

/-- An exclamation mark in front of brackets lies on the same side of code as the brackets. -/
theorem Written.StandsAt.covers_inFront {w : Written} {cs a : List Char} (h : w.StandsAt cs a)
    (hw : w.embed = false) :
    CodeSpan.covers (CodeSpan.findAll cs) (byteLength (inFront a)) =
      CodeSpan.covers (CodeSpan.findAll cs) (byteLength a) := by
  rcases inFront_cases a w hw with ⟨-, hfront, -⟩ | ⟨x, rfl, hfront, -⟩
  · rw [hfront]
  · obtain ⟨-, b, hcs⟩ := h
    have hmark : cs = x ++ '!' :: '[' :: ('[' :: w.body ++ [']', ']'] ++ b) := by
      rw [← hcs]
      simp [text, opening, hw]
    rw [hfront]
    exact (CodeSpan.covers_append_singleton hmark (by decide) (by decide)).symm

theorem line_inFront (a : List Char) :
    (Position.start.advance (inFront a)).line = (Position.start.advance a).line := by
  rcases inFront_cases a ⟨false, [], none, none⟩ rfl with ⟨-, hfront, -⟩ | ⟨x, rfl, hfront, -⟩
  · rw [hfront]
  · rw [hfront]
    simp [Position.advance, lineFeeds]

/-- The links of a text are its brackets that no earlier ones reach over and that do not open in
    code. -/
theorem mem_ofChars_iff {cs : List Char} {link : Link} :
    link ∈ ofChars cs ↔ ∃ a w, w.embed = false ∧ w.StandsAt cs a ∧ ¬ Overrun cs a ∧
      CodeSpan.covers (CodeSpan.findAll cs) (byteLength a) = false ∧
        ofFound? (foundAt (inFront a) (asRead a w)) = some link := by
  rw [ofChars, mem_outside]
  constructor
  · rintro ⟨f, hf, hcode, hlink⟩
    obtain ⟨a, w, hw, hstands, rfl⟩ := exists_brackets_of_found hf
    refine ⟨a, w, hw, hstands, (hstands.found_iff hw).mp hf, ?_, hlink⟩
    rw [← hstands.covers_inFront hw, ← CodeSpan.offset_advance_start]
    exact hcode
  · rintro ⟨a, w, hw, hstands, hover, hcode, hlink⟩
    refine ⟨_, (hstands.found_iff hw).mpr hover, ?_, hlink⟩
    rw [foundAt, CodeSpan.offset_advance_start, hstands.covers_inFront hw]
    exact hcode

/-- Brackets whose target is not blank make a link. -/
theorem exists_ofFound?_eq_some {f : Found Written} (h : trimChars f.value.target ≠ []) :
    ∃ link, ofFound? f = some link ∧ link.target = String.ofList (trimChars f.value.target) ∧
      link.line = f.start.line := by
  have htrim : trimmed? f.value.target = some (String.ofList (trimChars f.value.target)) := by
    simp [trimmed?, h]
  exact ⟨_, congrArg (Option.map _) htrim, rfl, rfl⟩

/-- Brackets outside code that no earlier ones reach over are read as a link with their target and
    on their line. -/
theorem Written.StandsAt.exists_mem_ofChars {w : Written} {cs a : List Char} (h : w.StandsAt cs a)
    (hw : w.embed = false) (hover : ¬ Overrun cs a)
    (hcode : CodeSpan.covers (CodeSpan.findAll cs) (byteLength a) = false)
    (htarget : trimChars w.target ≠ []) :
    ∃ link ∈ ofChars cs, link.target = String.ofList (trimChars w.target) ∧
      link.line = (Position.start.advance a).line := by
  obtain ⟨link, hlink, hname, hline⟩ :=
    exists_ofFound?_eq_some (f := foundAt (inFront a) (Link.asRead a w)) htarget
  refine ⟨link, mem_ofChars_iff.mpr ⟨a, w, hw, h, hover, hcode, hlink⟩, hname, ?_⟩
  rw [hline]
  exact line_inFront a

/-- Brackets outside code with a plain target are read as a link, with the trimmed target and on
    their line, exactly if no brackets that open earlier reach over them or others are read that
    agree with them in both. -/
theorem exists_mem_ofText_iff {content : String} {a target b : List Char}
    (hcontent : content.toList = a ++ '[' :: '[' :: (target ++ ']' :: ']' :: b))
    (hplain : ∀ c ∈ target, c ≠ '[' ∧ c ≠ ']' ∧ c ≠ '|' ∧ c ≠ '#')
    (hblank : ∃ c ∈ target, isBlank c = false)
    (hcode : CodeSpan.covers (CodeSpan.ofText content) (byteLength a) = false) :
    (∃ link ∈ ofText content, link.target = String.ofList (trimChars target) ∧
        link.line = (Position.start.advance a).line) ↔
      ¬ Overrun content.toList a ∨
        ∃ (a' : List Char) (w : Written), a' ≠ a ∧ w.embed = false ∧
          w.StandsAt content.toList a' ∧ ¬ Overrun content.toList a' ∧
          CodeSpan.covers (CodeSpan.ofText content) (byteLength a') = false ∧
          trimChars w.target = trimChars target ∧
          (Position.start.advance a').line = (Position.start.advance a).line := by
  have hstands : Written.StandsAt ⟨false, target, none, none⟩ content.toList a := by
    refine ⟨⟨?_, fun c hc => ?_, nofun, nofun, nofun, nofun⟩, b, ?_⟩
    · rintro rfl
      simp at hblank
    · obtain ⟨-, hclose, hbar, hhash⟩ := hplain c hc
      simp [isTargetChar, hclose, hbar, hhash]
    · rw [hcontent]
      simp [Written.text, Written.opening, Written.body, optionalText]
  have htarget : trimChars target ≠ [] := by
    obtain ⟨lead, trail, hcut, hlead, htrail⟩ := exists_stripWhile isBlank target
    obtain ⟨c, hc, hnot⟩ := hblank
    intro hnil
    rw [hcut, List.mem_append, List.mem_append] at hc
    rcases hc with (hc | hc) | hc
    · exact Bool.false_ne_true (hnot.symm.trans (hlead c hc))
    · change c ∈ trimChars target at hc
      rw [hnil] at hc
      exact nomatch hc
    · exact Bool.false_ne_true (hnot.symm.trans (htrail c hc))
  constructor
  · rintro ⟨link, hlink, hname, hline⟩
    obtain ⟨a', w, hw, hstands', hover, hcode', hfound⟩ := mem_ofChars_iff.mp hlink
    by_cases hsame : a' = a
    · exact .inl (hsame ▸ hover)
    · obtain ⟨hname', -, hline'⟩ := ofFound?_eq_some hfound
      refine .inr ⟨a', w, hsame, hw, hstands', hover, hcode', ?_, ?_⟩
      · rw [hname, String.toList_ofList] at hname'
        exact hname'.symm
      · rw [← line_inFront a', ← hline, hline']
        rfl
  · rintro (hover | ⟨a', w, -, hw, hstands', hover, hcode', hname, hline⟩)
    · exact hstands.exists_mem_ofChars rfl hover hcode htarget
    · rw [← hname] at htarget ⊢
      rw [← hline]
      exact hstands'.exists_mem_ofChars hw hover hcode' htarget

/-- An embed behind code that holds brackets. -/
theorem exists_mem_ofText_iff_embed :
    let content := "`[[b]]`\n![[ Note ]] [[c"
    let a := "`[[b]]`\n!".toList
    content.toList = a ++ '[' :: '[' :: (" Note ".toList ++ ']' :: ']' :: " [[c".toList) ∧
      (∀ c ∈ " Note ".toList, c ≠ '[' ∧ c ≠ ']' ∧ c ≠ '|' ∧ c ≠ '#') ∧
      (∃ c ∈ " Note ".toList, isBlank c = false) ∧
      CodeSpan.covers (CodeSpan.ofText content) (byteLength a) = false ∧
      (∃ link ∈ ofText content, link.target = "Note" ∧ link.line = 2) ∧
      (¬ Overrun content.toList a ∨
        ∃ (a' : List Char) (w : Written), a' ≠ a ∧ w.embed = false ∧
          w.StandsAt content.toList a' ∧ ¬ Overrun content.toList a' ∧
          CodeSpan.covers (CodeSpan.ofText content) (byteLength a') = false ∧
          trimChars w.target = trimChars " Note ".toList ∧
          (Position.start.advance a').line = (Position.start.advance a).line) := by
  intro content a
  have hcontent : content.toList =
      a ++ '[' :: '[' :: (" Note ".toList ++ ']' :: ']' :: " [[c".toList) := by decide +kernel
  have hplain : ∀ c ∈ " Note ".toList, c ≠ '[' ∧ c ≠ ']' ∧ c ≠ '|' ∧ c ≠ '#' := by simp
  have hblank : ∃ c ∈ " Note ".toList, isBlank c = false := ⟨'N', by simp, by decide⟩
  have hcode : CodeSpan.covers (CodeSpan.ofText content) (byteLength a) = false := by
    decide +kernel
  have hlink : ∃ link ∈ ofText content, link.target = "Note" ∧ link.line = 2 := by decide +kernel
  exact ⟨hcontent, hplain, hblank, hcode, hlink,
    (exists_mem_ofText_iff hcontent hplain hblank hcode).mp hlink⟩

/-- A link in prose is missed when brackets in code in front of it are never closed. -/
theorem ofText_misses_link :
    let content := "`[[` [[a]]"
    let a := "`[[` ".toList
    content.toList = a ++ '[' :: '[' :: (['a'] ++ ']' :: ']' :: []) ∧
      CodeSpan.covers (CodeSpan.ofText content) (byteLength a) = false ∧
      ¬ ∃ link ∈ ofText content, link.target = "a" ∧
        link.line = (Position.start.advance a).line := by
  decide +kernel

end Link

end WikiNotes
