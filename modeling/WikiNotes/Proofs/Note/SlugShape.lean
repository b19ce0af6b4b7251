import WikiNotes.Proofs.Note.Slug
import WikiNotes.Proofs.Text.Composition

/-! # What slugs look like

A slug is tidy: letters and digits in lower case, `_` behind one of them, and single hyphens
(`IsTidy`).  A tidy text is its own slug as far as it is in normal form, so the slug of an ASCII text
is (`slugChars_slugChars_ascii`).

A number behind a slug is kept when the slug is taken again (`slugify_numberedSlug`), but for the
empty slug, where the hyphen in front of the number is lost. -/

namespace WikiNotes.Heading

open Text

/-! ### Letters of slugs -/

/-- Blanks, hyphens and `_` are no letters. -/
theorem not_blank_of_isAlphanumeric {c : Char} (h : isAlphanumeric c = true) :
    isBlank c = false := by
  rw [← Bool.not_eq_true]
  intro hblank
  have hletter : isAlphanumeric c = false :=
    forall_blank (P := fun c => isAlphanumeric c = false) (by decide +kernel) c hblank
  exact nomatch h.symm.trans hletter

/-- The lower case of a letter is no blank and no hyphen. -/
theorem mem_lowerChar_of_isAlphanumeric {c d : Char} (h : isAlphanumeric c = true)
    (hd : d ∈ lowerChar c) : IsLower d ∧ isBlank d = false ∧ d ≠ '-' := by
  by_cases hsigma : c = 'Σ'
  · subst hsigma
    have hlower : lowerChar 'Σ' = ['σ'] := by decide +kernel
    rw [hlower, List.mem_singleton] at hd
    subst hd
    decide +kernel
  · obtain ⟨hlower, rfl | ⟨-, hblank, hascii⟩⟩ := mem_lowerChar hsigma hd
    · refine ⟨hlower, not_blank_of_isAlphanumeric h, ?_⟩
      rintro rfl
      exact absurd h (by decide)
    · refine ⟨hlower, hblank, ?_⟩
      rintro rfl
      exact absurd (hascii (by decide)) (by decide)

/-! ### One step -/

/-- What a character adds to a slug, and the state behind it: its lower case, `_`, a hyphen or
    nothing at all. -/
theorem slugFrom_step (started hyphen : Bool) (c : Char) :
    (isAlphanumeric c = true ∧
      ∀ cs, slugFrom started hyphen (c :: cs) = lowerChar c ++ slugFrom true false cs) ∨
    (started = true ∧ ∀ cs, slugFrom started hyphen (c :: cs) = '_' :: slugFrom true false cs) ∨
    (started = true ∧ hyphen = false ∧
      ∀ cs, slugFrom started hyphen (c :: cs) = '-' :: slugFrom true true cs) ∨
    (isAlphanumeric c = false ∧
      ∀ cs, slugFrom started hyphen (c :: cs) = slugFrom started hyphen cs) := by
  cases hletter : isAlphanumeric c with
  | true => exact .inl ⟨rfl, fun cs => by simp [slugFrom, hletter]⟩
  | false =>
    cases started with
    | false => exact .inr (.inr (.inr ⟨rfl, fun cs => by simp [slugFrom, hletter]⟩))
    | true =>
      by_cases hline : c = '_'
      · subst hline
        exact .inr (.inl ⟨rfl, fun cs => by simp [slugFrom, hletter]⟩)
      · by_cases hbreak : c = '-' ∨ isBlank c = true
        · cases hyphen with
          | false => exact .inr (.inr (.inl ⟨rfl, rfl, fun cs => by
              simp [slugFrom, hletter, hline, hbreak]⟩))
          | true => exact .inr (.inr (.inr ⟨rfl, fun cs => by
              simp [slugFrom, hletter, hline, hbreak]⟩))
        · exact .inr (.inr (.inr ⟨rfl, fun cs => by simp [slugFrom, hletter, hline, hbreak]⟩))

/-- Everything in a slug is `_`, a hyphen or the lower case of a letter or digit of the text. -/
theorem mem_slugFrom_cases {started hyphen : Bool} {cs : List Char} {d : Char}
    (h : d ∈ slugFrom started hyphen cs) :
    d = '_' ∨ d = '-' ∨ ∃ c ∈ cs, isAlphanumeric c = true ∧ d ∈ lowerChar c := by
  induction cs generalizing started hyphen with
  | nil => exact nomatch h
  | cons c cs ih =>
    have hrest {started hyphen : Bool} (hmem : d ∈ slugFrom started hyphen cs) :
        d = '_' ∨ d = '-' ∨ ∃ c' ∈ c :: cs, isAlphanumeric c' = true ∧ d ∈ lowerChar c' :=
      (ih hmem).imp_right (Or.imp_right fun ⟨c', hc', hsound⟩ =>
        ⟨c', List.mem_cons_of_mem c hc', hsound⟩)
    obtain ⟨hletter, hstep⟩ | ⟨-, hstep⟩ | ⟨-, -, hstep⟩ | ⟨-, hstep⟩ :=
      slugFrom_step started hyphen c
    · rw [hstep, List.mem_append] at h
      obtain hlower | hmem := h
      · exact .inr (.inr ⟨c, List.mem_cons_self .., hletter, hlower⟩)
      · exact hrest hmem
    · rw [hstep, List.mem_cons] at h
      obtain rfl | hmem := h
      · exact .inl rfl
      · exact hrest hmem
    · rw [hstep, List.mem_cons] at h
      obtain rfl | hmem := h
      · exact .inr (.inl rfl)
      · exact hrest hmem
    · rw [hstep] at h
      exact hrest h

/-- A slug is in lower case and has no blanks. -/
theorem mem_slugFrom {started hyphen : Bool} {cs : List Char} {d : Char}
    (h : d ∈ slugFrom started hyphen cs) : IsLower d ∧ isBlank d = false := by
  obtain rfl | rfl | ⟨c, -, hletter, hlower⟩ := mem_slugFrom_cases h
  · decide +kernel
  · decide +kernel
  · have hsound := mem_lowerChar_of_isAlphanumeric hletter hlower
    exact ⟨hsound.1, hsound.2.1⟩

theorem mem_slugChars {cs : List Char} {d : Char} (h : d ∈ slugChars cs) :
    IsLower d ∧ isBlank d = false := by
  have hpart : slugChars cs <+: slugFrom false false (normalFormChars cs) := dropEndWhile_prefix ..
  exact mem_slugFrom (hpart.subset h)

/-- A text has no slug exactly if there is no letter or digit in its normal form. -/
theorem slugChars_eq_nil_iff {cs : List Char} :
    slugChars cs = [] ↔ ∀ c ∈ normalFormChars cs, isAlphanumeric c = false := by
  rw [slugChars, dropEndWhile_eq_rdropWhile, List.rdropWhile_eq_nil_iff]
  induction normalFormChars cs with
  | nil => simp [slugFrom]
  | cons c cs ih =>
    obtain ⟨hletter, hstep⟩ | ⟨hstarted, -⟩ | ⟨hstarted, -⟩ | ⟨hletter, hstep⟩ :=
      slugFrom_step false false c
    · obtain ⟨d, hd⟩ := List.exists_mem_of_ne_nil _ (lowerChar_ne_nil c)
      have hhyphen : d ≠ '-' := (mem_lowerChar_of_isAlphanumeric hletter hd).2.2
      refine iff_of_false (fun hall => hhyphen ?_) (by simp [hletter])
      simpa using hall d (hstep cs ▸ List.mem_append_left _ hd)
    · exact nomatch hstarted
    · exact nomatch hstarted
    · rw [hstep, ih]
      simp [hletter]

/-! ### Taking the slug of a slug -/

/-- A text is tidy behind a part of a slug: letters and digits are in lower case, `_` and hyphens
    stand behind one of them, and no hyphen behind another one. -/
def IsTidy (started hyphen : Bool) : List Char → Prop
  | [] => True
  | c :: cs =>
    (isAlphanumeric c = true ∧ lowerChar c = [c] ∧ IsTidy true false cs) ∨
      (started = true ∧ c = '_' ∧ IsTidy true false cs) ∨
      (started = true ∧ c = '-' ∧ hyphen = false ∧ IsTidy true true cs)

/-- A tidy text is taken over as it is. -/
theorem IsTidy.slugFrom_eq {started hyphen : Bool} {cs : List Char} (h : IsTidy started hyphen cs) :
    slugFrom started hyphen cs = cs := by
  have hline : isAlphanumeric '_' = false := by decide
  have hhyphen : isAlphanumeric '-' = false := by decide
  induction cs generalizing started hyphen with
  | nil => rfl
  | cons c cs ih =>
    obtain ⟨hletter, hlower, hcs⟩ | ⟨rfl, rfl, hcs⟩ | ⟨rfl, rfl, rfl, hcs⟩ := h
    · simp [slugFrom, hletter, hlower, ih hcs]
    · simp [slugFrom, hline, ih hcs]
    · simp [slugFrom, hhyphen, ih hcs]

theorem IsTidy.of_append {started hyphen : Bool} {front back : List Char}
    (h : IsTidy started hyphen (front ++ back)) : IsTidy started hyphen front := by
  induction front generalizing started hyphen with
  | nil => trivial
  | cons c front ih =>
    obtain ⟨hletter, hlower, hcs⟩ | ⟨hstarted, hline, hcs⟩ | ⟨hstarted, hhyphen, hone, hcs⟩ := h
    · exact .inl ⟨hletter, hlower, ih hcs⟩
    · exact .inr (.inl ⟨hstarted, hline, ih hcs⟩)
    · exact .inr (.inr ⟨hstarted, hhyphen, hone, ih hcs⟩)

/-- The lower case of every letter and digit of a text is made of letters and digits. -/
def LowersToLetters (cs : List Char) : Prop :=
  ∀ c ∈ cs, isAlphanumeric c = true → ∀ d ∈ lowerChar c, isAlphanumeric d = true

/-- Letters and digits in lower case may stand in front of any tidy text. -/
theorem isTidy_letters_append {letters cs : List Char} (hne : letters ≠ [])
    (hletters : ∀ d ∈ letters, isAlphanumeric d = true ∧ lowerChar d = [d])
    (hcs : IsTidy true false cs) (started hyphen : Bool) :
    IsTidy started hyphen (letters ++ cs) := by
  induction letters generalizing started hyphen with
  | nil => exact absurd rfl hne
  | cons d letters ih =>
    obtain ⟨⟨hletter, hlower⟩, hrest⟩ := List.forall_mem_cons.mp hletters
    refine .inl ⟨hletter, hlower, ?_⟩
    by_cases hnil : letters = []
    · simpa [hnil] using hcs
    · exact ih hnil hrest true false

/-- Slugs are tidy if the letters of the text stay letters. -/
theorem isTidy_slugFrom {cs : List Char} (h : LowersToLetters cs) (started hyphen : Bool) :
    IsTidy started hyphen (slugFrom started hyphen cs) := by
  induction cs generalizing started hyphen with
  | nil => trivial
  | cons c cs ih =>
    have hrest := ih fun d hd => h d (List.mem_cons_of_mem c hd)
    obtain ⟨hletter, hstep⟩ | ⟨hstarted, hstep⟩ | ⟨hstarted, hhyphen, hstep⟩ | ⟨-, hstep⟩ :=
      slugFrom_step started hyphen c
    · rw [hstep]
      refine isTidy_letters_append (lowerChar_ne_nil c) (fun d hd => ?_) (hrest true false) _ _
      exact ⟨h c (List.mem_cons_self ..) hletter d hd,
        (mem_lowerChar_of_isAlphanumeric hletter hd).1.1⟩
    · rw [hstep]
      exact .inr (.inl ⟨hstarted, rfl, hrest true false⟩)
    · rw [hstep]
      exact .inr (.inr ⟨hstarted, rfl, hhyphen, hrest true true⟩)
    · rw [hstep]
      exact hrest started hyphen

/-- The slug of a slug is the slug itself if it is in normal form and the letters of the text stay
    letters in lower case. -/
theorem slugChars_slugChars {cs : List Char} (hnormal : normalFormChars (slugChars cs) = slugChars cs)
    (hletters : LowersToLetters (normalFormChars cs)) : slugChars (slugChars cs) = slugChars cs := by
  obtain ⟨trail, htrail, -⟩ :=
    exists_dropEndWhile (· = '-') (slugFrom false false (normalFormChars cs))
  have htidy := isTidy_slugFrom hletters false false
  rw [htrail] at htidy
  have hslug : IsTidy false false (slugChars cs) := htidy.of_append
  rw [slugChars, hnormal, hslug.slugFrom_eq]
  exact dropEndWhile_eq_self_iff.mpr fun c hc => getLast?_dropEndWhile hc

/-! ### ASCII -/

/-- In ASCII letters and digits stay so in lower case. -/
theorem lowersToLetters_ascii {cs : List Char} (h : IsAscii cs) : LowersToLetters cs := by
  intro c hc hletter d hd
  have hlow := h c hc
  have hlower : lowerChar c = [c.toLower] := if_pos hlow
  rw [hlower, List.mem_singleton] at hd
  subst hd
  revert hletter
  exact forall_ascii (P := fun c => isAlphanumeric c = true → isAlphanumeric c.toLower = true)
    (by decide) c hlow

theorem isAscii_slugFrom {cs : List Char} (h : IsAscii cs) (started hyphen : Bool) :
    IsAscii (slugFrom started hyphen cs) := by
  induction cs generalizing started hyphen with
  | nil => exact fun _ hc => nomatch hc
  | cons c cs ih =>
    obtain ⟨hc, hcs⟩ := List.forall_mem_cons.mp h
    have hlower : lowerChar c = [c.toLower] := if_pos hc
    have htoLower : c.toLower.toNat < 0x80 :=
      forall_ascii (P := fun c => c.toLower.toNat < 0x80) (by decide) c hc
    obtain ⟨-, hstep⟩ | ⟨-, hstep⟩ | ⟨-, -, hstep⟩ | ⟨-, hstep⟩ :=
      slugFrom_step started hyphen c
    · rw [hstep, hlower]
      exact List.forall_mem_cons.mpr ⟨htoLower, ih hcs true false⟩
    · rw [hstep]
      exact List.forall_mem_cons.mpr ⟨by decide, ih hcs true false⟩
    · rw [hstep]
      exact List.forall_mem_cons.mpr ⟨by decide, ih hcs true true⟩
    · rw [hstep]
      exact ih hcs started hyphen

/-- The slug of an ASCII text is its own slug. -/
theorem slugChars_slugChars_ascii {cs : List Char} (h : IsAscii cs) :
    slugChars (slugChars cs) = slugChars cs := by
  have hpart : slugChars cs <+: slugFrom false false (normalFormChars cs) := dropEndWhile_prefix ..
  refine slugChars_slugChars (normalFormChars_ascii fun c hc => ?_) ?_
  · rw [normalFormChars_ascii h] at hpart
    exact isAscii_slugFrom h false false c (hpart.subset hc)
  · rw [normalFormChars_ascii h]
    exact lowersToLetters_ascii h

/-! ### Numbers behind a slug -/

theorem digit_ascii {d : Char} (h : d.isDigit = true) : d.toNat < 0x80 := by
  simp only [Char.isDigit, Bool.and_eq_true, decide_eq_true_eq, UInt32.le_iff_toNat_le] at h
  exact Nat.lt_of_le_of_lt h.2 (by decide)

/-- Digits are letters of slugs that have no lower case. -/
theorem digit_sound {d : Char} (h : d.isDigit = true) :
    isAlphanumeric d = true ∧ IsLower d ∧ d ≠ '-' :=
  forall_ascii (P := fun d => d.isDigit = true →
    isAlphanumeric d = true ∧ IsLower d ∧ d ≠ '-') (by decide) d (digit_ascii h) h

/-- Digits are taken over as they are. -/
theorem slugFrom_digits {digits : List Char} (h : ∀ d ∈ digits, d.isDigit = true)
    (started hyphen : Bool) : slugFrom started hyphen digits = digits := by
  induction digits generalizing started hyphen with
  | nil => rfl
  | cons d digits ih =>
    obtain ⟨hd, hdigits⟩ := List.forall_mem_cons.mp h
    obtain ⟨hletter, hlower, -⟩ := digit_sound hd
    simp [slugFrom, hletter, hlower.1, ih hdigits]

/-- What does not end in a hyphen is kept with anything behind it. -/
theorem dropHyphens_append {front : List Char} (hfront : '-' ∉ front)
    (back : List Char) :
    dropEndWhile (· = '-') (front ++ back) = front ++ dropEndWhile (· = '-') back := by
  have hself : dropEndWhile (· = '-') front = front := by
    refine dropEndWhile_eq_self_iff.mpr fun c hc => decide_eq_false ?_
    rintro rfl
    exact hfront (List.mem_of_getLast? hc)
  rw [dropEndWhile_append]
  split
  case isTrue hback => simp [hself, hback]
  case isFalse => rfl

/-- A number behind a text stays behind its slug, with the hyphen in front of it unless there is
    nothing that it could follow. -/
theorem slugFrom_append_number {digits : List Char} (h : ∀ d ∈ digits, d.isDigit = true)
    (started hyphen : Bool) (cs : List Char) :
    slugFrom started hyphen (cs ++ '-' :: digits) =
      if dropEndWhile (· = '-') (slugFrom started hyphen cs) = [] ∧
          (started = false ∨ hyphen = true) then digits
      else dropEndWhile (· = '-') (slugFrom started hyphen cs) ++ '-' :: digits := by
  induction cs generalizing started hyphen with
  | nil =>
    have hdigits := slugFrom_digits h
    have hhyphen : isAlphanumeric '-' = false := by decide
    cases started <;> cases hyphen <;> simp [slugFrom, hhyphen, hdigits, dropEndWhile]
  | cons c cs ih =>
    rw [List.cons_append]
    obtain ⟨hletter, hstep⟩ | ⟨rfl, hstep⟩ | ⟨rfl, rfl, hstep⟩ | ⟨-, hstep⟩ :=
      slugFrom_step started hyphen c
    · have hhyphen : '-' ∉ lowerChar c := fun hmem =>
        (mem_lowerChar_of_isAlphanumeric hletter hmem).2.2 rfl
      rw [hstep, hstep, ih, dropHyphens_append hhyphen]
      simp [lowerChar_ne_nil]
    · have hdrop := dropHyphens_append (by decide : '-' ∉ ['_']) (slugFrom true false cs)
      rw [List.singleton_append] at hdrop
      rw [hstep, hstep, ih, hdrop]
      simp
    · -- This hyphen is the one in front of the number if nothing but hyphens stands between them.
      have hone : dropEndWhile (· = '-') ['-'] = [] := by decide
      have hdrop := dropEndWhile_append (· = '-') ['-'] (slugFrom true true cs)
      rw [List.singleton_append, hone] at hdrop
      rw [hstep, hstep, ih, hdrop]
      by_cases hnil : dropEndWhile (· = '-') (slugFrom true true cs) = [] <;> simp [hnil]
    · rw [hstep, hstep, ih]

/-- A number behind a text stays behind its slug, and is all of it if the text has none. -/
theorem slugChars_append_number {digits : List Char} (h : ∀ d ∈ digits, d.isDigit = true)
    (hne : digits ≠ []) (cs : List Char) :
    slugChars (cs ++ '-' :: digits) =
      if slugChars cs = [] then digits else slugChars cs ++ '-' :: digits := by
  have hascii : IsAscii ('-' :: digits) :=
    List.forall_mem_cons.mpr ⟨by decide, fun d hd => digit_ascii (h d hd)⟩
  have hself : dropEndWhile (· = '-') digits = digits :=
    dropEndWhile_eq_self_iff.mpr fun c hc =>
      decide_eq_false (digit_sound (h c (List.mem_of_getLast? hc))).2.2
  have hslug : dropEndWhile (· = '-') (slugFrom false false (normalFormChars cs)) = slugChars cs :=
    rfl
  rw [slugChars, normalFormChars_append_ascii cs hascii, slugFrom_append_number h, hslug]
  by_cases hnil : slugChars cs = []
  · simp [hnil, hself]
  · have hdrop := dropEndWhile_append (· = '-') (slugChars cs ++ ['-']) digits
    rw [hself, if_neg hne, List.append_assoc, List.singleton_append] at hdrop
    simp [hnil, hdrop]

/-- The slug of a slug with a number has the same number, unless all of the slug is lost. -/
theorem slugify_numberedSlug {n : Nat} (hn : 0 < n) (s : String) :
    slugify (numberedSlug s n) =
      if slugify s = "" then toString n else numberedSlug (slugify s) n := by
  have hdigits : ∀ d ∈ Nat.toDigits 10 n, d.isDigit = true := fun d hd =>
    Nat.isDigit_of_mem_toDigits (by omega) (by omega) hd
  rw [← String.toList_inj, slugify, String.toList_ofList, toList_numberedSlug hn,
    slugChars_append_number hdigits Nat.toDigits_ne_nil]
  by_cases hnil : slugChars s.toList = []
  · simp [slugify, hnil, Nat.toString_eq_repr, Nat.toList_repr]
  · simp [slugify, hnil, toList_numberedSlug hn]

/-! ### Slugs as texts -/

/-- A slug, with a number or without, is in lower case and has no blanks. -/
theorem mem_numberedSlug {text : String} {n : Nat} {c : Char}
    (h : c ∈ (numberedSlug (slugify text) n).toList) : IsLower c ∧ isBlank c = false := by
  rcases Nat.eq_zero_or_pos n with rfl | hn
  · rw [numberedSlug_zero, slugify, String.toList_ofList] at h
    exact mem_slugChars h
  · rw [toList_numberedSlug hn, List.mem_append, List.mem_cons, slugify, String.toList_ofList] at h
    obtain hslug | rfl | hdigits := h
    · exact mem_slugChars hslug
    · decide +kernel
    · have hdigit : c.isDigit = true := Nat.isDigit_of_mem_toDigits (by omega) (by omega) hdigits
      obtain ⟨hletter, hlower, -⟩ := digit_sound hdigit
      exact ⟨hlower, not_blank_of_isAlphanumeric hletter⟩

theorem trim_numberedSlug (text : String) (n : Nat) :
    trim (numberedSlug (slugify text) n) = numberedSlug (slugify text) n := by
  rw [trim_eq_self_iff]
  exact stripWhile_eq_self_iff.mpr ⟨fun c hc => (mem_numberedSlug (List.mem_of_head? hc)).2,
    fun c hc => (mem_numberedSlug (List.mem_of_getLast? hc)).2⟩

theorem lowercase_numberedSlug (text : String) (n : Nat) :
    lowercase (numberedSlug (slugify text) n) = numberedSlug (slugify text) n := by
  have hlower : ∀ c ∈ (numberedSlug (slugify text) n).toList, IsLower c := fun c hc =>
    (mem_numberedSlug hc).1
  rw [lowercase, lowerChars, lowerAfter_of_isLower hlower, String.ofList_toList]

theorem slugify_eq_empty_iff {text : String} :
    slugify text = "" ↔ ∀ c ∈ normalFormChars text.toList, isAlphanumeric c = false := by
  rw [← slugChars_eq_nil_iff, ← String.toList_inj, slugify, String.toList_ofList]
  rfl

end WikiNotes.Heading
