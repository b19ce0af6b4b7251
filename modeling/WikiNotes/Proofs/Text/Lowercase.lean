import WikiNotes.Proofs.Text.Blank
import WikiNotes.Text.Lowercase

/-! # Lower case

What lower case gives has nothing in it that lower case changes (`isLower_of_mem_lowerAfter`).
Blanks, and the ASCII characters that are no letters, stay as they are and are the lower case of
nothing else (`mem_lowerAt`), so whether a text starts or ends in one of them is the same in lower
case (`CaseFree`).  Blanks have no part in the rule for the capital sigma, so blanks around a text
stay around it (`lowerChars_between`) and lower case and trimming may be done in either order
(`trimChars_lowerChars`).

What the table of capitals has to say is found by going through its letters (`lowerRuns_sound`). -/

namespace WikiNotes.Text

/-! ### Rows of a table -/

section Rows

variable {α : Type} {table : Array α} {first : α → Nat} {n lo : Nat} {row : α}

/-- When no candidate is left, the answer is the row before them. -/
theorem rowBefore_eq_some
    (hbelow : ∀ before, 0 < lo → table[lo - 1]? = some before → first before ≤ n)
    (h : (if lo = 0 then none else table[lo - 1]?) = some row) : row ∈ table ∧ first row ≤ n := by
  split at h
  case isTrue => exact nomatch h
  case isFalse hlo => exact ⟨Array.mem_of_getElem? h, hbelow row (by omega) h⟩

theorem rowAtMostAux_eq_some {steps hi : Nat}
    (hbelow : ∀ before, 0 < lo → table[lo - 1]? = some before → first before ≤ n)
    (h : rowAtMostAux table first n steps lo hi = some row) : row ∈ table ∧ first row ≤ n := by
  induction steps generalizing lo hi with
  | zero => exact rowBefore_eq_some hbelow h
  | succ steps ih =>
    rw [rowAtMostAux] at h
    split at h
    case isFalse => exact rowBefore_eq_some hbelow h
    case isTrue =>
      dsimp only at h
      cases hmid : table[(lo + hi) / 2]? with
      | none => simp [hmid] at h
      | some middle =>
        rw [hmid] at h
        dsimp only at h
        split at h
        case isFalse => exact ih hbelow h
        case isTrue hle =>
          refine ih (fun before _ hbefore => ?_) h
          rw [Nat.add_sub_cancel, hmid, Option.some.injEq] at hbefore
          exact hbefore ▸ hle

/-- The row that is found is one of the table and starts at or below the code point. -/
theorem rowAtMost_eq_some (h : rowAtMost table first n = some row) :
    row ∈ table ∧ first row ≤ n :=
  rowAtMostAux_eq_some (fun _ hlo => absurd hlo (Nat.lt_irrefl 0)) h

end Rows

/-! ### Single characters -/

/-- A character that lower case leaves as it is wherever it stands. -/
def IsLower (c : Char) : Prop := lowerChar c = [c] ∧ c ≠ 'Σ'

instance (c : Char) : Decidable (IsLower c) := inferInstanceAs (Decidable (_ ∧ _))

/-- A character that is no blank, and a letter if it is in ASCII.  Lower case changes no others, and
    what it changes becomes one of these. -/
def MayHaveCase (c : Char) : Prop := isBlank c = false ∧ (c.toNat < 0x80 → c.isAlpha = true)

instance (c : Char) : Decidable (MayHaveCase c) := inferInstanceAs (Decidable (_ ∧ _))

/-- The code points of the blanks. -/
def blankCodes : List Nat :=
  [9, 10, 11, 12, 13, 0x20, 0x85, 0xA0, 0x1680, 0x2000, 0x2001, 0x2002, 0x2003, 0x2004, 0x2005,
    0x2006, 0x2007, 0x2008, 0x2009, 0x200A, 0x2028, 0x2029, 0x202F, 0x205F, 0x3000]

/-- A property of the blanks is one of their code points. -/
theorem forall_blank {P : Char → Prop} (h : ∀ n ∈ blankCodes, P (Char.ofNat n)) (c : Char)
    (hblank : isBlank c = true) : P c := by
  have hc := h c.toNat
  rw [Char.ofNat_toNat] at hc
  refine hc ?_
  simp only [isBlank, Bool.or_eq_true, Bool.and_eq_true, decide_eq_true_eq, beq_iff_eq] at hblank
  simp only [blankCodes, List.mem_cons, List.not_mem_nil]
  omega

/-- A blank has no capital form, and the sigma rule neither looks through it nor minds it. -/
theorem blank_sound {c : Char} (h : isBlank c = true) :
    IsLower c ∧ isCased c = false ∧ isCaseIgnorable c = false :=
  forall_blank (P := fun c => IsLower c ∧ isCased c = false ∧ isCaseIgnorable c = false)
    (by decide +kernel) c h

/-- A property of the characters in ASCII is one of their code points. -/
theorem forall_ascii {P : Char → Prop} (h : ∀ n < 0x80, P (Char.ofNat n)) (c : Char)
    (hlow : c.toNat < 0x80) : P c := by
  have hc := h c.toNat hlow
  rwa [Char.ofNat_toNat] at hc

/-- In ASCII lower case makes letters of letters and leaves the rest alone. -/
theorem ascii_sound : ∀ c : Char, c.toNat < 0x80 →
    IsLower c.toLower ∧ (c.toLower = c ∨ MayHaveCase c ∧ MayHaveCase c.toLower) :=
  forall_ascii (by decide)

/-- What stands for the two letters with rules of their own is lower case. -/
theorem special_sound {d : Char} (h : d ∈ ['i', '\u0307', 'ς', 'σ']) :
    IsLower d ∧ MayHaveCase d := by
  have hall :
      (['i', '\u0307', 'ς', 'σ'].all fun d => decide (IsLower d ∧ MayHaveCase d)) = true := by
    decide +kernel
  exact of_decide_eq_true (List.all_eq_true.mp hall d h)

/-- The letters of a run of capitals. -/
def LowerRun.letters (run : LowerRun) : List Nat :=
  (List.range ((run.last - run.first) / run.step + 1)).map fun k => run.first + k * run.step

/-- The lower-case partner of every letter in the table is lower case, and a letter if in ASCII. -/
theorem lowerRuns_sound : ∀ run ∈ lowerRuns.toList, ∀ n ∈ run.letters,
    IsLower (Char.ofNat ((n : Int) + run.shift).toNat) ∧
      MayHaveCase (Char.ofNat ((n : Int) + run.shift).toNat) := by
  decide +kernel

/-- A character is its own partner, or it is in the table and its partner a shift away. -/
theorem lowerPartner_cases (c : Char) :
    lowerPartner c = c ∨ ∃ run ∈ lowerRuns.toList, c.toNat ∈ run.letters ∧
      lowerPartner c = Char.ofNat ((c.toNat : Int) + run.shift).toNat := by
  unfold lowerPartner
  generalize hrow : rowAtMost lowerRuns LowerRun.first = row
  dsimp only
  cases hfound : row c.toNat with
  | none => exact .inl rfl
  | some run =>
    obtain ⟨hmem, hfirst⟩ := rowAtMost_eq_some ((congrFun hrow _).trans hfound)
    dsimp only
    split
    case isFalse => exact .inl rfl
    case isTrue hin =>
      rw [Bool.and_eq_true, decide_eq_true_eq, beq_iff_eq] at hin
      obtain ⟨hlast, hstep⟩ := hin
      refine .inr ⟨run, Array.mem_toList_iff.mpr hmem,
        List.mem_map.mpr ⟨(c.toNat - run.first) / run.step, ?_, ?_⟩, rfl⟩
      · have hle : (c.toNat - run.first) / run.step ≤ (run.last - run.first) / run.step :=
          Nat.div_le_div_right (Nat.sub_le_sub_right hlast _)
        exact List.mem_range.mpr (Nat.lt_succ_of_le hle)
      · rw [Nat.div_mul_cancel (Nat.dvd_of_mod_eq_zero hstep)]
        omega

theorem lowerPartner_sound (c : Char) (hc : c ≠ 'Σ') (hlow : ¬ c.toNat < 0x80)
    (hdot : c.toNat ≠ 0x130) :
    IsLower (lowerPartner c) ∧
      (lowerPartner c = c ∨ MayHaveCase c ∧ MayHaveCase (lowerPartner c)) := by
  have hsingle : lowerChar c = [lowerPartner c] := by rw [lowerChar, if_neg hlow, if_neg hdot]
  by_cases hself : lowerPartner c = c
  · rw [hself]
    exact ⟨⟨by rw [hsingle, hself], hc⟩, .inl rfl⟩
  · obtain heq | ⟨run, hrun, hletter, heq⟩ := lowerPartner_cases c
    · exact absurd heq hself
    · have hcapital : isBlank c = false := by
        rw [← Bool.not_eq_true]
        intro hblank
        have hlower := (blank_sound hblank).1.1
        rw [hsingle, List.singleton_inj] at hlower
        exact hself hlower
      rw [heq]
      obtain ⟨hlower, hpartner⟩ := lowerRuns_sound run hrun _ hletter
      exact ⟨hlower, .inr ⟨⟨hcapital, fun hascii => absurd hascii hlow⟩, hpartner⟩⟩

/-- What the lower case of a character consists of is lower case, and is the character itself unless
    both may have case. -/
theorem mem_lowerChar {c d : Char} (hc : c ≠ 'Σ') (hd : d ∈ lowerChar c) :
    IsLower d ∧ (d = c ∨ MayHaveCase c ∧ MayHaveCase d) := by
  rw [lowerChar] at hd
  split at hd
  case isTrue hlow =>
    rw [List.mem_singleton] at hd
    exact hd ▸ ascii_sound c hlow
  case isFalse hlow =>
    split at hd
    case isTrue hdot =>
      have hcapital : MayHaveCase (Char.ofNat 0x130) := by decide
      rw [← hdot, Char.ofNat_toNat] at hcapital
      have hspecial := special_sound (List.mem_append_left ['ς', 'σ'] hd)
      exact ⟨hspecial.1, .inr ⟨hcapital, hspecial.2⟩⟩
    case isFalse hdot =>
      rw [List.mem_singleton] at hd
      exact hd ▸ lowerPartner_sound c hc hlow hdot

theorem lowerChar_ne_nil (c : Char) : lowerChar c ≠ [] := by
  rw [lowerChar]
  split
  · exact List.cons_ne_nil _ _
  · split <;> exact List.cons_ne_nil _ _

/-! ### Texts -/

/-- Lower case of one character of a text. -/
def lowerAt (before : List Char) (c : Char) (rest : List Char) : List Char :=
  if c = 'Σ' then [if casedNext before && !casedNext rest then 'ς' else 'σ'] else lowerChar c

theorem lowerAfter_cons (before : List Char) (c : Char) (rest : List Char) :
    lowerAfter before (c :: rest) = lowerAt before c rest ++ lowerAfter (c :: before) rest := rfl

/-- What stands in a text for a character in lower case is lower case, and is the character itself
    unless both may have case. -/
theorem mem_lowerAt {before rest : List Char} {c d : Char} (h : d ∈ lowerAt before c rest) :
    IsLower d ∧ (d = c ∨ MayHaveCase c ∧ MayHaveCase d) := by
  rw [lowerAt] at h
  split at h
  case isFalse hc => exact mem_lowerChar hc h
  case isTrue hc =>
    have hcapital : MayHaveCase c := hc ▸ by decide
    have hmem : d ∈ ['i', '\u0307', 'ς', 'σ'] := by
      rw [List.mem_singleton] at h
      rw [h]
      split <;> simp
    have hspecial := special_sound hmem
    exact ⟨hspecial.1, .inr ⟨hcapital, hspecial.2⟩⟩

theorem lowerAt_ne_nil (before : List Char) (c : Char) (rest : List Char) :
    lowerAt before c rest ≠ [] := by
  rw [lowerAt]
  split
  · exact List.cons_ne_nil _ _
  · exact lowerChar_ne_nil c

theorem lowerAfter_ne_nil (before : List Char) (c : Char) (rest : List Char) :
    lowerAfter before (c :: rest) ≠ [] := by
  rw [lowerAfter_cons]
  intro h
  exact lowerAt_ne_nil before c rest (List.append_eq_nil_iff.mp h).1

theorem lowerAt_of_isLower {c : Char} (h : IsLower c) (before rest : List Char) :
    lowerAt before c rest = [c] := by
  rw [lowerAt, if_neg h.2, h.1]

/-- What stands in a text in lower case is the lower case of a character of the text. -/
theorem exists_of_mem_lowerAfter {before cs : List Char} {d : Char}
    (h : d ∈ lowerAfter before cs) : ∃ before' c rest, c ∈ cs ∧ d ∈ lowerAt before' c rest := by
  induction cs generalizing before with
  | nil => exact nomatch h
  | cons c rest ih =>
    rw [lowerAfter_cons, List.mem_append] at h
    rcases h with hd | hd
    · exact ⟨before, c, rest, List.mem_cons_self .., hd⟩
    · obtain ⟨before', c', rest', hc', hd'⟩ := ih hd
      exact ⟨before', c', rest', List.mem_cons_of_mem _ hc', hd'⟩

/-- What was made lower case has nothing in it that lower case changes. -/
theorem isLower_of_mem_lowerAfter {before cs : List Char} {d : Char}
    (h : d ∈ lowerAfter before cs) : IsLower d := by
  obtain ⟨_, _, _, -, hd⟩ := exists_of_mem_lowerAfter h
  exact (mem_lowerAt hd).1

theorem lowerAfter_of_isLower {cs : List Char} (h : ∀ c ∈ cs, IsLower c) (before : List Char) :
    lowerAfter before cs = cs := by
  induction cs generalizing before with
  | nil => rfl
  | cons c rest ih =>
    rw [List.forall_mem_cons] at h
    rw [lowerAfter_cons, lowerAt_of_isLower h.1, ih h.2, List.singleton_append]

/-! ### Blanks around a text -/

variable {lead trail : List Char}

theorem casedNext_cons (c : Char) (cs : List Char) :
    casedNext (c :: cs) = if isCaseIgnorable c then casedNext cs else isCased c := by
  rw [casedNext, List.dropWhile_cons]
  generalize isCaseIgnorable c = through
  cases through with
  | false => rfl
  | true => rfl

theorem casedNext_append_of_blank (cs : List Char) (h : ∀ c ∈ trail, isBlank c = true) :
    casedNext (cs ++ trail) = casedNext cs := by
  induction cs with
  | nil =>
    cases trail with
    | nil => rfl
    | cons c rest =>
      obtain ⟨-, hcased, hthrough⟩ := blank_sound (h c (List.mem_cons_self ..))
      rw [List.nil_append, casedNext_cons, hthrough, hcased]
      rfl
  | cons c cs ih => rw [List.cons_append, casedNext_cons, casedNext_cons, ih]

theorem lowerAt_between (hlead : ∀ c ∈ lead, isBlank c = true)
    (htrail : ∀ c ∈ trail, isBlank c = true) (before : List Char) (c : Char) (rest : List Char) :
    lowerAt (before ++ lead) c (rest ++ trail) = lowerAt before c rest := by
  rw [lowerAt, lowerAt, casedNext_append_of_blank before hlead,
    casedNext_append_of_blank rest htrail]

/-- Blanks before and behind a text have no part in its lower case. -/
theorem lowerAfter_between (hlead : ∀ c ∈ lead, isBlank c = true)
    (htrail : ∀ c ∈ trail, isBlank c = true) (before cs : List Char) :
    lowerAfter (before ++ lead) (cs ++ trail) = lowerAfter before cs ++ trail := by
  induction cs generalizing before with
  | nil => exact lowerAfter_of_isLower (fun c hc => (blank_sound (htrail c hc)).1) _
  | cons c rest ih =>
    rw [List.cons_append, lowerAfter_cons, lowerAfter_cons, lowerAt_between hlead htrail,
      List.append_assoc]
    exact congrArg (lowerAt before c rest ++ ·) (ih (c :: before))

/-- Blanks around a text stay around its lower case. -/
theorem lowerChars_between (hlead : ∀ c ∈ lead, isBlank c = true)
    (htrail : ∀ c ∈ trail, isBlank c = true) (cs : List Char) :
    lowerChars (lead ++ cs ++ trail) = lead ++ lowerChars cs ++ trail := by
  have hblank : ∀ c ∈ lead, IsLower c := fun c hc => (blank_sound (hlead c hc)).1
  have hskip (before : List Char) :
      lowerAfter before (lead ++ (cs ++ trail)) =
        lead ++ lowerAfter (lead.reverse ++ before) (cs ++ trail) := by
    clear hlead
    induction lead generalizing before with
    | nil => rfl
    | cons c lead ih =>
      rw [List.forall_mem_cons] at hblank
      rw [List.cons_append, lowerAfter_cons, lowerAt_of_isLower hblank.1, ih hblank.2]
      simp
  have hreverse : ∀ c ∈ lead.reverse, isBlank c = true := fun c hc =>
    hlead c (List.mem_reverse.mp hc)
  rw [lowerChars, List.append_assoc, hskip, List.append_nil, List.append_assoc]
  exact congrArg (lead ++ ·) (lowerAfter_between hreverse htrail [] cs)

theorem lowerChars_eq_nil_iff {cs : List Char} : lowerChars cs = [] ↔ cs = [] := by
  cases cs with
  | nil => exact ⟨fun _ => rfl, fun _ => rfl⟩
  | cons c rest =>
    exact iff_of_false (lowerAfter_ne_nil [] c rest) (List.cons_ne_nil c rest)

/-! ### Classes without case -/

/-- A class of characters that lower case neither leads into nor out of. -/
def CaseFree (p : Char → Bool) : Prop :=
  ∀ before c rest, ∀ d ∈ lowerAt before c rest, p d = p c

/-- A class none of whose characters may have case is one without case. -/
theorem caseFree_of_not_mayHaveCase {p : Char → Bool} (hp : ∀ c, p c = true → ¬ MayHaveCase c) :
    CaseFree p := by
  intro before c rest d hd
  obtain rfl | ⟨hc, hd⟩ := (mem_lowerAt hd).2
  · rfl
  · rw [Bool.eq_false_iff.mpr fun hpd => hp d hpd hd, Bool.eq_false_iff.mpr fun hpc => hp c hpc hc]

theorem caseFree_isBlank : CaseFree isBlank :=
  caseFree_of_not_mayHaveCase fun _ hblank hletter => nomatch hblank.symm.trans hletter.1

section CaseFree

variable {p : Char → Bool} (hp : CaseFree p)
include hp

theorem CaseFree.head?_lowerAfter {before cs : List Char} {d : Char}
    (h : (lowerAfter before cs).head? = some d) : ∃ c, cs.head? = some c ∧ p d = p c := by
  cases cs with
  | nil => exact nomatch h
  | cons c rest =>
    have hne := lowerAt_ne_nil before c rest
    rw [lowerAfter_cons, List.head?_append_of_ne_nil _ hne] at h
    exact ⟨c, rfl, hp _ _ _ d (List.mem_of_head? h)⟩

theorem CaseFree.getLast?_lowerAfter {before cs : List Char} {d : Char}
    (h : (lowerAfter before cs).getLast? = some d) : ∃ c, cs.getLast? = some c ∧ p d = p c := by
  induction cs generalizing before with
  | nil => exact nomatch h
  | cons c rest ih =>
    rw [lowerAfter_cons] at h
    cases rest with
    | nil =>
      rw [lowerAfter, List.append_nil] at h
      exact ⟨c, rfl, hp _ _ _ d (List.mem_of_getLast? h)⟩
    | cons next rest =>
      have hne := lowerAfter_ne_nil (c :: before) next rest
      rw [List.getLast?_append_of_ne_nil _ hne] at h
      obtain ⟨last, hlast, hsame⟩ := ih h
      exact ⟨last, by rw [List.getLast?_cons_cons, hlast], hsame⟩

/-- What starts and ends outside a class without case does so in lower case. -/
theorem CaseFree.stripWhile_lowerChars {cs : List Char} (h : stripWhile p cs = cs) :
    stripWhile p (lowerChars cs) = lowerChars cs := by
  obtain ⟨hhead, hlast⟩ := stripWhile_eq_self_iff.mp h
  refine stripWhile_eq_self_iff.mpr ⟨fun d hd => ?_, fun d hd => ?_⟩
  · obtain ⟨c, hc, hsame⟩ := hp.head?_lowerAfter hd
    exact hsame.trans (hhead c hc)
  · obtain ⟨c, hc, hsame⟩ := hp.getLast?_lowerAfter hd
    exact hsame.trans (hlast c hc)

end CaseFree

/-- Trimming a text in lower case gives the trimmed text in lower case. -/
theorem trimChars_lowerChars (cs : List Char) :
    trimChars (lowerChars cs) = lowerChars (trimChars cs) := by
  obtain ⟨lead, trail, hcs, hlead, htrail⟩ := exists_stripWhile isBlank cs
  have hends : trimChars (lowerChars (trimChars cs)) = lowerChars (trimChars cs) :=
    caseFree_isBlank.stripWhile_lowerChars (stripWhile_stripWhile ..)
  calc trimChars (lowerChars cs)
      = trimChars (lead ++ lowerChars (trimChars cs) ++ trail) := by
        rw [← lowerChars_between hlead htrail]
        exact congrArg (trimChars <| lowerChars ·) hcs
    _ = trimChars (lowerChars (trimChars cs)) := stripWhile_between hlead htrail _
    _ = lowerChars (trimChars cs) := hends

end WikiNotes.Text
