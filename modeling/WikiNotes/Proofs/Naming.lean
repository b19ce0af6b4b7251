import WikiNotes.Naming
import WikiNotes.Proofs.Text.Lowercase

/-! # Canonical names

A canonical name is canonical already (`canonicalName_canonicalName`).  Blanks at the ends of a name
are not lost on the way to it: they stay or become hyphens, so the trimmed name has the same
canonical name exactly if there was nothing to trim (`canonicalName_trim_eq_iff`).  Blanks at the
ends of a canonical name are told by `canonicalName_trim_canonicalName_eq_iff`.

A canonical tag need not be canonical itself: only one `#` is taken away, and blanks behind it or
behind a slash stay (`canonicalTag?_eq_self_iff`). -/

namespace WikiNotes.NamingPolicy

open Text

variable {policy : NamingPolicy}

/-! ### The case rule -/

theorem foldCase_between (policy : NamingPolicy) {lead trail : List Char}
    (hlead : ∀ c ∈ lead, isBlank c = true) (htrail : ∀ c ∈ trail, isBlank c = true)
    (cs : List Char) :
    policy.foldCase (lead ++ cs ++ trail) = lead ++ policy.foldCase cs ++ trail := by
  simp only [foldCase]
  split
  · rfl
  · exact lowerChars_between hlead htrail cs

theorem trimChars_foldCase (policy : NamingPolicy) (cs : List Char) :
    trimChars (policy.foldCase cs) = policy.foldCase (trimChars cs) := by
  simp only [foldCase]
  split
  · rfl
  · exact trimChars_lowerChars cs

theorem foldCase_eq_nil_iff {cs : List Char} : policy.foldCase cs = [] ↔ cs = [] := by
  rw [foldCase]
  split
  · rfl
  · exact lowerChars_eq_nil_iff

theorem foldCase_of_isLower {cs : List Char} (h : ∀ c ∈ cs, IsLower c) :
    policy.foldCase cs = cs := by
  rw [foldCase]
  split
  · rfl
  · exact lowerAfter_of_isLower h []

/-- The case rule has nothing to do on characters of what it made. -/
theorem foldCase_of_subset {cs ds : List Char} (h : ∀ d ∈ ds, d ∈ policy.foldCase cs) :
    policy.foldCase ds = ds := by
  simp only [foldCase] at h ⊢
  split
  case isTrue => rfl
  case isFalse hfolds =>
    rw [if_neg hfolds] at h
    exact lowerAfter_of_isLower (fun d hd => isLower_of_mem_lowerAfter (h d hd)) []

theorem stripWhile_foldCase {p : Char → Bool} (hp : CaseFree p) {cs : List Char}
    (h : stripWhile p cs = cs) : stripWhile p (policy.foldCase cs) = policy.foldCase cs := by
  rw [foldCase]
  split
  · exact h
  · exact hp.stripWhile_lowerChars h

/-! ### The rule on blanks -/

theorem hyphenateFrom_append (inRun : Bool) (xs ys : List Char) :
    hyphenateFrom inRun (xs ++ ys) =
      hyphenateFrom inRun xs ++ hyphenateFrom ((xs.getLast?.map isBlank).getD inRun) ys := by
  induction xs generalizing inRun with
  | nil => rfl
  | cons c xs ih =>
    have hlast : ((c :: xs).getLast?.map isBlank).getD inRun =
        (xs.getLast?.map isBlank).getD (isBlank c) := by
      cases xs with
      | nil => rfl
      | cons d xs => simp [List.getLast?_cons]
    rw [hlast, List.cons_append, hyphenateFrom, hyphenateFrom]
    cases hc : isBlank c <;> cases inRun <;> simp [ih]

/-- Without blanks there is nothing to replace. -/
theorem hyphenateFrom_of_not_blank (inRun : Bool) {cs : List Char}
    (h : ∀ c ∈ cs, isBlank c = false) : hyphenateFrom inRun cs = cs := by
  induction cs generalizing inRun with
  | nil => rfl
  | cons c cs ih =>
    rw [List.forall_mem_cons] at h
    rw [hyphenateFrom, h.1, if_neg Bool.false_ne_true, ih false h.2]

/-- What stands in a hyphenated text is a hyphen or a character of the text that is no blank. -/
theorem mem_hyphenateFrom {inRun : Bool} {cs : List Char} {d : Char}
    (h : d ∈ hyphenateFrom inRun cs) : d = '-' ∨ d ∈ cs ∧ isBlank d = false := by
  induction cs generalizing inRun with
  | nil => exact nomatch h
  | cons c cs ih =>
    rw [hyphenateFrom] at h
    grind

theorem hyphenateFrom_false_eq_nil_iff {cs : List Char} :
    hyphenateFrom false cs = [] ↔ cs = [] := by
  cases cs with
  | nil => exact ⟨fun _ => rfl, fun _ => rfl⟩
  | cons c cs =>
    rw [hyphenateFrom]
    cases isBlank c <;> simp

/-- Runs of blanks at the ends of a text add a hyphen each. -/
theorem hyphenateFrom_between {lead cs trail : List Char} (hne : cs ≠ [])
    (hhead : ∀ c, cs.head? = some c → isBlank c = false)
    (hlast : ∀ c, cs.getLast? = some c → isBlank c = false) :
    hyphenateFrom false (lead ++ cs ++ trail) =
      hyphenateFrom false lead ++ hyphenateFrom false cs ++ hyphenateFrom false trail := by
  have hstart (inRun : Bool) : hyphenateFrom inRun cs = hyphenateFrom false cs := by
    cases cs with
    | nil => exact absurd rfl hne
    | cons c cs => simp [hyphenateFrom, hhead c rfl]
  have hend : (((lead ++ cs).getLast?.map isBlank).getD false) = false := by
    rw [List.getLast?_append_of_ne_nil _ hne, List.getLast?_eq_some_getLast hne]
    exact hlast _ (List.getLast?_eq_some_getLast hne)
  rw [hyphenateFrom_append, hend, hyphenateFrom_append, hstart]

/-- Blanks around a trimmed text make a difference under either rule. -/
theorem replaceSpaces_between_eq_iff (policy : NamingPolicy) {lead cs trail : List Char}
    (htrim : trimChars cs = cs) :
    policy.replaceSpaces (lead ++ cs ++ trail) = policy.replaceSpaces cs ↔
      lead = [] ∧ trail = [] := by
  refine ⟨fun h => ?_, by rintro ⟨rfl, rfl⟩; simp⟩
  have hlength := congrArg List.length h
  cases hspaces : policy.spaces with
  | keep =>
    simp only [replaceSpaces, hspaces, List.length_append] at hlength
    exact ⟨List.eq_nil_of_length_eq_zero (by omega), List.eq_nil_of_length_eq_zero (by omega)⟩
  | hyphen =>
    simp only [replaceSpaces, hspaces] at h hlength
    by_cases hne : cs = []
    · rw [hne] at h
      have hnil := hyphenateFrom_false_eq_nil_iff.mp h
      simpa using hnil
    · obtain ⟨hhead, hlast⟩ := stripWhile_eq_self_iff.mp htrim
      rw [hyphenateFrom_between hne hhead hlast, List.length_append, List.length_append] at hlength
      exact ⟨hyphenateFrom_false_eq_nil_iff.mp (List.eq_nil_of_length_eq_zero (by omega)),
        hyphenateFrom_false_eq_nil_iff.mp (List.eq_nil_of_length_eq_zero (by omega))⟩

/-! ### Canonical names -/

theorem toList_canonicalName (policy : NamingPolicy) (s : String) :
    (policy.canonicalName s).toList = policy.replaceSpaces (policy.foldCase s.toList) :=
  String.toList_ofList

theorem canonicalName_eq_iff {s t : String} :
    policy.canonicalName s = policy.canonicalName t ↔
      policy.replaceSpaces (policy.foldCase s.toList) =
        policy.replaceSpaces (policy.foldCase t.toList) := by
  rw [← String.toList_inj, toList_canonicalName, toList_canonicalName]

/-- Under the hyphen rule a canonical name has no blanks. -/
theorem not_blank_of_mem_canonicalName (h : policy.spaces = .hyphen) {s : String} {c : Char}
    (hc : c ∈ (policy.canonicalName s).toList) : isBlank c = false := by
  rw [toList_canonicalName, replaceSpaces, h] at hc
  obtain rfl | ⟨-, hblank⟩ := mem_hyphenateFrom hc
  · rfl
  · exact hblank

theorem replaceSpaces_replaceSpaces (policy : NamingPolicy) (cs : List Char) :
    policy.replaceSpaces (policy.replaceSpaces cs) = policy.replaceSpaces cs := by
  cases hspaces : policy.spaces with
  | keep => simp only [replaceSpaces, hspaces]
  | hyphen =>
    simp only [replaceSpaces, hspaces]
    refine hyphenateFrom_of_not_blank false fun c hc => ?_
    obtain rfl | ⟨-, hblank⟩ := mem_hyphenateFrom hc
    · rfl
    · exact hblank

/-- The rule on blanks leaves nothing for the case rule to do. -/
theorem foldCase_replaceSpaces_foldCase (policy : NamingPolicy) (cs : List Char) :
    policy.foldCase (policy.replaceSpaces (policy.foldCase cs)) =
      policy.replaceSpaces (policy.foldCase cs) := by
  have hhyphen : IsLower '-' := by decide
  cases hcase : policy.caseSensitive with
  | true => simp only [foldCase, hcase, if_true]
  | false =>
    have hfold : policy.foldCase cs = lowerChars cs := by simp [foldCase, hcase]
    refine foldCase_of_isLower fun c hc => ?_
    have hmem : c = '-' ∨ c ∈ lowerChars cs := by
      rw [hfold, replaceSpaces] at hc
      split at hc
      · exact .inr hc
      · exact (mem_hyphenateFrom hc).imp_right And.left
    rcases hmem with rfl | hlower
    · exact hhyphen
    · exact isLower_of_mem_lowerAfter hlower

/-- A canonical name is canonical already. -/
theorem canonicalName_canonicalName (policy : NamingPolicy) (s : String) :
    policy.canonicalName (policy.canonicalName s) = policy.canonicalName s := by
  rw [canonicalName_eq_iff, toList_canonicalName, foldCase_replaceSpaces_foldCase,
    replaceSpaces_replaceSpaces]

/-- Trimming a name changes its canonical name unless there is nothing to trim. -/
theorem canonicalName_trim_eq_iff {s : String} :
    policy.canonicalName (trim s) = policy.canonicalName s ↔ trim s = s := by
  obtain ⟨lead, trail, hs, hlead, htrail⟩ := exists_stripWhile isBlank s.toList
  have hmiddle : trimChars (policy.foldCase (trimChars s.toList)) =
      policy.foldCase (trimChars s.toList) := by
    rw [trimChars_foldCase]
    exact congrArg policy.foldCase (stripWhile_stripWhile ..)
  have hwhole : policy.foldCase s.toList =
      lead ++ policy.foldCase (trimChars s.toList) ++ trail := by
    rw [← foldCase_between policy hlead htrail]
    exact congrArg policy.foldCase hs
  rw [canonicalName_eq_iff, toList_trim, hwhole, eq_comm,
    replaceSpaces_between_eq_iff policy hmiddle, trim_eq_self_iff]
  change _ ↔ stripWhile isBlank s.toList = s.toList
  constructor
  · rintro ⟨rfl, rfl⟩
    simpa using hs.symm
  · intro hself
    have hlength := congrArg List.length hs
    rw [hself, List.length_append, List.length_append] at hlength
    exact ⟨List.eq_nil_of_length_eq_zero (by omega), List.eq_nil_of_length_eq_zero (by omega)⟩

/-- Trimming a canonical name changes the name it stands for unless blanks become hyphens or the
    name had none at its ends. -/
theorem canonicalName_trim_canonicalName_eq_iff {s : String} :
    policy.canonicalName (trim (policy.canonicalName s)) = policy.canonicalName s ↔
      policy.spaces = .hyphen ∨ trim s = s := by
  cases hspaces : policy.spaces with
  | hyphen =>
    have htrim : trim (policy.canonicalName s) = policy.canonicalName s := by
      refine trim_eq_self_iff.mpr (stripWhile_eq_self_iff.mpr ⟨fun c hc => ?_, fun c hc => ?_⟩)
      · exact not_blank_of_mem_canonicalName hspaces (List.mem_of_head? hc)
      · exact not_blank_of_mem_canonicalName hspaces (List.mem_of_getLast? hc)
    rw [htrim]
    exact iff_of_true (canonicalName_canonicalName ..) (.inl rfl)
  | keep =>
    have hkeep (cs : List Char) : policy.replaceSpaces cs = cs := by
      simp only [replaceSpaces, hspaces]
    have htrim : trim (policy.canonicalName s) = policy.canonicalName (trim s) := by
      rw [← String.toList_inj, toList_trim, toList_canonicalName, toList_canonicalName, toList_trim,
        hkeep, hkeep, trimChars_foldCase]
    rw [htrim, canonicalName_canonicalName, canonicalName_trim_eq_iff]
    simp

theorem canonicalName_eq_empty_iff {s : String} : policy.canonicalName s = "" ↔ s = "" := by
  rw [← String.toList_inj, toList_canonicalName, ← String.toList_inj, String.toList_empty]
  have hspaces (cs : List Char) : policy.replaceSpaces cs = [] ↔ cs = [] := by
    rw [replaceSpaces]
    split
    · rfl
    · exact hyphenateFrom_false_eq_nil_iff
  rw [hspaces, foldCase_eq_nil_iff]

/-! ### Tags -/

theorem mem_of_mem_bareTag {cs : List Char} {c : Char} (h : c ∈ bareTag cs) : c ∈ cs := by
  rw [bareTag] at h
  have hrest := mem_of_mem_stripWhile h
  split at hrest
  · exact mem_of_mem_stripWhile (List.mem_of_mem_tail hrest)
  · exact mem_of_mem_stripWhile hrest

/-- A tag is bare if there is nothing to trim, no `#` in front and nothing to strip. -/
theorem bareTag_eq_self_iff {cs : List Char} :
    bareTag cs = cs ↔
      trimChars cs = cs ∧ cs.head? ≠ some '#' ∧ stripWhile isTagEdge cs = cs := by
  constructor
  · intro h
    replace h : stripWhile isTagEdge
        (if (trimChars cs).head? = some '#' then (trimChars cs).tail else trimChars cs) = cs := h
    -- Every step can only make a tag shorter, so none of them did.
    have htrim : (trimChars cs).length ≤ cs.length := length_stripWhile_le isBlank cs
    by_cases hhash : (trimChars cs).head? = some '#'
    · rw [if_pos hhash] at h
      have hstrip := length_stripWhile_le isTagEdge (trimChars cs).tail
      obtain ⟨rest, hrest⟩ := List.head?_eq_some_iff.mp hhash
      rw [h, hrest, List.tail_cons] at hstrip
      rw [hrest, List.length_cons] at htrim
      omega
    · rw [if_neg hhash] at h
      have hstrip := length_stripWhile_le isTagEdge (trimChars cs)
      rw [h] at hstrip
      have hall : trimChars cs = cs := stripWhile_eq_self_of_length_le hstrip
      rw [hall] at h hhash
      exact ⟨hall, hhash, h⟩
  · rintro ⟨htrim, hhash, hstrip⟩
    simp only [bareTag, htrim, hhash, if_false, hstrip]

theorem canonicalTag?_eq_some_iff {raw tag : String} :
    policy.canonicalTag? raw = some tag ↔
      bareTag raw.toList ≠ [] ∧ tag.toList = policy.foldCase (bareTag raw.toList) := by
  simp only [canonicalTag?, List.isEmpty_iff]
  split
  case isTrue hnil => simp [hnil]
  case isFalse hne =>
    rw [Option.some.injEq, ← String.toList_inj, String.toList_ofList, eq_comm]
    exact (and_iff_right hne).symm

/-- The slashes and hyphens at the ends of a tag have no case. -/
theorem caseFree_isTagEdge : CaseFree isTagEdge := by
  refine caseFree_of_not_mayHaveCase fun c hc => ?_
  simp only [isTagEdge, Bool.or_eq_true, beq_iff_eq] at hc
  rcases hc with (rfl | rfl) | rfl <;> decide

/-- A canonical tag is canonical already exactly if it neither starts nor ends with a blank and does
    not start with `#`. -/
theorem canonicalTag?_eq_self_iff {raw tag : String} (h : policy.canonicalTag? raw = some tag) :
    policy.canonicalTag? tag = some tag ↔ trim tag = tag ∧ tag.toList.head? ≠ some '#' := by
  obtain ⟨hne, htag⟩ := canonicalTag?_eq_some_iff.mp h
  have hstrip : stripWhile isTagEdge tag.toList = tag.toList := by
    rw [htag]
    exact stripWhile_foldCase caseFree_isTagEdge (stripWhile_stripWhile ..)
  have hfold : policy.foldCase (bareTag tag.toList) = bareTag tag.toList :=
    foldCase_of_subset fun d hd => htag ▸ mem_of_mem_bareTag hd
  have hself : bareTag tag.toList = tag.toList ↔
      trim tag = tag ∧ tag.toList.head? ≠ some '#' := by
    rw [bareTag_eq_self_iff, trim_eq_self_iff]
    exact ⟨fun hall => ⟨hall.1, hall.2.1⟩, fun hall => ⟨hall.1, hall.2, hstrip⟩⟩
  rw [canonicalTag?_eq_some_iff, hfold, ← hself]
  constructor
  · exact fun hall => hall.2.symm
  · intro hbare
    refine ⟨fun hnil => hne ?_, hbare.symm⟩
    rw [← hbare, hnil, eq_comm, foldCase_eq_nil_iff] at htag
    exact htag

end WikiNotes.NamingPolicy
