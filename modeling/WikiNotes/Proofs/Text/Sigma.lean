import WikiNotes.Proofs.Text.Lowercase

/-! # Stretches of a text in lower case

Only the capital sigma makes lower case depend on what stands around a character.  So a stretch of a
text is in lower case what it is by itself wherever each of its capital sigmas is final in the text
exactly if it is in the stretch alone (`KeepsSigmas`), and then its lower case occurs in that of the
text (`KeepsSigmas.infix_lowerChars`).

That is so in every text unless a capital sigma at one of the ends of the stretch waits for what
stands next to it (`HasOpenSigma`).  Where one does, one letter next to the stretch is enough to hide
it in lower case (`HasOpenSigma.exists_hiding`). -/

namespace WikiNotes.Text

/-- Whether a capital sigma is final, given what stands before it in reverse and what follows. -/
def sigmaFinal (before rest : List Char) : Bool := casedNext before && !casedNext rest

/-- Between two others every capital sigma of a text is final exactly if it is in the text alone. -/
def KeepsSigmas (lead cs trail : List Char) : Prop :=
  ∀ xs ys, cs = xs ++ 'Σ' :: ys →
    sigmaFinal (xs.reverse ++ lead.reverse) (ys ++ trail) = sigmaFinal xs.reverse ys

/-- A text has a capital sigma with nothing but marks that the rule looks through on one side of it,
    and with whatever lets it be final on the other side. -/
def HasOpenSigma (cs : List Char) : Prop :=
  ∃ xs ys, cs = xs ++ 'Σ' :: ys ∧
    (xs.all isCaseIgnorable = true ∧ casedNext ys = false ∨
      ys.all isCaseIgnorable = true ∧ casedNext xs.reverse = true)

theorem hasOpenSigma_iff {cs : List Char} :
    HasOpenSigma cs ↔ ∃ n < cs.length, cs[n]? = some 'Σ' ∧
      ((cs.take n).all isCaseIgnorable = true ∧ casedNext (cs.drop (n + 1)) = false ∨
        (cs.drop (n + 1)).all isCaseIgnorable = true ∧ casedNext (cs.take n).reverse = true) := by
  constructor
  · rintro ⟨xs, ys, rfl, hopen⟩
    exact ⟨xs.length, by simp, by simp, by simpa using hopen⟩
  · rintro ⟨n, hn, hsigma, hopen⟩
    refine ⟨cs.take n, cs.drop (n + 1), ?_, hopen⟩
    rw [List.getElem?_eq_getElem hn, Option.some.injEq] at hsigma
    rw [← hsigma, List.getElem_cons_drop, List.take_append_drop]

instance (cs : List Char) : Decidable (HasOpenSigma cs) := decidable_of_iff _ hasOpenSigma_iff.symm

/-! ### What the rule sees -/

/-- Of two texts one behind the other the second is seen only through the first. -/
theorem casedNext_append (xs ys : List Char) :
    casedNext (xs ++ ys) = if xs.all isCaseIgnorable then casedNext ys else casedNext xs := by
  induction xs with
  | nil => rfl
  | cons c rest ih =>
    rw [List.cons_append, casedNext_cons, casedNext_cons, ih, List.all_cons]
    cases isCaseIgnorable c <;> rfl

theorem casedNext_of_all {xs : List Char} (h : xs.all isCaseIgnorable = true) :
    casedNext xs = false := by
  have happend := casedNext_append xs []
  rwa [List.append_nil, if_pos h] at happend

/-- A capital sigma is a letter, so nothing is seen through it. -/
theorem isCased_sigma : isCaseIgnorable 'Σ' = false ∧ isCased 'Σ' = true := by decide +kernel

theorem not_mem_of_all {xs : List Char} (h : xs.all isCaseIgnorable = true) : 'Σ' ∉ xs :=
  fun hmem => nomatch isCased_sigma.1.symm.trans (List.all_eq_true.mp h _ hmem)

theorem casedNext_append_sigma (xs ys rest : List Char) :
    casedNext (xs ++ 'Σ' :: ys ++ rest) = casedNext (xs ++ 'Σ' :: ys) := by
  have hblocked : (xs ++ 'Σ' :: ys).all isCaseIgnorable = false := by simp [isCased_sigma.1]
  rw [casedNext_append, hblocked]
  rfl

/-! ### Lower case in two surroundings -/

/-- A text whose capital sigmas are final alike in two surroundings has one lower case in both. -/
theorem exists_lowerAfter_append {xs before before' rest rest' : List Char}
    (h : ∀ ys zs, xs = ys ++ 'Σ' :: zs →
      sigmaFinal (ys.reverse ++ before) (zs ++ rest) =
        sigmaFinal (ys.reverse ++ before') (zs ++ rest')) :
    ∃ lower, lowerAfter before (xs ++ rest) = lower ++ lowerAfter (xs.reverse ++ before) rest ∧
      lowerAfter before' (xs ++ rest') = lower ++ lowerAfter (xs.reverse ++ before') rest' := by
  induction xs generalizing before before' with
  | nil => exact ⟨[], rfl, rfl⟩
  | cons c xs ih =>
    have hsame : lowerAt before c (xs ++ rest) = lowerAt before' c (xs ++ rest') := by
      rw [lowerAt, lowerAt]
      split
      case isFalse => rfl
      case isTrue hc =>
        have hfinal := h [] xs (by rw [hc, List.nil_append])
        simp only [sigmaFinal, List.reverse_nil, List.nil_append] at hfinal
        rw [hfinal]
    obtain ⟨lower, hlower, hlower'⟩ := @ih (c :: before) (c :: before')
      fun ys zs hsplit => by simpa using h (c :: ys) zs (by rw [hsplit, List.cons_append])
    refine ⟨lowerAt before c (xs ++ rest) ++ lower, ?_, ?_⟩
    · rw [List.cons_append, lowerAfter_cons, hlower]
      simp
    · rw [List.cons_append, lowerAfter_cons, hlower', hsame]
      simp

/-- The lower case of a text ends in that of what it ends in. -/
theorem lowerAfter_suffix (before lead cs : List Char) :
    lowerAfter (lead.reverse ++ before) cs <:+ lowerAfter before (lead ++ cs) := by
  induction lead generalizing before with
  | nil => exact List.suffix_rfl
  | cons c lead ih =>
    rw [List.cons_append, lowerAfter_cons, List.reverse_cons, List.append_assoc]
    exact (ih (c :: before)).trans (List.suffix_append ..)

/-- A stretch whose capital sigmas are final in a text as they are in the stretch alone is there in
    lower case. -/
theorem KeepsSigmas.infix_lowerChars {lead cs trail : List Char} (h : KeepsSigmas lead cs trail) :
    lowerChars cs <:+: lowerChars (lead ++ cs ++ trail) := by
  obtain ⟨lower, hlower, halone⟩ := @exists_lowerAfter_append cs lead.reverse [] trail []
    fun ys zs hsplit => by
      simpa using h ys zs hsplit
  rw [List.append_nil, lowerAfter, List.append_nil] at halone
  have hbegin : lowerChars cs <+: lowerAfter lead.reverse (cs ++ trail) := by
    rw [hlower, lowerChars, halone]
    exact List.prefix_append ..
  have hend := lowerAfter_suffix [] lead (cs ++ trail)
  rw [List.append_nil, ← List.append_assoc] at hend
  exact hbegin.isInfix.trans hend.isInfix

/-! ### Open sigmas -/

/-- Without an open sigma every capital sigma is the same in all surroundings. -/
theorem keepsSigmas_of_not_hasOpenSigma {cs : List Char} (h : ¬ HasOpenSigma cs)
    (lead trail : List Char) : KeepsSigmas lead cs trail := by
  intro xs ys hsplit
  have hopen := not_or.mp fun hor => h ⟨xs, ys, hsplit, hor⟩
  rw [sigmaFinal, sigmaFinal, casedNext_append, casedNext_append, List.all_reverse]
  cases hxs : xs.all isCaseIgnorable with
  | true =>
    -- Nothing is before the sigma, so a letter follows and it is final nowhere.
    have hcased : casedNext ys = true := by simpa [hxs] using hopen.1
    cases hys : ys.all isCaseIgnorable with
    | true => exact nomatch (casedNext_of_all hys).symm.trans hcased
    | false => simp [hcased]
  | false =>
    cases hys : ys.all isCaseIgnorable with
    | true =>
      -- Nothing follows it, so no letter is before it and it is final nowhere.
      have hplain : casedNext xs.reverse = false := by simpa [hys] using hopen.2
      simp [hplain]
    | false => simp

/-- What occurs in a list has none of its elements more often than the list. -/
theorem not_infix_of_count_lt {cs ds : List Char} {c : Char} (h : ds.count c < cs.count c) :
    ¬ cs <:+: ds :=
  fun hpart => absurd (hpart.sublist.count_le c) (Nat.not_le_of_lt h)

/-- If in some surroundings all capital sigmas of a text but one are final as they are in the text
    alone, its lower case there differs from that of the text at this one only. -/
theorem exists_lowerAfter_around {xs ys before rest : List Char} (hrest : ∀ c ∈ rest, IsLower c)
    (hxs : ∀ zs ws, xs = zs ++ 'Σ' :: ws →
      sigmaFinal (zs.reverse ++ before) (ws ++ 'Σ' :: (ys ++ rest)) =
        sigmaFinal (zs.reverse ++ []) (ws ++ 'Σ' :: ys))
    (hys : ∀ zs ws, ys = zs ++ 'Σ' :: ws →
      sigmaFinal (zs.reverse ++ 'Σ' :: (xs.reverse ++ before)) (ws ++ rest) =
        sigmaFinal (zs.reverse ++ 'Σ' :: (xs.reverse ++ [])) (ws ++ [])) :
    ∃ front back,
      lowerAfter before (xs ++ 'Σ' :: (ys ++ rest)) =
        front ++ lowerAt (xs.reverse ++ before) 'Σ' (ys ++ rest) ++ back ++ rest ∧
      lowerChars (xs ++ 'Σ' :: ys) = front ++ lowerAt xs.reverse 'Σ' ys ++ back := by
  obtain ⟨front, hfront, hfront'⟩ := exists_lowerAfter_append hxs
  obtain ⟨back, hback, hback'⟩ := exists_lowerAfter_append hys
  simp only [List.append_nil] at hfront' hback'
  refine ⟨front, back, ?_, ?_⟩
  · rw [hfront, lowerAfter_cons, hback, lowerAfter_of_isLower hrest]
    simp only [List.append_assoc]
  · rw [lowerChars, hfront', lowerAfter_cons, hback', lowerAfter, List.append_nil]
    simp only [List.append_assoc]

theorem lowerAt_sigma (before rest : List Char) :
    lowerAt before 'Σ' rest = [if sigmaFinal before rest then 'ς' else 'σ'] := rfl

/-- If of all capital sigmas of a text one alone changes in some surroundings, and no sigma is among
    what stands next to the text, the lower case of the text is not there. -/
theorem lowerChars_hidden {xs ys rest : List Char} {first : Char}
    (hfirst : IsLower first ∧ first ∉ ['σ', 'ς'])
    (hrest : ∀ c ∈ rest, IsLower c ∧ c ∉ ['σ', 'ς'])
    (hxs : ∀ zs ws, xs = zs ++ 'Σ' :: ws →
      sigmaFinal (zs.reverse ++ [first]) (ws ++ 'Σ' :: (ys ++ rest)) =
        sigmaFinal (zs.reverse ++ []) (ws ++ 'Σ' :: ys))
    (hys : ∀ zs ws, ys = zs ++ 'Σ' :: ws →
      sigmaFinal (zs.reverse ++ 'Σ' :: (xs.reverse ++ [first])) (ws ++ rest) =
        sigmaFinal (zs.reverse ++ 'Σ' :: (xs.reverse ++ [])) (ws ++ []))
    (hdiffers : sigmaFinal (xs.reverse ++ [first]) (ys ++ rest) = !sigmaFinal xs.reverse ys) :
    ¬ lowerChars (xs ++ 'Σ' :: ys) <:+: lowerChars (first :: ((xs ++ 'Σ' :: ys) ++ rest)) := by
  obtain ⟨front, back, htext, halone⟩ :=
    exists_lowerAfter_around (fun c hc => (hrest c hc).1) hxs hys
  have hnone {c : Char} (hc : c ∈ ['σ', 'ς']) : rest.count c = 0 :=
    List.count_eq_zero_of_not_mem fun hmem => (hrest c hmem).2 hc
  have hlead {c : Char} (hc : c ∈ ['σ', 'ς']) : first ≠ c := fun heq => hfirst.2 (heq ▸ hc)
  -- The text alone has the form of the sigma once more than the text in its surroundings.
  rw [lowerAt_sigma, hdiffers] at htext
  rw [lowerAt_sigma] at halone
  rw [List.append_assoc, List.cons_append, halone, lowerChars, lowerAfter_cons,
    lowerAt_of_isLower hfirst.1, htext]
  cases sigmaFinal xs.reverse ys with
  | true => exact not_infix_of_count_lt (c := 'ς') (by simp [hnone, hlead])
  | false => exact not_infix_of_count_lt (c := 'σ') (by simp [hnone, hlead])

/-- A letter in front of a text or behind it is enough to hide an open sigma. -/
theorem HasOpenSigma.exists_hiding {cs : List Char} (h : HasOpenSigma cs) :
    ∃ lead ∈ ['a', '-'], ∃ trail ∈ [[], ['a']],
      ¬ lowerChars cs <:+: lowerChars (lead :: (cs ++ trail)) := by
  have hplain : (IsLower 'a' ∧ 'a' ∉ ['σ', 'ς']) ∧ (IsLower '-' ∧ '-' ∉ ['σ', 'ς']) := by decide
  have hletter : casedNext ['a'] = true ∧ casedNext ['-'] = false := by decide +kernel
  obtain ⟨xs, ys, rfl, ⟨hxs, hys⟩ | ⟨hys, hxs⟩⟩ := h
  · -- With a letter in front the sigma becomes final, which it is not by itself.
    refine ⟨'a', by simp, [], by simp, lowerChars_hidden hplain.1 (by simp) ?_ ?_ ?_⟩
    · exact fun zs ws hsplit => absurd (hsplit ▸ by simp) (not_mem_of_all hxs)
    · intro zs ws _
      simp only [sigmaFinal, List.append_nil]
      rw [← List.cons_append, ← List.append_assoc, casedNext_append_sigma]
    · simp [sigmaFinal, casedNext_append, casedNext_of_all (List.all_reverse.trans hxs),
        List.all_reverse, hxs, hys, hletter.1]
  · -- With a letter behind it the sigma is not final, as it is by itself.
    refine ⟨'-', by simp, ['a'], by simp,
      lowerChars_hidden hplain.2 (by simpa using hplain.1) ?_ ?_ ?_⟩
    · intro zs ws _
      have hlead : casedNext (zs.reverse ++ ['-']) = casedNext (zs.reverse ++ []) := by
        rw [casedNext_append, casedNext_append, hletter.2]
        rfl
      rw [sigmaFinal, sigmaFinal, hlead, ← List.cons_append, ← List.append_assoc,
        casedNext_append_sigma]
    · exact fun zs ws hsplit => absurd (hsplit ▸ by simp) (not_mem_of_all hys)
    · simp [sigmaFinal, casedNext_append, casedNext_of_all hys, hxs, hys, hletter.1]

end WikiNotes.Text
