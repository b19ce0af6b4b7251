import WikiNotes.Note.Tag
import WikiNotes.Proofs.Text.Blank
import WikiNotes.Proofs.Text.Lowercase
import WikiNotes.Proofs.Text.Matches

/-! # Where tags stand

The search for tags goes on behind the run of each hash that it finds, whether that is a tag or not,
and a match takes the blank in front of its hash with it.  No hash is lost that way, as neither a
hash nor a tag character is a blank (`hashes_eq`).  So the tags of a text are those that stand at its
places, which is told by what is in front of a hash and behind its run (`ofText_eq_standing`). -/

namespace WikiNotes.Tag

open Text

/-! ### Places of tags -/

/-- The longest run of tag characters behind a place of a text. -/
def runBehind (cs : List Char) (i : Nat) : List Char := (cs.drop (i + 1)).takeWhile isTagChar

/-- A tag has its hash at a place of a text. -/
structure StandsAt (cs : List Char) (i : Nat) : Prop where
  hash : cs[i]? = some '#'
  opens : i = 0 ∨ ∃ c ∈ cs[i - 1]?, isBlank c = true
  named : ∃ c ∈ runBehind cs i, c ≠ '/' ∧ c ≠ '-'
  ends : ∀ c ∈ cs[i + 1 + (runBehind cs i).length]?, endsTag c = true

theorem standsAt_iff {cs : List Char} {i : Nat} :
    StandsAt cs i ↔ cs[i]? = some '#' ∧ (i = 0 ∨ ∃ c ∈ cs[i - 1]?, isBlank c = true) ∧
      (∃ c ∈ runBehind cs i, c ≠ '/' ∧ c ≠ '-') ∧
      ∀ c ∈ cs[i + 1 + (runBehind cs i).length]?, endsTag c = true :=
  ⟨fun h => ⟨h.hash, h.opens, h.named, h.ends⟩, fun ⟨hash, opens, named, ends⟩ =>
    ⟨hash, opens, named, ends⟩⟩

/-- Where a tag stands can be tested. -/
theorem standsAt_iff_test {cs : List Char} {i : Nat} :
    StandsAt cs i ↔ cs[i]? = some '#' ∧ (i = 0 ∨ cs[i - 1]?.any isBlank = true) ∧
      (runBehind cs i).any (fun c => c != '/' && c != '-') = true ∧
      cs[i + 1 + (runBehind cs i).length]?.all endsTag = true := by
  simp only [standsAt_iff, Option.any_eq_true, List.any_eq_true, Option.all_eq_true,
    Bool.and_eq_true, bne_iff_ne, Option.mem_def]

instance (cs : List Char) (i : Nat) : Decidable (StandsAt cs i) :=
  decidable_of_iff _ standsAt_iff_test.symm

/-! ### Characters of tags -/

theorem lt_of_isTagChar {c : Char} (h : isTagChar c = true) : c.toNat < 0x80 := by
  have halphanum : c.isAlphanum = (decide (c.val ≥ 'A'.val ∧ c.val ≤ 'Z'.val) ||
      (decide (c.val ≥ 'a'.val) && decide (c.val ≤ 'z'.val)) ||
        (decide (c.val ≥ '0'.val) && decide (c.val ≤ '9'.val))) := rfl
  simp only [isTagChar, isTagLetter, halphanum, Bool.or_eq_true, Bool.and_eq_true,
    decide_eq_true_eq, beq_iff_eq, ge_iff_le, UInt32.le_iff_toNat_le] at h
  rcases h with ((hrange | rfl) | rfl) | rfl
  · have hvalue : c.toNat = c.val.toNat := rfl
    have hbounds : 'Z'.val.toNat = 90 ∧ 'z'.val.toNat = 122 ∧ '9'.val.toNat = 57 :=
      ⟨rfl, rfl, rfl⟩
    omega
  · decide
  · decide
  · decide

/-- A character of tags is neither a blank nor a `#`, and its lower case is one of tags again. -/
theorem isTagChar_sound {c : Char} (h : isTagChar c = true) :
    isTagChar c.toLower = true ∧ isBlank c = false ∧ c ≠ '#' := by
  have hascii : ∀ c : Char, c.toNat < 0x80 → isTagChar c = true →
      isTagChar c.toLower = true ∧ isBlank c = false ∧ c ≠ '#' :=
    forall_ascii (by decide)
  exact hascii c (lt_of_isTagChar h) h

/-- A hash and tag characters are no blanks. -/
theorem isBlank_of_mem_run {token : List Char} (h : ∀ c ∈ token, isTagChar c = true) :
    ∀ c ∈ '#' :: token, isBlank c = false := by
  rw [List.forall_mem_cons]
  exact ⟨rfl, fun c hc => (isTagChar_sound (h c hc)).2.1⟩

/-! ### Every hash is found -/

/-- A hash is found together with its longest run. -/
theorem hashed?_sound {blank : Option Char} {cs : List Char} {m : Match Written}
    (h : hashed? blank cs = some m) :
    ∃ token rest, cs = '#' :: token ++ rest ∧ token ≠ [] ∧ (∀ c ∈ token, isTagChar c = true) ∧
      m = ⟨⟨blank, token, rest.head?⟩, blank.toList.length + 1 + token.length⟩ := by
  cases cs with
  | nil => exact nomatch h
  | cons c cs =>
    simp only [hashed?, Option.ite_none_right_eq_some, Option.some.injEq] at h
    obtain ⟨⟨rfl, hne⟩, rfl⟩ := h
    refine ⟨cs.takeWhile isTagChar, cs.dropWhile isTagChar, ?_, hne,
      fun c hc => List.mem_takeWhile_imp hc, rfl⟩
    rw [List.cons_append, List.takeWhile_append_dropWhile]

theorem behindBlank?_of_not_blank {c : Char} (h : isBlank c = false) (cs : List Char) :
    behindBlank? (c :: cs) = none := by
  simp [behindBlank?, h]

theorem behindBlank?_sound {cs : List Char} {m : Match Written} (h : behindBlank? cs = some m) :
    ∃ c token rest, cs = c :: ('#' :: token ++ rest) ∧ isBlank c = true ∧
      (∀ c ∈ token, isTagChar c = true) ∧
      m = ⟨⟨some c, token, rest.head?⟩, token.length + 2⟩ := by
  cases cs with
  | nil => exact nomatch h
  | cons c cs =>
    simp only [behindBlank?, Option.ite_none_right_eq_some] at h
    obtain ⟨hblank, h⟩ := h
    obtain ⟨token, rest, rfl, -, htoken, rfl⟩ := hashed?_sound h
    refine ⟨c, token, rest, rfl, hblank, htoken, ?_⟩
    rw [Option.toList_some, List.length_singleton, Nat.add_comm token.length]

theorem proper_behindBlank? : Proper behindBlank? := by
  intro cs m h
  obtain ⟨c, token, rest, rfl, -, -, rfl⟩ := behindBlank?_sound h
  simp only [List.length_cons, List.length_append]
  omega

/-- Inside a match there is no blank, so no other match starts there. -/
theorem behindBlank?_inside {a b : List Char} {c : Char} {m : Match Written} (hne : a ≠ [])
    (h : behindBlank? (a ++ c :: b) = some m) (hlt : a.length < m.length) :
    behindBlank? (c :: b) = none := by
  obtain ⟨blank, token, rest, hcut, -, htoken, rfl⟩ := behindBlank?_sound h
  obtain ⟨d, a, rfl⟩ := List.exists_cons_of_ne_nil hne
  obtain ⟨-, hcut⟩ := List.cons.inj hcut
  have hmem : c ∈ '#' :: token := by
    rcases List.append_eq_append_iff.mp hcut with ⟨more, hrun, hmore⟩ | ⟨more, rfl, -⟩
    · cases more with
      | nil =>
        have hlength := congrArg List.length hrun
        simp only [List.length_cons, List.append_nil] at hlength hlt
        omega
      | cons e more =>
        rw [(List.cons.inj hmore).1, hrun]
        exact List.mem_append_right a (List.mem_cons_self ..)
    · simp only [List.length_cons, List.length_append] at hlt
      omega
  exact behindBlank?_of_not_blank (isBlank_of_mem_run htoken c hmem) b

/-- The search finds a hash with a run at the start of a text and all those behind blanks. -/
theorem hashes_eq (cs : List Char) :
    hashes cs = (matchAt? (hashed? none) .start cs 0).toList ++ matchesFrom behindBlank? .start cs := by
  have hsearch := proper_behindBlank?.findAllFrom_eq_matchesFrom
    fun a c b m hne h hlt => behindBlank?_inside hne h hlt
  rw [hashes, matchAt?, List.drop_zero]
  cases hhead : hashed? none cs with
  | none => exact hsearch .start cs
  | some m =>
    obtain ⟨token, rest, rfl, -, htoken, rfl⟩ := hashed?_sound hhead
    have hlength : (none : Option Char).toList.length + 1 + token.length =
        ('#' :: token).length := by
      rw [Option.toList_none, List.length_nil, Nat.zero_add, List.length_cons, Nat.add_comm]
    have hrun : ∀ c u v, '#' :: token = u ++ c :: v → behindBlank? (c :: (v ++ rest)) = none := by
      intro c u v hcut
      refine behindBlank?_of_not_blank (isBlank_of_mem_run htoken c ?_) _
      rw [hcut]
      exact List.mem_append_right u (List.mem_cons_self ..)
    dsimp only
    rw [hlength, findAllFrom_skip, hsearch, matchesFrom_append_of_none hrun]
    simp [Position.advance, byteLength, lineFeeds]

/-! ### Which hashes make tags -/

/-- The tag that stands at a place of a text outside the given code. -/
def standing? (code : List CodeSpan) (cs : List Char) (i : Nat) : Option String :=
  if StandsAt cs i ∧ CodeSpan.covers code (byteLength (cs.take i)) = false then
    some (String.ofList (runBehind cs i))
  else none

theorem ofFound?_eq_some_iff {code : List CodeSpan} {w : Written} {p q : Position} {tag : String} :
    ofFound? code ⟨w, p, q⟩ = some tag ↔ (∀ c ∈ w.next, endsTag c = true) ∧
      CodeSpan.covers code (p.advance w.blank.toList).offset = false ∧
      (∃ c ∈ w.token, c ≠ '/' ∧ c ≠ '-') ∧ String.ofList w.token = tag := by
  simp only [ofFound?, Option.ite_none_right_eq_some, Option.some.injEq, Bool.and_eq_true,
    Option.all_eq_true, Bool.not_eq_true', List.all_eq_false, Bool.or_eq_true, beq_iff_eq,
    not_or, and_assoc]
  rfl

theorem drop_eq_cons {cs rest : List Char} {i : Nat} {c : Char} (h : cs.drop i = c :: rest) :
    cs[i]? = some c ∧ cs.drop (i + 1) = rest := by
  constructor
  · rw [← Nat.add_zero i, ← List.getElem?_drop, h]
    rfl
  · rw [← List.drop_drop, h]
    rfl

/-- What follows the run behind a place. -/
theorem getElem?_behind_run (cs : List Char) (i : Nat) :
    cs[i + 1 + (runBehind cs i).length]? = ((cs.drop (i + 1)).dropWhile isTagChar).head? := by
  have hcut := List.takeWhile_append_dropWhile (p := isTagChar) (l := cs.drop (i + 1))
  rw [← List.getElem?_drop]
  conv => lhs; rw [← hcut]
  rw [runBehind, List.getElem?_append_right (Nat.le_refl _), Nat.sub_self, List.head?_eq_getElem?]

/-- A hash that was found where a tag may begin makes a tag exactly if one stands there. -/
theorem bind_hashed? {code : List CodeSpan} {cs : List Char} {i : Nat} {blank : Option Char}
    {p : Position} (hplace : p.advance blank.toList = Position.start.advance (cs.take i))
    (hopens : i = 0 ∨ ∃ c ∈ cs[i - 1]?, isBlank c = true) (stop : Match Written → Position) :
    ((hashed? blank (cs.drop i)).bind fun m => ofFound? code ⟨m.value, p, stop m⟩) =
      standing? code cs i := by
  have hoffset : (p.advance blank.toList).offset = byteLength (cs.take i) := by
    rw [hplace]
    exact Nat.zero_add _
  refine Option.ext fun tag => ?_
  simp only [Option.bind_eq_some_iff, standing?, standsAt_iff, hopens, true_and,
    Option.ite_none_right_eq_some, Option.some.injEq]
  cases hrest : cs.drop i with
  | nil =>
    have hhash : cs[i]? = none := List.getElem?_eq_none (List.drop_eq_nil_iff.mp hrest)
    simp [hashed?, hhash]
  | cons c rest =>
    obtain ⟨hhash, hbehind⟩ := drop_eq_cons hrest
    have hrun : runBehind cs i = rest.takeWhile isTagChar := by rw [runBehind, hbehind]
    have hnext := getElem?_behind_run cs i
    rw [hbehind, hrun] at hnext
    simp only [hashed?, Option.ite_none_right_eq_some, Option.some.injEq, hhash, hnext, hrun]
    constructor
    · rintro ⟨m, ⟨⟨rfl, hne⟩, rfl⟩, hfound⟩
      obtain ⟨hends, hcode, hnamed, htag⟩ := ofFound?_eq_some_iff.mp hfound
      exact ⟨⟨⟨rfl, hnamed, hends⟩, hoffset ▸ hcode⟩, htag⟩
    · rintro ⟨⟨⟨rfl, hnamed, hends⟩, hcode⟩, htag⟩
      have hne : rest.takeWhile isTagChar ≠ [] := List.ne_nil_of_mem hnamed.choose_spec.1
      exact ⟨_, ⟨⟨rfl, hne⟩, rfl⟩,
        ofFound?_eq_some_iff.mpr ⟨hends, hoffset ▸ hcode, hnamed, htag⟩⟩

/-- Without a hash, or without a blank in front of it, no tag stands at a place. -/
theorem standing?_eq_none {code : List CodeSpan} {cs : List Char} {i : Nat}
    (h : ¬ (cs[i]? = some '#' ∧ (i = 0 ∨ ∃ c ∈ cs[i - 1]?, isBlank c = true))) :
    standing? code cs i = none :=
  if_neg fun hstands => h ⟨hstands.1.hash, hstands.1.opens⟩

/-- The tag behind a blank. -/
theorem bind_behindBlank? (code : List CodeSpan) (cs : List Char) (i : Nat) :
    (matchAt? behindBlank? .start cs i).bind (ofFound? code) = standing? code cs (i + 1) := by
  rw [matchAt?, Option.bind_map]
  cases hrest : cs.drop i with
  | nil =>
    have hhash : cs[i + 1]? = none :=
      List.getElem?_eq_none (Nat.le_succ_of_le (List.drop_eq_nil_iff.mp hrest))
    rw [standing?_eq_none (by simp [hhash])]
    rfl
  | cons c rest =>
    obtain ⟨hchar, hbehind⟩ := drop_eq_cons hrest
    cases hblank : isBlank c with
    | false =>
      rw [standing?_eq_none (by simp [hchar, hblank]), behindBlank?_of_not_blank hblank]
      rfl
    | true =>
      have htake : cs.take (i + 1) = cs.take i ++ [c] := by
        rw [List.take_add_one, hchar]
        rfl
      have hplace : (Position.start.advance (cs.take i)).advance (some c).toList =
          Position.start.advance (cs.take (i + 1)) := by
        rw [htake, Position.advance_append]
        rfl
      have hopens : i + 1 = 0 ∨ ∃ c ∈ cs[i + 1 - 1]?, isBlank c = true :=
        .inr ⟨c, hchar, hblank⟩
      rw [behindBlank?, if_pos hblank, ← hbehind]
      exact bind_hashed? hplace hopens _

/-- No tag stands at the end of a text. -/
theorem standing?_length (code : List CodeSpan) (cs : List Char) :
    standing? code cs cs.length = none :=
  standing?_eq_none (by simp)

/-- The tags outside the given code are those that stand at the places of a text. -/
theorem outside_eq_standing (code : List CodeSpan) (cs : List Char) :
    outside code cs = (List.range cs.length).filterMap (standing? code cs) := by
  have hfirst : (matchAt? (hashed? none) .start cs 0).bind (ofFound? code) =
      standing? code cs 0 := by
    rw [matchAt?, Option.bind_map]
    exact bind_hashed? rfl (.inl rfl) _
  have hbehind := bind_behindBlank? code cs
  have hends : (List.range cs.length).filterMap (standing? code cs) =
      (List.range (cs.length + 1)).filterMap (standing? code cs) := by
    rw [List.range_succ, List.filterMap_append]
    simp [standing?_length]
  rw [hends, List.range_succ_eq_map, List.filterMap_cons, outside, hashes_eq,
    List.filterMap_append, matchesFrom, List.filterMap_filterMap, List.filterMap_map, ← hfirst]
  simp only [hbehind, Function.comp_def]
  cases matchAt? (hashed? none) .start cs 0 with
  | none => simp
  | some found => cases hfound : ofFound? code found <;> simp [hfound]

/-- A tag in a text consists of characters of tags. -/
theorem isTagChar_of_mem_outside {code : List CodeSpan} {cs : List Char} {raw : String}
    (h : raw ∈ outside code cs) : ∀ c ∈ raw.toList, isTagChar c = true := by
  rw [outside_eq_standing, List.mem_filterMap] at h
  obtain ⟨i, -, hi⟩ := h
  obtain ⟨-, hraw⟩ := Option.ite_none_right_eq_some.mp hi
  rw [← Option.some.inj hraw, String.toList_ofList]
  exact fun c hc => List.mem_takeWhile_imp hc

/-- The tags of a text are the runs behind the hashes at which a tag stands outside code, in
    order and one for each hash. -/
theorem ofText_eq_standing (content : String) :
    ofText content =
      ((List.range content.toList.length).filter fun i =>
        StandsAt content.toList i ∧ CodeSpan.covers (CodeSpan.ofText content)
          (byteLength (content.toList.take i)) = false).map
        fun i => String.ofList (runBehind content.toList i) := by
  rw [ofText, ofChars, outside_eq_standing, ← List.filterMap_eq_map, List.filterMap_filter]
  exact List.filterMap_congr fun i _ => if_congr decide_eq_true_iff.symm rfl rfl

example : ofText "#a #b/c #- x#d\n#e, ##f" = ["a", "b/c", "e"] := by decide +kernel

end WikiNotes.Tag
