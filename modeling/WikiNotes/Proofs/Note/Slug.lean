import Mathlib.Data.List.Nodup
import WikiNotes.Note.Heading

/-! # Numbered slugs

The slug of a heading is that of its text, with a number behind it if headings before it have the
same one.  Numbers are counted for each slug of a text on its own: the headings of a body run through
the pairs of a slug and a number, each of them once (`map_slug_outside`, `nodup_numbered`).

A number keeps apart what it is appended to (`numberedSlug_inj`), but what it gives may be the slug of
some other text.  That is the only way in which two headings get the same slug
(`Heading.nodup_slugs_iff`), and it happens (`Heading.slugs_repeat`). -/

namespace WikiNotes.Heading

open Text

/-! ### Slugs with a number -/

@[simp] theorem numberedSlug_zero (base : String) : numberedSlug base 0 = base := rfl

/-- A number stands behind a hyphen. -/
theorem toList_numberedSlug {n : Nat} (hn : 0 < n) (base : String) :
    (numberedSlug base n).toList = base.toList ++ '-' :: Nat.toDigits 10 n := by
  have hne : n ≠ 0 := by omega
  simp [numberedSlug, hne, Nat.toString_eq_repr, Nat.toList_repr]

theorem hyphen_not_mem_toDigits (n : Nat) : '-' ∉ Nat.toDigits 10 n := by
  intro hmem
  have hdigit := Nat.isDigit_of_mem_toDigits (by omega) (by omega) hmem
  exact absurd hdigit (by decide)

theorem toDigits_inj {m n : Nat} (h : Nat.toDigits 10 m = Nat.toDigits 10 n) : m = n :=
  calc m = Nat.ofDigitChars 10 (Nat.toDigits 10 m) 0 := Nat.ofDigitChars_ten_toDigits.symm
    _ = Nat.ofDigitChars 10 (Nat.toDigits 10 n) 0 := by rw [h]
    _ = n := Nat.ofDigitChars_ten_toDigits

/-- What stands behind the last hyphen of a text, and in front of it. -/
theorem eq_of_append_hyphen {a b x y : List Char} (hx : '-' ∉ x) (hy : '-' ∉ y)
    (h : a ++ '-' :: x = b ++ '-' :: y) : a = b ∧ x = y := by
  -- If one of the two hyphens stood further on, it would be in the text behind the other one.
  rcases List.append_eq_append_iff.mp h with ⟨more, rfl, hmore⟩ | ⟨more, rfl, hmore⟩
  · cases more with
    | nil => simpa using hmore
    | cons c more =>
      obtain ⟨rfl, rfl⟩ := List.cons.inj hmore
      simp at hx
  · cases more with
    | nil => simpa using hmore.symm
    | cons c more =>
      obtain ⟨rfl, rfl⟩ := List.cons.inj hmore
      simp at hy

/-- Numbers keep apart the slugs that they stand behind. -/
theorem numberedSlug_inj {a b : String} {m n : Nat} (hm : 0 < m) (hn : 0 < n)
    (h : numberedSlug a m = numberedSlug b n) : a = b ∧ m = n := by
  have hlists := congrArg String.toList h
  rw [toList_numberedSlug hm, toList_numberedSlug hn] at hlists
  obtain ⟨hbase, hdigits⟩ :=
    eq_of_append_hyphen (hyphen_not_mem_toDigits m) (hyphen_not_mem_toDigits n) hlists
  exact ⟨String.toList_inj.mp hbase, toDigits_inj hdigits⟩

/-! ### Counting -/

/-- Every slug with the number of times that it occurred before. -/
def numbered (before : List String) : List String → List (String × Nat)
  | [] => []
  | base :: bases => (base, before.count base) :: numbered (base :: before) bases

/-- A slug runs through the numbers from that of its earlier occurrences on. -/
theorem mem_numbered {before bases : List String} {base : String} {n : Nat} :
    (base, n) ∈ numbered before bases ↔
      before.count base ≤ n ∧ n < before.count base + bases.count base := by
  induction bases generalizing before with
  | nil => simp [numbered]
  | cons first bases ih =>
    rw [numbered, List.mem_cons, ih, Prod.mk.injEq]
    by_cases hfirst : base = first
    · subst hfirst
      simp only [List.count_cons_self, true_and]
      omega
    · simp [List.count_cons_of_ne (Ne.symm hfirst), hfirst]

theorem nodup_numbered (before bases : List String) : (numbered before bases).Nodup := by
  induction bases generalizing before with
  | nil => exact List.nodup_nil
  | cons first bases ih =>
    refine List.nodup_cons.mpr ⟨fun hmem => ?_, ih _⟩
    -- Further on the number of the first slug is greater.
    have hlarger := (mem_numbered.mp hmem).1
    rw [List.count_cons_self] at hlarger
    omega

/-- Slugs with their numbers repeat exactly if one with a number is a slug that occurs. -/
theorem nodup_map_numbered_iff {bases : List String} :
    ((numbered [] bases).map fun pair => numberedSlug pair.1 pair.2).Nodup ↔
      ∀ a b n, b ∈ bases → 0 < n → n < bases.count a → b ≠ numberedSlug a n := by
  rw [List.nodup_map_iff_inj_on (nodup_numbered [] bases)]
  constructor
  · intro hinj a b n hb hn hlt hclash
    have ha : (a, n) ∈ numbered [] bases := mem_numbered.mpr (by simpa using hlt)
    have hb : (b, 0) ∈ numbered [] bases := mem_numbered.mpr (by simpa using hb)
    have hpair := hinj _ ha _ hb (by simpa using hclash.symm)
    have hzero : n = 0 := (Prod.mk.inj hpair).2
    omega
  · rintro hapart ⟨a, m⟩ ha ⟨b, n⟩ hb heq
    rw [mem_numbered, List.count_nil, Nat.zero_add] at ha hb
    have hmem {base : String} {k : Nat} (hk : k < bases.count base) : base ∈ bases :=
      List.count_pos_iff.mp (by omega)
    -- Either both have a number, or one of them is a slug that occurs.
    by_cases hm : m = 0 <;> by_cases hn : n = 0
    · subst hm hn
      simpa using heq
    · subst hm
      exact absurd heq (hapart b a n (hmem ha.2) (by omega) hb.2)
    · subst hn
      exact absurd heq.symm (hapart a b m (hmem hb.2) (by omega) ha.2)
    · obtain ⟨rfl, rfl⟩ := numberedSlug_inj (by omega) (by omega) heq
      rfl

/-! ### The slugs of headings -/

/-- The slug of the text of a heading, to which a number may have been appended. -/
def base (h : Heading) : String := slugify h.text

/-- Headings have the slugs of their texts with the number of those before them. -/
theorem map_slug_fromLines (code : List CodeSpan) (firstLine : Nat) {seen : SortedMap String Nat}
    {before : List String} (hseen : ∀ base, (seen.find? base).getD 0 = before.count base)
    (number : Nat) (lines : List (List Char)) :
    (fromLines code firstLine seen number lines).map slug =
      (numbered before ((fromLines code firstLine seen number lines).map base)).map
        fun pair => numberedSlug pair.1 pair.2 := by
  induction lines generalizing seen before number with
  | nil => rfl
  | cons line lines ih =>
    rw [fromLines]
    split
    case h_1 => exact ih hseen (number + 1)
    case h_2 level text _ =>
      -- The count of one slug goes up, those of the others stay.
      have hnext : ∀ other, ((seen.insert (String.ofList (slugChars text))
          ((seen.find? (String.ofList (slugChars text))).getD 0 + 1)).find? other).getD 0 =
            (String.ofList (slugChars text) :: before).count other := by
        intro other
        rw [SortedMap.find?_insert, hseen, List.count_cons]
        by_cases hother : other = String.ofList (slugChars text)
        · simp [hother]
        · simp [hother, hseen, Ne.symm hother]
      have htail := ih hnext (number + 1)
      rw [hseen] at htail
      simp only [List.map_cons, numbered, base, slugify, String.toList_ofList, hseen]
      exact congrArg _ htail

/-- The slugs of a body. -/
theorem map_slug_outside (code : List CodeSpan) (firstLine : Nat) (body : List Char) :
    (outside code firstLine body).map slug =
      (numbered [] ((outside code firstLine body).map base)).map
        fun pair => numberedSlug pair.1 pair.2 :=
  map_slug_fromLines code firstLine (fun _ => rfl) 1 (splitLines body)

/-- The text of some heading has the slug that the text of another one gets with its number. -/
def HasClash (headings : List Heading) : Prop :=
  ∃ g ∈ headings, ∃ h ∈ headings, ∃ n, 0 < n ∧ n < headings.countP (·.base = g.base) ∧
    h.base = numberedSlug g.base n

/-- Slugs that are numbered repeat only by a clash. -/
theorem nodup_iff_not_hasClash {headings : List Heading}
    (h : headings.map slug =
      (numbered [] (headings.map base)).map fun pair => numberedSlug pair.1 pair.2) :
    (headings.map slug).Nodup ↔ ¬ HasClash headings := by
  have hcount (a : String) : (headings.map base).count a = headings.countP (·.base = a) := by
    rw [List.count, List.countP_map]
    exact List.countP_congr fun h _ => by simp
  rw [h, nodup_map_numbered_iff]
  constructor
  · rintro hapart ⟨f, -, g, hg, n, hn, hlt, hclash⟩
    rw [← hcount] at hlt
    exact hapart f.base g.base n (List.mem_map_of_mem hg) hn hlt hclash
  · intro hnone a b n hb hn hlt hclash
    obtain ⟨g, hg, rfl⟩ := List.mem_map.mp hb
    -- A slug that occurs more than once is that of some heading.
    have ha : a ∈ headings.map base := List.count_pos_iff.mp (by omega)
    obtain ⟨f, hf, rfl⟩ := List.mem_map.mp ha
    rw [hcount] at hlt
    exact hnone ⟨f, hf, g, hg, n, hn, hlt, hclash⟩

/-- The slugs of the headings of a text are distinct exactly if no text of a heading has the slug
    that another text gets with a number. -/
theorem nodup_slugs_iff (content : String) :
    ((ofText content).map slug).Nodup ↔ ¬ HasClash (ofText content) :=
  nodup_iff_not_hasClash (map_slug_outside ..)

/-- The second of two headings `a` gets the slug of a heading `a 1`. -/
theorem slugs_repeat :
    (ofText "# a\n# a\n# a 1").map slug = ["a", "a-1", "a-1"] ∧
      ¬ ((ofText "# a\n# a\n# a 1").map slug).Nodup := by
  have hslugs : (ofText "# a\n# a\n# a 1").map slug = ["a", "a-1", "a-1"] := by decide +kernel
  rw [hslugs]
  exact ⟨rfl, by decide⟩

end WikiNotes.Heading
