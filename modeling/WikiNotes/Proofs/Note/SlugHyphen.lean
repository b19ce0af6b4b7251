import Mathlib.Data.List.Chain
import WikiNotes.Proofs.Note.SlugShape

/-! # Hyphens in slugs

A slug is in hyphen-normal form (`Heading.IsHyphenNormal`): hyphens stand one at a time between other
characters, and besides them and `_` there is nothing of ASCII in it but letters and digits.

While a slug is made `started` says whether anything stands in front of the rest and `hyphen` whether
that ends in a hyphen.  What comes next is what these two allow (`Heading.ne_of_mem_head?_slugFrom`),
so no hyphen comes first and none comes behind another one.  Hyphens at the end are trimmed. -/

namespace WikiNotes.Heading

open Text

/-! ### Letters and digits of ASCII -/

/-- What the lower case of a letter or digit has in ASCII are letters and digits. -/
theorem isAlphanum_of_mem_lowerChar {c d : Char} (h : isAlphanumeric c = true)
    (hd : d ∈ lowerChar c) (hascii : d.toNat < 0x80) : d.isAlphanum = true := by
  by_cases hsigma : c = 'Σ'
  · -- The lower case of sigma is not in ASCII.
    subst hsigma
    have hlower : lowerChar 'Σ' = ['σ'] := by decide +kernel
    rw [hlower, List.mem_singleton] at hd
    subst hd
    exact absurd hascii (by decide)
  · obtain ⟨-, rfl | ⟨-, -, hletter⟩⟩ := mem_lowerChar hsigma hd
    · rwa [isAlphanumeric, if_pos hascii] at h
    · simp [Char.isAlphanum, hletter hascii]

/-- The lower case of a letter or digit has neither hyphens nor `_` in it. -/
theorem ne_of_mem_lowerChar {c d : Char} (h : isAlphanumeric c = true) (hd : d ∈ lowerChar c) :
    d ≠ '-' ∧ d ≠ '_' := by
  have hletter := isAlphanum_of_mem_lowerChar h hd
  constructor <;> rintro rfl <;> exact absurd (hletter (by decide)) (by decide)

/-- In ASCII a slug has letters, digits, hyphens and `_` only. -/
theorem isAlphanum_of_mem_slugFrom {started hyphen : Bool} {cs : List Char} {d : Char}
    (h : d ∈ slugFrom started hyphen cs) (hascii : d.toNat < 0x80) :
    d.isAlphanum = true ∨ d = '-' ∨ d = '_' := by
  obtain hline | hhyphen | ⟨c, -, hletter, hlower⟩ := mem_slugFrom_cases h
  · exact .inr (.inr hline)
  · exact .inr (.inl hhyphen)
  · exact .inl (isAlphanum_of_mem_lowerChar hletter hlower hascii)

/-! ### Hyphens -/

/-- Two neighbours are not both hyphens. -/
def NotBothHyphens (c d : Char) : Prop := ¬ (c = '-' ∧ d = '-')

/-- A slug does not go on with a hyphen behind another one, and it does not start with a hyphen or
    with `_`. -/
theorem ne_of_mem_head?_slugFrom {started hyphen : Bool} {cs : List Char} {d : Char}
    (h : d ∈ (slugFrom started hyphen cs).head?) :
    (hyphen = true → d ≠ '-') ∧ (started = false → d ≠ '-' ∧ d ≠ '_') := by
  induction cs generalizing started hyphen with
  | nil => exact nomatch h
  | cons c cs ih =>
    obtain ⟨hletter, hstep⟩ | ⟨rfl, hstep⟩ | ⟨rfl, rfl, hstep⟩ | ⟨-, hstep⟩ :=
      slugFrom_step started hyphen c
    · -- Lower case is never empty, so the first character is part of it.
      rw [hstep, List.head?_append_of_ne_nil _ (lowerChar_ne_nil c)] at h
      have hne := ne_of_mem_lowerChar hletter (List.mem_of_head? h)
      exact ⟨fun _ => hne.1, fun _ => hne⟩
    · rw [hstep] at h
      obtain rfl := Option.some.inj h
      exact ⟨fun _ => by decide, nofun⟩
    · exact ⟨nofun, nofun⟩
    · rw [hstep] at h
      exact ih h

/-- No two neighbours in a slug are hyphens. -/
theorem isChain_slugFrom (started hyphen : Bool) (cs : List Char) :
    (slugFrom started hyphen cs).IsChain NotBothHyphens := by
  induction cs generalizing started hyphen with
  | nil => exact .nil
  | cons c cs ih =>
    obtain ⟨hletter, hstep⟩ | ⟨-, hstep⟩ | ⟨-, -, hstep⟩ | ⟨-, hstep⟩ :=
      slugFrom_step started hyphen c
    · have hne {d : Char} (hd : d ∈ lowerChar c) : d ≠ '-' := (ne_of_mem_lowerChar hletter hd).1
      have hlower : (lowerChar c).Pairwise NotBothHyphens :=
        List.pairwise_of_forall_mem_list fun d hd _ _ hboth => hne hd hboth.1
      rw [hstep]
      refine List.isChain_append.mpr ⟨hlower.isChain, ih true false, fun d hd _ _ hboth => ?_⟩
      exact hne (List.mem_of_getLast? hd) hboth.1
    · rw [hstep]
      exact List.isChain_cons.mpr ⟨fun _ _ hboth => by simp at hboth, ih true false⟩
    · -- The flag keeps a second hyphen away.
      rw [hstep]
      refine List.isChain_cons.mpr ⟨fun d hd hboth => ?_, ih true true⟩
      exact (ne_of_mem_head?_slugFrom hd).1 rfl hboth.2
    · rw [hstep]
      exact ih started hyphen

/-! ### The normal form -/

/-- A slug in hyphen-normal form. -/
structure IsHyphenNormal (slug : List Char) : Prop where
  /-- It starts with neither a hyphen nor `_`. -/
  head : ∀ c ∈ slug.head?, c ≠ '-' ∧ c ≠ '_'
  /-- It does not end in a hyphen. -/
  last : ∀ c ∈ slug.getLast?, c ≠ '-'
  /-- No two hyphens are neighbours. -/
  apart : slug.IsChain NotBothHyphens
  /-- It has no blanks. -/
  unbroken : ∀ c ∈ slug, isBlank c = false
  /-- In ASCII it has letters, digits, hyphens and `_` only. -/
  ascii : ∀ c ∈ slug, c.toNat < 0x80 → c.isAlphanum = true ∨ c = '-' ∨ c = '_'

/-- The slug of every text is in hyphen-normal form. -/
theorem isHyphenNormal_slugify (text : String) : IsHyphenNormal (slugify text).toList := by
  rw [slugify, String.toList_ofList]
  obtain ⟨trail, htrail⟩ :
      slugChars text.toList <+: slugFrom false false (normalFormChars text.toList) :=
    dropEndWhile_prefix ..
  have hchain := isChain_slugFrom false false (normalFormChars text.toList)
  rw [← htrail] at hchain
  constructor
  case head =>
    intro c hc
    have hhead : c ∈ (slugFrom false false (normalFormChars text.toList)).head? :=
      htrail ▸ List.mem_head?_append_of_mem_head? hc
    exact (ne_of_mem_head?_slugFrom hhead).2 rfl
  case last => exact fun c hc => of_decide_eq_false (getLast?_dropEndWhile hc)
  case apart => exact hchain.left_of_append
  case unbroken => exact fun c hc => (mem_slugChars hc).2
  case ascii =>
    intro c hc
    have hmem : c ∈ slugFrom false false (normalFormChars text.toList) :=
      htrail ▸ List.mem_append_left trail hc
    exact isAlphanum_of_mem_slugFrom hmem

/-- Separators are dropped in front, run together in between and trimmed behind. -/
example : slugify " _- Big -- _ Plan! - " = "big-_-plan" := by decide +kernel

end WikiNotes.Heading
