import WikiNotes.Proofs.Note.Heading
import WikiNotes.Proofs.Note.SlugShape

/-! # Looking headings up by their slugs

A reference is turned into a slug before it is compared with the slugs of headings, so a slug finds
its heading if taking the slug again changes nothing.  Numbers behind the slug are kept then, and
there are no other texts whose headings are found in every note (`Heading.foundBySlug_iff`): from a
note with four headings of the text some number makes a slug that finds none of them
(`Heading.not_foundBySlug`).  In ASCII taking the slug again never changes it, and it is only the
empty slug whose numbers are lost. -/

namespace WikiNotes.Heading

open Text

/-! ### Look-up -/

variable {headings : List Heading} {reference text : String}

/-- A reference whose slug some heading has finds a heading. -/
theorem isSome_find?_of_slug (hne : trim reference ≠ "")
    (hslug : ∃ h ∈ headings, h.slug = slugify (trim reference)) :
    (find? headings reference).isSome := by
  obtain ⟨h, hh, heq⟩ := hslug
  have hfound : (headings.find? fun h => h.slug = slugify (trim reference)).isSome :=
    List.find?_isSome.mpr ⟨h, hh, decide_eq_true heq⟩
  have hnonempty : (trim reference).isEmpty = false := by simp [hne]
  simp [find?, hnonempty, hfound]

/-- A reference finds nothing if no heading has its text in any case and none has its slug. -/
theorem find?_eq_none (htext : ∀ h ∈ headings, lowercase h.text ≠ lowercase (trim reference))
    (hslug : ∀ h ∈ headings, h.slug ≠ slugify (trim reference)) :
    find? headings reference = none := by
  have hexact : ∀ h ∈ headings, h.text ≠ trim reference := fun h hh heq =>
    htext h hh (congrArg lowercase heq)
  simp only [find?]
  split
  · rfl
  · simpa using ⟨hexact, htext, hslug⟩

/-! ### Slugs that find a heading -/

/-- A heading has the slug of its text with some number. -/
theorem exists_numberedSlug {code : List CodeSpan} {firstLine number : Nat}
    {seen : SortedMap String Nat} {lines : List (List Char)} {h : Heading}
    (hh : h ∈ fromLines code firstLine seen number lines) : ∃ n, h.slug = numberedSlug h.base n := by
  induction lines generalizing seen number with
  | nil => exact nomatch hh
  | cons line lines ih =>
    rw [fromLines] at hh
    split at hh
    case h_1 => exact ih hh
    case h_2 level text _ =>
      obtain rfl | hlater := List.mem_cons.mp hh
      · exact ⟨_, by rw [base, slugify, String.toList_ofList]⟩
      · exact ih hlater

/-- In every note the headings of a text are found by their slugs, unless these are empty. -/
def FoundBySlug (text : String) : Prop :=
  ∀ content, ∀ h ∈ ofText content, h.text = text → h.slug ≠ "" →
    (find? (ofText content) h.slug).isSome

/-- Headings are found by their slugs if taking the slug again does not change it. -/
theorem foundBySlug_of_fixed (hne : slugify text ≠ "") (hfixed : slugify (slugify text) = slugify text) :
    FoundBySlug text := by
  rintro content h hh rfl hslug
  obtain ⟨n, hn⟩ := exists_numberedSlug hh
  have htrim : trim h.slug = h.slug := by rw [hn, base, trim_numberedSlug]
  have hagain : slugify h.slug = h.slug := by
    rw [hn, base]
    rcases Nat.eq_zero_or_pos n with rfl | hpos
    · exact hfixed
    · rw [slugify_numberedSlug hpos, hfixed, if_neg hne]
  refine isSome_find?_of_slug (htrim.symm ▸ hslug) ⟨h, hh, ?_⟩
  rw [htrim, hagain]

/-! ### A note in which a slug finds nothing -/

/-- A heading line of a text.  The second blank makes it one even if the text is empty. -/
def headingLine (text : String) : List Char := '#' :: ' ' :: ' ' :: text.toList

/-- A note of some headings of one text. -/
def repeated (text : String) (n : Nat) : String :=
  String.ofList ((List.replicate n (headingLine text)).flatMap (· ++ ['\n']))

theorem toList_repeated (text : String) (n : Nat) :
    (repeated text n).toList = (List.replicate n (headingLine text)).flatMap (· ++ ['\n']) :=
  String.toList_ofList

theorem splitLines_repeated (hline : '\n' ∉ text.toList) (n : Nat) :
    splitLines (repeated text n).toList = List.replicate n (headingLine text ++ ['\n']) := by
  have hlines : ∀ line ∈ List.replicate n (headingLine text), '\n' ∉ line := by
    intro line hmem
    rw [List.eq_of_mem_replicate hmem]
    simp [headingLine, hline]
  have hsplit := CodeSpan.splitLines_lines hlines []
  rwa [List.append_nil, List.map_replicate, splitLines, List.append_nil, ← toList_repeated] at hsplit

/-- The line is a heading with the text. -/
theorem ofLine?_headingLine (htrim : trim text = text) :
    ofLine? (withoutLineEnd (headingLine text ++ ['\n'])) = some (1, text.toList) := by
  have htext : trimChars text.toList = text.toList := trim_eq_self_iff.mp htrim
  have hend : (headingLine text).getLast? ≠ some '\r' := by
    have hline : headingLine text = ['#', ' ', ' '] ++ text.toList := rfl
    rw [hline, List.getLast?_append]
    cases hlast : text.toList.getLast? with
    | none => simp
    | some c =>
      rintro ⟨⟩
      exact absurd ((stripWhile_eq_self_iff.mp htext).2 _ hlast) (by decide)
  have hblank : ∀ c ∈ [' '], isBlank c = true := List.forall_mem_singleton.mpr rfl
  have hbody : trimChars (' ' :: text.toList) = text.toList := by
    have hstrip := stripWhile_between hblank (List.forall_mem_nil _) text.toList
    rw [List.append_nil] at hstrip
    exact hstrip.trans htext
  rw [withoutLineEnd_append hend, ofLine?_eq_some_iff]
  exact ⟨[' '], ' ' :: text.toList, [], ⟨by simp [headingLine], by omega, by omega, by simp, by simp,
    hblank, List.forall_mem_nil _⟩, hbody.symm⟩

/-- No line of the note is in a fenced block. -/
theorem not_coversLine_repeated (hline : '\n' ∉ text.toList) {n k : Nat} (hk : k < n) :
    CodeSpan.coversLine (CodeSpan.findAll (repeated text n).toList) (k + 1) = false := by
  have hopens : ¬ CodeSpan.Opens (headingLine text ++ ['\n']) := by
    rintro ⟨mark, hmark, rest, hrest⟩
    obtain rfl : mark = '#' := (List.cons.inj hrest).1
    exact absurd hmark (by decide)
  have hnone (m : Nat) : CodeSpan.fenceBehind none .start
      (List.replicate m (headingLine text ++ ['\n'])) = none := by
    generalize Position.start = p
    induction m generalizing p with
    | zero => rfl
    | succ m ih =>
      rw [List.replicate_succ, CodeSpan.fenceBehind, CodeSpan.fenceMark?_eq_none hopens]
      exact ih _
  have hlines := splitLines_repeated hline n
  rw [← Bool.not_eq_true, CodeSpan.coversLine_findAll_iff (by rw [hlines]; simpa using hk), hlines,
    CodeSpan.InFence, List.take_replicate, List.take_replicate, hnone, hnone]
  simp

theorem map_text_repeated (htrim : trim text = text) (hline : '\n' ∉ text.toList) (n : Nat) :
    (ofText (repeated text n)).map Heading.text = List.replicate n text := by
  have hentries := map_entry_outside (CodeSpan.findAll (repeated text n).toList) 1
    (repeated text n).toList
  rw [splitLines_repeated hline] at hentries
  have hall : ∀ line ∈ (List.replicate n (headingLine text ++ ['\n'])).zipIdx,
      entryOf? (CodeSpan.findAll (repeated text n).toList) 1 line =
        some (1 + line.2, 1, text.toList) := by
    rintro ⟨line, k⟩ hmem
    obtain ⟨hk, hreplicate⟩ := List.getElem?_eq_some_iff.mp (List.mk_mem_zipIdx_iff_getElem?.mp hmem)
    rw [List.length_replicate] at hk
    rw [List.getElem_replicate] at hreplicate
    simp [entryOf?, not_coversLine_repeated hline hk, ← hreplicate, ofLine?_headingLine htrim]
  rw [List.filterMap_congr hall] at hentries
  have htexts := congrArg (List.map fun e => String.ofList e.2.2) hentries
  simpa [ofText, ofChars, entry, Function.comp_def, List.filterMap_eq_map'] using htexts

theorem map_slug_repeated (htrim : trim text = text) (hline : '\n' ∉ text.toList) :
    (ofText (repeated text 4)).map slug =
      [0, 1, 2, 3].map (numberedSlug (slugify text)) := by
  have hbases : (ofText (repeated text 4)).map base = List.replicate 4 (slugify text) := by
    have hbase : base = slugify ∘ Heading.text := rfl
    rw [hbase, ← List.map_map, map_text_repeated htrim hline, List.map_replicate]
  have hslugs := map_slug_outside (CodeSpan.findAll (repeated text 4).toList) 1
    (repeated text 4).toList
  change (ofText (repeated text 4)).map slug =
    (numbered [] ((ofText (repeated text 4)).map base)).map _ at hslugs
  rw [hslugs, hbases]
  simp [List.replicate, numbered]

/-- Of three numbers one is free if either of two conditions takes at most one of them. -/
theorem exists_free {p q : Nat → Prop} (hp : ∀ m n, 0 < m → 0 < n → p m → p n → m = n)
    (hq : ∀ m n, 0 < m → 0 < n → q m → q n → m = n) : ∃ n, 0 < n ∧ n ≤ 3 ∧ ¬ p n ∧ ¬ q n := by
  by_contra hnone
  have htaken (n : Nat) (hpos : 0 < n) (hle : n ≤ 3) : p n ∨ q n := by
    by_contra hfree
    exact hnone ⟨n, hpos, hle, not_or.mp hfree⟩
  have h1 := htaken 1 (by omega) (by omega)
  have h2 := htaken 2 (by omega) (by omega)
  have h3 := htaken 3 (by omega) (by omega)
  have hp12 := hp 1 2; have hp13 := hp 1 3; have hp23 := hp 2 3
  have hq12 := hq 1 2; have hq13 := hq 1 3; have hq23 := hq 2 3
  grind

/-- The slugs of slugs with numbers are apart. -/
theorem slugify_numberedSlug_inj {s : String} {m n : Nat} (hm : 0 < m) (hn : 0 < n)
    (h : slugify (numberedSlug s m) = slugify (numberedSlug s n)) : m = n := by
  rw [slugify_numberedSlug hm, slugify_numberedSlug hn] at h
  split at h
  · have hdigits := congrArg String.toList h
    rw [Nat.toString_eq_repr, Nat.toString_eq_repr, Nat.toList_repr, Nat.toList_repr] at hdigits
    exact toDigits_inj hdigits
  · exact (numberedSlug_inj hm hn h).2

/-- Taking the slug of a slug with a number again gives another one with a number only if the slug
    stays as it is. -/
theorem fixed_of_slugify_numberedSlug {s : String} {m n : Nat} (hm : 0 < m) (hn : 0 < n)
    (h : slugify (numberedSlug s m) = numberedSlug s n) : s ≠ "" ∧ slugify s = s := by
  rw [slugify_numberedSlug hm] at h
  split at h
  case isTrue =>
    have hmem : '-' ∈ (toString m).toList := by
      rw [h, toList_numberedSlug hn]
      simp
    rw [Nat.toString_eq_repr, Nat.toList_repr] at hmem
    exact absurd hmem (hyphen_not_mem_toDigits m)
  case isFalse hne =>
    obtain ⟨hfixed, -⟩ := numberedSlug_inj hm hn h
    exact ⟨hfixed ▸ hne, hfixed⟩

theorem text_of_mem_repeated (htrim : trim text = text) (hline : '\n' ∉ text.toList) {n : Nat}
    {h : Heading} (hh : h ∈ ofText (repeated text n)) : h.text = text := by
  have hmem : h.text ∈ (ofText (repeated text n)).map Heading.text := List.mem_map_of_mem hh
  rw [map_text_repeated htrim hline] at hmem
  exact List.eq_of_mem_replicate hmem

/-- A slug with a number finds nothing among four headings of the text if it is not the text and its
    slug is not that of the text, unless the slug of the text is its own. -/
theorem find?_repeated_eq_none (htrim : trim text = text) (hline : '\n' ∉ text.toList)
    (h : slugify text = "" ∨ slugify (slugify text) ≠ slugify text) {n : Nat} (hpos : 0 < n)
    (htext : lowercase text ≠ numberedSlug (slugify text) n)
    (hslug : slugify (numberedSlug (slugify text) n) ≠ slugify text) :
    find? (ofText (repeated text 4)) (numberedSlug (slugify text) n) = none := by
  refine find?_eq_none (fun f hf => ?_) fun f hf heq => ?_
  · rwa [text_of_mem_repeated htrim hline hf, trim_numberedSlug, lowercase_numberedSlug]
  · have hmem : f.slug ∈ (ofText (repeated text 4)).map slug := List.mem_map_of_mem hf
    rw [map_slug_repeated htrim hline, List.mem_map] at hmem
    obtain ⟨k, -, hk⟩ := hmem
    rw [trim_numberedSlug, ← hk] at heq
    rcases Nat.eq_zero_or_pos k with rfl | hkpos
    · exact hslug heq.symm
    · obtain ⟨hne, hfixed⟩ := fixed_of_slugify_numberedSlug hpos hkpos heq.symm
      exact h.elim hne fun hchanged => hchanged hfixed

/-- If taking the slug again changes it, or if it is empty, some slug with a number finds nothing
    among four headings of the text. -/
theorem not_foundBySlug (htrim : trim text = text) (hline : '\n' ∉ text.toList)
    (h : slugify text = "" ∨ slugify (slugify text) ≠ slugify text) : ¬ FoundBySlug text := by
  intro hfound
  -- One number at most makes the text itself, and one at most what has the slug of the text.
  obtain ⟨n, hpos, hle, htext, hslug⟩ :=
    exists_free (p := fun n => lowercase text = numberedSlug (slugify text) n)
      (q := fun n => slugify (numberedSlug (slugify text) n) = slugify text)
      (fun m n hm hn hmText hnText => (numberedSlug_inj hm hn (hmText.symm.trans hnText)).2)
      (fun m n hm hn hmSlug hnSlug => slugify_numberedSlug_inj hm hn (hmSlug.trans hnSlug.symm))
  have hmem : numberedSlug (slugify text) n ∈ (ofText (repeated text 4)).map slug := by
    rw [map_slug_repeated htrim hline]
    refine List.mem_map_of_mem ?_
    simp only [List.mem_cons, List.not_mem_nil]
    omega
  obtain ⟨g, hg, hgslug⟩ := List.mem_map.mp hmem
  have hne : g.slug ≠ "" := by
    rw [hgslug, Ne, ← String.toList_inj, toList_numberedSlug hpos]
    simp
  have hsome := hfound _ g hg (text_of_mem_repeated htrim hline hg) hne
  rw [hgslug, find?_repeated_eq_none htrim hline h hpos htext hslug] at hsome
  exact nomatch hsome

/-! ### Texts whose headings are found -/

/-- The headings of a text are found by their slugs in every note exactly if the text has a slug
    that is its own slug, in ASCII exactly if a letter or digit is in it. -/
theorem foundBySlug_iff (htrim : trim text = text) (hline : '\n' ∉ text.toList) :
    (FoundBySlug text ↔ slugify text ≠ "" ∧ slugify (slugify text) = slugify text) ∧
      (IsAscii text.toList → (FoundBySlug text ↔ ∃ c ∈ text.toList, c.isAlphanum = true)) := by
  have hiff : FoundBySlug text ↔ slugify text ≠ "" ∧ slugify (slugify text) = slugify text := by
    constructor
    · intro hfound
      by_contra hnot
      refine not_foundBySlug htrim hline ?_ hfound
      by_cases hempty : slugify text = ""
      · exact .inl hempty
      · exact .inr fun hfixed => hnot ⟨hempty, hfixed⟩
    · rintro ⟨hne, hfixed⟩
      exact foundBySlug_of_fixed hne hfixed
  refine ⟨hiff, fun hascii => ?_⟩
  have hfixed : slugify (slugify text) = slugify text := by
    rw [slugify, slugify, String.toList_ofList, slugChars_slugChars_ascii hascii]
  have hletter (c : Char) (hc : c ∈ text.toList) : isAlphanumeric c = c.isAlphanum :=
    if_pos (hascii c hc)
  rw [hiff, Ne, slugify_eq_empty_iff, normalFormChars_ascii hascii]
  constructor
  · rintro ⟨hsome, -⟩
    by_contra hnone
    refine hsome fun c hc => ?_
    rw [hletter c hc, ← Bool.not_eq_true]
    exact fun halnum => hnone ⟨c, hc, halnum⟩
  · rintro ⟨c, hc, halnum⟩
    refine ⟨fun hnone => ?_, hfixed⟩
    rw [← hletter c hc, hnone c hc] at halnum
    exact absurd halnum Bool.false_ne_true

/-- Headings with a word are found, whatever stands between the words. -/
theorem foundBySlug_words :
    let text := "Getting Started!"
    trim text = text ∧ '\n' ∉ text.toList ∧ FoundBySlug text := by
  intro text
  have htrim : trim text = text := by decide
  have hline : '\n' ∉ text.toList := by decide
  have hascii : IsAscii text.toList := by decide
  exact ⟨htrim, hline, ((foundBySlug_iff htrim hline).2 hascii).mpr ⟨'G', by decide, by decide⟩⟩

/-- The second of two headings without a letter has a hyphen and a number as its slug, of which the
    hyphen is lost.  A dotted capital keeps its dot in the slug, but not when the slug is taken
    again. -/
theorem slug_finds_nothing :
    (ofText "# !\n# !").map slug = ["", "-1"] ∧ find? (ofText "# !\n# !") "-1" = none ∧
      (ofText "# İ b").map slug = ["i\u0307-b"] ∧ find? (ofText "# İ b") "i\u0307-b" = none ∧
      ¬ FoundBySlug "!" := by
  have hslugs : (ofText "# !\n# !").map slug = ["", "-1"] := by decide +kernel
  have hnone : find? (ofText "# !\n# !") "-1" = none := by decide +kernel
  have htexts : (ofText "# !\n# !").map Heading.text = ["!", "!"] := by decide +kernel
  refine ⟨hslugs, hnone, by decide +kernel, by decide +kernel, fun hfound => ?_⟩
  have hmem : "-1" ∈ (ofText "# !\n# !").map slug := by rw [hslugs]; simp
  obtain ⟨h, hh, hslug⟩ := List.mem_map.mp hmem
  have htext : h.text ∈ ["!", "!"] := htexts ▸ List.mem_map_of_mem hh
  have hsome := hfound _ h hh (by simpa using htext) (by rw [hslug]; decide)
  rw [hslug, hnone] at hsome
  exact nomatch hsome

end WikiNotes.Heading
