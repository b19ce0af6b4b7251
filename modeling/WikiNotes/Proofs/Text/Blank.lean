import Mathlib.Data.List.DropRight
import WikiNotes.Text.Blank

/-! # Trimming

`stripWhile` takes away the longest stretches of a class at both ends of a list: what is left starts
and ends outside the class (`head?_stripWhile`, `getLast?_stripWhile`), and a list that does so is
left as it is (`stripWhile_eq_self_iff`), as is what was stripped before (`stripWhile_stripWhile`).
Trimming is the case of the blanks. -/

namespace WikiNotes.Text

variable {p : Char → Bool} {cs : List Char}

theorem dropEndWhile_eq_rdropWhile (p : Char → Bool) (cs : List Char) :
    dropEndWhile p cs = cs.rdropWhile p := rfl

theorem dropEndWhile_prefix (p : Char → Bool) (cs : List Char) : dropEndWhile p cs <+: cs :=
  List.rdropWhile_prefix p cs

/-- A list ends in characters of the class behind what is left when they are dropped. -/
theorem exists_dropEndWhile (p : Char → Bool) (cs : List Char) :
    ∃ trail, cs = dropEndWhile p cs ++ trail ∧ ∀ c ∈ trail, p c = true := by
  refine ⟨cs.rtakeWhile p, List.rdropWhile_append_rtakeWhile.symm, fun c hc => ?_⟩
  exact List.mem_rtakeWhile_imp hc

theorem getLast?_dropEndWhile {c : Char} (h : (dropEndWhile p cs).getLast? = some c) :
    p c = false := by
  have hne : cs.rdropWhile p ≠ [] := by
    intro hnil
    rw [dropEndWhile_eq_rdropWhile, hnil] at h
    exact nomatch h
  have hlast := List.rdropWhile_last_not p cs hne
  rw [dropEndWhile_eq_rdropWhile, List.getLast?_eq_some_getLast hne, Option.some.injEq] at h
  rwa [h, Bool.not_eq_true] at hlast

theorem dropEndWhile_eq_self_iff :
    dropEndWhile p cs = cs ↔ ∀ c, cs.getLast? = some c → p c = false := by
  rw [dropEndWhile_eq_rdropWhile, List.rdropWhile_eq_self_iff]
  constructor
  · intro h c hc
    have hne : cs ≠ [] := by
      rintro rfl
      exact nomatch hc
    have hlast := h hne
    rw [List.getLast?_eq_some_getLast hne, Option.some.injEq] at hc
    rwa [hc, Bool.not_eq_true] at hlast
  · intro h hne
    rw [h _ (List.getLast?_eq_some_getLast hne)]
    exact Bool.false_ne_true

/-- Characters of the class behind a list that ends outside it are dropped. -/
theorem dropEndWhile_append_of_stop {xs trail : List Char}
    (hxs : ∀ c, xs.getLast? = some c → p c = false) (htrail : ∀ c ∈ trail, p c = true) :
    dropEndWhile p (xs ++ trail) = xs := by
  rw [dropEndWhile, List.reverse_append,
    List.dropWhile_append_of_pos fun c hc => htrail c (List.mem_reverse.mp hc)]
  exact dropEndWhile_eq_self_iff.mpr hxs

/-- Of two lists in a row the first one loses something only if nothing is left of the second. -/
theorem dropEndWhile_append (p : Char → Bool) (xs ys : List Char) :
    dropEndWhile p (xs ++ ys) =
      if dropEndWhile p ys = [] then dropEndWhile p xs else xs ++ dropEndWhile p ys := by
  simp only [dropEndWhile, List.reverse_append, List.dropWhile_append, List.reverse_eq_nil_iff,
    List.isEmpty_iff]
  split <;> simp

theorem head?_dropWhile {c : Char} (h : (cs.dropWhile p).head? = some c) : p c = false := by
  have hnot := List.head?_dropWhile_not p cs
  rw [h] at hnot
  simpa using hnot

theorem dropWhile_eq_self_iff_head? :
    cs.dropWhile p = cs ↔ ∀ c, cs.head? = some c → p c = false := by
  cases cs with
  | nil => simp
  | cons c cs =>
    by_cases hc : p c = true
    · have hlen := List.length_dropWhile_le p cs
      have hne : cs.dropWhile p ≠ c :: cs := by
        intro heq
        rw [heq, List.length_cons] at hlen
        omega
      simp [hc, hne]
    · simp [hc]

/-- The longest stretch of a class ends where the first character outside it stands. -/
theorem takeWhile_append_of_stop {xs rest : List Char} (hxs : ∀ c ∈ xs, p c = true)
    (hrest : ∀ c, rest.head? = some c → p c = false) : (xs ++ rest).takeWhile p = xs := by
  rw [List.takeWhile_append_of_pos hxs]
  cases rest with
  | nil => simp
  | cons c rest => simp [hrest c rfl]

theorem dropWhile_append_of_stop {xs rest : List Char} (hxs : ∀ c ∈ xs, p c = true)
    (hrest : ∀ c, rest.head? = some c → p c = false) : (xs ++ rest).dropWhile p = rest := by
  rw [List.dropWhile_append_of_pos hxs]
  exact dropWhile_eq_self_iff_head?.mpr hrest

/-- A list starts with a longest stretch of the class. -/
theorem exists_longest (p : Char → Bool) (cs : List Char) :
    ∃ xs rest, cs = xs ++ rest ∧ (∀ c ∈ xs, p c = true) ∧
      ∀ c, rest.head? = some c → p c = false :=
  ⟨cs.takeWhile p, cs.dropWhile p, List.takeWhile_append_dropWhile.symm,
    fun _ hc => List.mem_takeWhile_imp hc, fun _ hc => head?_dropWhile hc⟩

/-! ### Stripping both ends -/

/-- A list is what is left of it between characters of the class. -/
theorem exists_stripWhile (p : Char → Bool) (cs : List Char) :
    ∃ lead trail, cs = lead ++ stripWhile p cs ++ trail ∧ (∀ c ∈ lead, p c = true) ∧
      ∀ c ∈ trail, p c = true := by
  obtain ⟨trail, htrail, hall⟩ := exists_dropEndWhile p (cs.dropWhile p)
  refine ⟨cs.takeWhile p, trail, ?_, fun c hc => List.mem_takeWhile_imp hc, hall⟩
  rw [List.append_assoc, stripWhile, ← htrail, List.takeWhile_append_dropWhile]

theorem getLast?_stripWhile {c : Char} (h : (stripWhile p cs).getLast? = some c) : p c = false :=
  getLast?_dropEndWhile h

theorem head?_stripWhile {c : Char} (h : (stripWhile p cs).head? = some c) : p c = false := by
  obtain ⟨trail, htrail, -⟩ := exists_dropEndWhile p (cs.dropWhile p)
  have hhead : (cs.dropWhile p).head? = some c := by
    change (dropEndWhile p (cs.dropWhile p)).head? = some c at h
    rw [htrail, List.head?_append, h, Option.some_or]
  exact head?_dropWhile hhead

/-- A list that starts and ends outside the class is left as it is. -/
theorem stripWhile_eq_self_iff :
    stripWhile p cs = cs ↔
      (∀ c, cs.head? = some c → p c = false) ∧ ∀ c, cs.getLast? = some c → p c = false := by
  constructor
  · intro h
    exact ⟨fun c hc => head?_stripWhile (h.symm ▸ hc),
      fun c hc => getLast?_stripWhile (h.symm ▸ hc)⟩
  · rintro ⟨hhead, hlast⟩
    rw [stripWhile, dropWhile_eq_self_iff_head?.mpr hhead, dropEndWhile_eq_self_iff.mpr hlast]

/-- What was stripped is left as it is. -/
theorem stripWhile_stripWhile (p : Char → Bool) (cs : List Char) :
    stripWhile p (stripWhile p cs) = stripWhile p cs :=
  stripWhile_eq_self_iff.mpr ⟨fun _ => head?_stripWhile, fun _ => getLast?_stripWhile⟩

theorem length_stripWhile_le (p : Char → Bool) (cs : List Char) :
    (stripWhile p cs).length ≤ cs.length := by
  obtain ⟨lead, trail, hcs, -, -⟩ := exists_stripWhile p cs
  have hlength := congrArg List.length hcs
  rw [List.length_append, List.length_append] at hlength
  omega

/-- If nothing was stripped the list is left as it is. -/
theorem stripWhile_eq_self_of_length_le (h : cs.length ≤ (stripWhile p cs).length) :
    stripWhile p cs = cs := by
  obtain ⟨lead, trail, hcs, -, -⟩ := exists_stripWhile p cs
  have hlength := congrArg List.length hcs
  rw [List.length_append, List.length_append] at hlength
  have hlead : lead = [] := List.eq_nil_of_length_eq_zero (by omega)
  have htrail : trail = [] := List.eq_nil_of_length_eq_zero (by omega)
  rw [hlead, htrail, List.nil_append, List.append_nil] at hcs
  exact hcs.symm

theorem mem_of_mem_stripWhile {c : Char} (h : c ∈ stripWhile p cs) : c ∈ cs := by
  obtain ⟨lead, trail, hcs, -, -⟩ := exists_stripWhile p cs
  rw [hcs]
  exact List.mem_append_left _ (List.mem_append_right _ h)

/-- Characters of the class around a list have no part in what is left of it. -/
theorem stripWhile_between {lead trail : List Char} (hlead : ∀ c ∈ lead, p c = true)
    (htrail : ∀ c ∈ trail, p c = true) (cs : List Char) :
    stripWhile p (lead ++ cs ++ trail) = stripWhile p cs := by
  have hback (xs : List Char) : dropEndWhile p (xs ++ trail) = dropEndWhile p xs := by
    rw [dropEndWhile, List.reverse_append, dropEndWhile,
      List.dropWhile_append_of_pos fun c hc => htrail c (List.mem_reverse.mp hc)]
  rw [stripWhile, List.append_assoc, List.dropWhile_append_of_pos hlead, List.dropWhile_append]
  split
  case isFalse => exact hback _
  case isTrue hnil =>
    rw [List.isEmpty_iff] at hnil
    have hall : trail.dropWhile p = [] := List.dropWhile_eq_nil_iff.mpr htrail
    rw [stripWhile, hnil, hall]

/-- Nothing is left exactly of a list of the class alone. -/
theorem stripWhile_eq_nil_iff : stripWhile p cs = [] ↔ ∀ c ∈ cs, p c = true := by
  constructor
  · intro hnil
    obtain ⟨lead, trail, hcs, hlead, htrail⟩ := exists_stripWhile p cs
    rw [hcs, hnil, List.append_nil]
    exact List.forall_mem_append.mpr ⟨hlead, htrail⟩
  · intro hall
    have hstrip := stripWhile_between hall (List.forall_mem_nil _) []
    rwa [List.append_nil, List.append_nil] at hstrip

/-! ### Trimming -/

theorem trimChars_eq_nil_iff : trimChars cs = [] ↔ ∀ c ∈ cs, isBlank c = true :=
  stripWhile_eq_nil_iff

theorem toList_trim (s : String) : (trim s).toList = trimChars s.toList :=
  String.toList_ofList

theorem trim_eq_self_iff {s : String} : trim s = s ↔ trimChars s.toList = s.toList := by
  rw [← toList_trim, String.toList_inj]

end WikiNotes.Text
