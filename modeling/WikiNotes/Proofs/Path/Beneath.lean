import Mathlib.Data.List.DropRight
import WikiNotes.Proofs.Path

/-! # What is left of a path beneath a base

Stripping a base from a path keeps the spelling of what follows the base, without the parts at its
ends that stand for nothing.  What is left names the components beneath the base, and joined with
the base it leads to the place of the path again (`exists_stripBase?`): it cannot start with a
slash or a lone dot, which would be read as a root or as a component in front of a path. -/

namespace WikiNotes

namespace Path

/-! ### Slashes between parts -/

theorem joinSlash_cons {part : List Char} {parts : List (List Char)} (h : parts ≠ []) :
    joinSlash (part :: parts) = part ++ '/' :: joinSlash parts := by
  cases parts with
  | nil => exact absurd rfl h
  | cons next parts => rfl

/-- Parts without slashes are those of the text that has slashes between them. -/
theorem splitSlash_joinSlash {parts : List (List Char)} (hne : parts ≠ [])
    (h : ∀ part ∈ parts, '/' ∉ part) : splitSlash (joinSlash parts) = parts := by
  induction parts with
  | nil => exact absurd rfl hne
  | cons part parts ih =>
    obtain ⟨hpart, hparts⟩ := List.forall_mem_cons.mp h
    by_cases hlast : parts = []
    · rw [hlast, joinSlash, splitSlash_of_not_mem hpart]
    · rw [joinSlash_cons hlast, splitSlash_append_slash, splitSlash_of_not_mem hpart,
        ih hlast hparts, List.singleton_append]

/-- A text that does not end in a slash ends as its last part does. -/
theorem exists_splitSlash_concat (cs : List Char) {c : Char} (hc : c ≠ '/') :
    ∃ parts part, splitSlash (cs ++ [c]) = parts ++ [part ++ [c]] := by
  induction cs with
  | nil => exact ⟨[], [], by simp [splitSlash, hc]⟩
  | cons d cs ih =>
    obtain ⟨parts, part, hsplit⟩ := ih
    simp only [List.cons_append, splitSlash, hsplit]
    by_cases hd : d = '/'
    · exact ⟨[] :: parts, part, by rw [if_pos hd, List.cons_append]⟩
    · rw [if_neg hd]
      -- The character in front joins the first part, which may be the last one.
      cases parts with
      | nil => exact ⟨[], d :: part, rfl⟩
      | cons first parts => exact ⟨(d :: first) :: parts, part, rfl⟩

/-! ### The first part -/

theorem innerComponent_ne_root (part : List Char) : innerComponent part ≠ some .root := by
  simp only [innerComponent]
  split
  case isTrue => simp
  case isFalse => split <;> simp

theorem innerComponent_eq_none_iff {part : List Char} :
    innerComponent part = none ↔ part = [] ∨ part = ['.'] := by
  simp only [innerComponent]
  split
  case isTrue h => exact iff_of_true rfl h
  case isFalse h => split <;> exact iff_of_false (Option.some_ne_none _) h

/-- A first part that is not empty stands for a component other than the root, be there more parts
    or not. -/
theorem exists_firstComponent {part : List Char} (h : part ≠ []) :
    ∃ c, c ≠ .root ∧ ∀ isLast, firstComponent part isLast = some c := by
  simp only [firstComponent, if_neg h]
  split
  case isTrue => exact ⟨.current, by decide, fun _ => rfl⟩
  case isFalse hdot =>
    cases hc : innerComponent part with
    | none => exact absurd (innerComponent_eq_none_iff.mp hc) (not_or.mpr ⟨h, hdot⟩)
    | some c =>
      refine ⟨c, ?_, fun _ => rfl⟩
      rintro rfl
      exact innerComponent_ne_root part hc

/-- The first part of a text stands for a component, be it the root, unless the text is empty. -/
theorem exists_firstComponent_of_splitSlash {p : Path} {first : List Char}
    {rest : List (List Char)} (hsplit : splitSlash p.text.toList = first :: rest)
    (hne : p.text ≠ "") : ∃ c, firstComponent first rest.isEmpty = some c := by
  by_cases hempty : first = []
  · subst hempty
    cases rest with
    | nil => exact absurd (String.toList_inj.mp (splitSlash_eq_singleton_nil hsplit)) hne
    | cons part rest => exact ⟨.root, rfl⟩
  · obtain ⟨c, -, hc⟩ := exists_firstComponent hempty
    exact ⟨c, hc _⟩

theorem location_eq_nil_iff {p : Path} : p.location = [] ↔ p.text = "" := by
  constructor
  · intro h
    obtain ⟨first, rest, hsplit⟩ := List.exists_cons_of_ne_nil (splitSlash_ne_nil p.text.toList)
    by_contra hne
    obtain ⟨c, hc⟩ := exists_firstComponent_of_splitSlash hsplit hne
    rw [location_of_splitSlash hsplit, hc] at h
    exact nomatch h
  · intro h
    simp [location, parts, h, splitSlash, firstComponent]

/-- A path starts with a slash exactly if its place is at or beneath the root. -/
theorem isAbsolute_iff {p : Path} : p.isAbsolute = true ↔ p.location.head? = some .root := by
  cases htext : p.text.toList with
  | nil => simp [isAbsolute, location, parts, htext, splitSlash, firstComponent]
  | cons c cs =>
    rw [isAbsolute, htext, List.head?_cons, beq_iff_eq, Option.some_inj]
    obtain ⟨part, parts, hcs⟩ := List.exists_cons_of_ne_nil (splitSlash_ne_nil cs)
    by_cases hc : c = '/'
    · have hsplit : splitSlash p.text.toList = [] :: part :: parts := by
        rw [htext, splitSlash, if_pos hc, hcs]
      rw [location_of_splitSlash hsplit]
      exact iff_of_true hc rfl
    · have hsplit : splitSlash p.text.toList = (c :: part) :: parts := by
        rw [htext, splitSlash, if_neg hc, hcs]
      obtain ⟨first, hroot, hfirst⟩ := exists_firstComponent (List.cons_ne_nil c part)
      rw [location_of_splitSlash hsplit, hfirst]
      exact iff_of_false hc fun heq => hroot (Option.some.inj heq)

theorem join_of_isAbsolute (dir : Path) {p : Path} (h : p.isAbsolute = true) : dir.join p = p := by
  rw [join, if_pos h]

/-! ### The last part -/

/-- A last part that stands for a name is the name of the file. -/
theorem fileName?_of_splitSlash {p : Path} {parts : List (List Char)} {part : List Char}
    {name : String} (hsplit : splitSlash p.text.toList = parts ++ [part])
    (hname : innerComponent part = some (.name name)) : p.fileName? = some name := by
  have hlast : p.location.getLast? = some (.name name) := by
    cases parts with
    | nil =>
      obtain ⟨-, hnil, hdot, -⟩ := eq_ofList_of_innerComponent hname
      rw [location_of_splitSlash hsplit, firstComponent, if_neg hnil, if_neg hdot, hname]
      rfl
    | cons first rest =>
      rw [location_of_splitSlash_append hsplit (List.cons_ne_nil _ _)]
      simp [hname]
  rw [fileName?, hlast]

/-- Paths with the same components at their ends lead to files of one name. -/
theorem fileName?_of_location_append {p q : Path} {front : Location}
    (h : p.location = front ++ q.location) (hne : q.location ≠ []) : p.fileName? = q.fileName? := by
  rw [fileName?, fileName?, h, List.getLast?_append_of_ne_nil _ hne]

/-- The extension of a file name is what stands at its end. -/
theorem suffix_of_cutExtension {name stem suffix : List Char}
    (h : cutExtension name = (stem, some suffix)) : suffix <:+ name := by
  simp only [cutExtension] at h
  split at h
  case isTrue => exact nomatch h
  case isFalse =>
    rw [Prod.mk.injEq, Option.some.injEq] at h
    rw [← h.2, ← List.reverse_prefix, List.reverse_reverse]
    exact List.takeWhile_prefix _

/-! ### Parts that stand for nothing -/

/-- Parts behind a slash, each with the component that it stands for. -/
def inner (parts : List (List Char)) : List (List Char × Option Component) :=
  parts.map fun part => (part, innerComponent part)

/-- Whether a part behind a slash stands for nothing. -/
def isIdle (part : List Char) : Bool := (innerComponent part).isNone

theorem parts_of_splitSlash {p : Path} {first : List Char} {rest : List (List Char)}
    (h : splitSlash p.text.toList = first :: rest) :
    p.parts = (first, firstComponent first rest.isEmpty) :: inner rest := by
  rw [parts, h]
  rfl

theorem dropWhile_inner (parts : List (List Char)) :
    (inner parts).dropWhile (fun part => part.2.isNone) = inner (parts.dropWhile isIdle) :=
  List.dropWhile_map ..

theorem dropIdleEnd_inner (parts : List (List Char)) :
    dropIdleEnd (inner parts) = inner (parts.rdropWhile isIdle) := by
  rw [dropIdleEnd, inner, ← List.map_reverse, List.dropWhile_map, ← List.map_reverse]
  rfl

theorem dropIdleEnd_cons (part : List Char) (c : Component)
    (parts : List (List Char × Option Component)) :
    dropIdleEnd ((part, some c) :: parts) = (part, some c) :: dropIdleEnd parts := by
  rw [dropIdleEnd, dropIdleEnd, List.reverse_cons, List.dropWhile_append]
  split
  case isTrue h => simp [List.isEmpty_iff.mp h]
  case isFalse => simp

theorem filterMap_dropWhile_isIdle (parts : List (List Char)) :
    (parts.dropWhile isIdle).filterMap innerComponent = parts.filterMap innerComponent := by
  induction parts with
  | nil => rfl
  | cons part parts ih =>
    rw [List.dropWhile_cons]
    split
    case isTrue h => rw [ih, List.filterMap_cons_none (Option.isNone_iff_eq_none.mp h)]
    case isFalse => rfl

theorem filterMap_rdropWhile_isIdle (parts : List (List Char)) :
    (parts.rdropWhile isIdle).filterMap innerComponent = parts.filterMap innerComponent := by
  rw [List.rdropWhile, List.filterMap_reverse, filterMap_dropWhile_isIdle, List.filterMap_reverse,
    List.reverse_reverse]

/-! ### Stripping -/

/-- Parts behind a slash that start with some components leave those parts that stand for the
    others. -/
theorem exists_partsAfter_inner {cs beneath : Location} {parts : List (List Char)}
    (h : parts.filterMap innerComponent = cs ++ beneath) :
    ∃ behind, partsAfter cs (inner parts) = some (inner behind) ∧ behind <:+ parts ∧
      behind.filterMap innerComponent = beneath := by
  induction parts generalizing cs with
  | nil =>
    obtain ⟨rfl, rfl⟩ := List.append_eq_nil_iff.mp h.symm
    exact ⟨[], rfl, List.suffix_rfl, rfl⟩
  | cons part parts ih =>
    cases cs with
    | nil => exact ⟨part :: parts, by rw [partsAfter], List.suffix_rfl, h⟩
    | cons c cs =>
      rw [show inner (part :: parts) = (part, innerComponent part) :: inner parts from rfl]
      -- A part that stands for nothing is passed over, any other one takes up a component.
      cases hc : innerComponent part with
      | none =>
        rw [List.filterMap_cons_none hc] at h
        obtain ⟨behind, hafter, hsuffix, hbeneath⟩ := ih h
        exact ⟨behind, hafter, hsuffix.trans (List.suffix_cons ..), hbeneath⟩
      | some c' =>
        rw [List.filterMap_cons_some hc, List.cons_append, List.cons.injEq] at h
        obtain ⟨rfl, h⟩ := h
        obtain ⟨behind, hafter, hsuffix, hbeneath⟩ := ih h
        exact ⟨behind, by rw [partsAfter, if_pos rfl, hafter],
          hsuffix.trans (List.suffix_cons ..), hbeneath⟩

/-- The path that some parts spell has these parts again. -/
theorem splitSlash_ofParts {first : List Char} {c : Component} {parts : List (List Char)}
    (hfirst : firstComponent first parts.isEmpty = some c)
    (hslash : ∀ part ∈ first :: parts, '/' ∉ part) :
    splitSlash (ofParts ((first, some c) :: inner parts)).text.toList = first :: parts := by
  have hmap : ((first, some c) :: inner parts).map Prod.fst = first :: parts := by
    simp [inner, Function.comp_def]
  rw [ofParts, String.toList_ofList, hmap, splitSlash_joinSlash (List.cons_ne_nil _ _) hslash]
  -- A part alone is not the root, which takes a slash behind it.
  intro part heq
  obtain ⟨hpart, hnil⟩ := List.cons.inj heq
  obtain rfl := Option.some.inj (Prod.mk.inj hpart).2
  rw [List.map_eq_nil_iff.mp hnil] at hfirst
  by_cases hempty : first = []
  · rw [firstComponent, if_pos hempty] at hfirst
    exact absurd hfirst.symm (Option.some_ne_none _)
  · obtain ⟨c, hroot, hc⟩ := exists_firstComponent hempty
    exact hroot (Option.some.inj ((hc true).symm.trans hfirst))

theorem location_ofParts {first : List Char} {c : Component} {parts : List (List Char)}
    (hfirst : firstComponent first parts.isEmpty = some c)
    (hslash : ∀ part ∈ first :: parts, '/' ∉ part) :
    (ofParts ((first, some c) :: inner parts)).location =
      c :: parts.filterMap innerComponent := by
  rw [location_of_splitSlash (splitSlash_ofParts hfirst hslash), hfirst]
  rfl

/-- Without the parts at its end that stand for nothing a path names the same place. -/
theorem location_ofParts_dropIdleEnd (p : Path) :
    (ofParts (dropIdleEnd p.parts)).location = p.location := by
  obtain ⟨first, rest, hsplit⟩ := List.exists_cons_of_ne_nil (splitSlash_ne_nil p.text.toList)
  have hslash : ∀ part ∈ first :: rest.rdropWhile isIdle, '/' ∉ part := by
    intro part hpart
    have hrest : rest.rdropWhile isIdle ⊆ rest := (List.rdropWhile_prefix isIdle rest).subset
    exact not_mem_of_mem_splitSlash (hsplit ▸ List.cons_subset_cons first hrest hpart)
  rw [location_of_splitSlash hsplit, ← filterMap_rdropWhile_isIdle, parts_of_splitSlash hsplit]
  by_cases hempty : first = []
  · -- The path is empty or starts with a slash.
    subst hempty
    cases rest with
    | nil => rfl
    | cons part rest =>
      have hfirst : firstComponent [] (part :: rest).isEmpty = some .root := rfl
      rw [hfirst, dropIdleEnd_cons, dropIdleEnd_inner]
      -- Nothing may be left behind the slash of the root.
      by_cases hnil : (part :: rest).rdropWhile isIdle = []
      · rw [hnil]
        rfl
      · have hroot : firstComponent [] ((part :: rest).rdropWhile isIdle).isEmpty = some .root := by
          rw [List.isEmpty_eq_false_iff.mpr hnil]
          rfl
        rw [location_ofParts hroot hslash]
        rfl
  · obtain ⟨c, -, hc⟩ := exists_firstComponent hempty
    rw [hc, dropIdleEnd_cons, dropIdleEnd_inner, location_ofParts (hc _) hslash]
    rfl

/-- Without the parts at both ends that stand for nothing, parts that stand for something start with
    a component and stand for the same ones. -/
theorem exists_dropIdle_inner {parts : List (List Char)}
    (hne : parts.filterMap innerComponent ≠ []) :
    ∃ first c rest,
      dropIdleEnd ((inner parts).dropWhile fun part => part.2.isNone) =
          (first, some c) :: inner rest ∧
        innerComponent first = some c ∧ first :: rest ⊆ parts ∧
        parts.filterMap innerComponent = c :: rest.filterMap innerComponent := by
  have hkept := filterMap_dropWhile_isIdle parts
  have hsubset : parts.dropWhile isIdle ⊆ parts := (List.dropWhile_suffix isIdle).subset
  rw [dropWhile_inner]
  cases hdrop : parts.dropWhile isIdle with
  | nil =>
    rw [hdrop] at hkept
    exact absurd hkept.symm hne
  | cons first tail =>
    have hidle : isIdle first = false := by
      have hhead := List.head?_dropWhile_not isIdle parts
      rw [hdrop] at hhead
      simpa using hhead
    obtain ⟨c, hc⟩ := Option.isSome_iff_exists.mp (Option.isNone_eq_false_iff.mp hidle)
    rw [hdrop] at hkept hsubset
    refine ⟨first, c, tail.rdropWhile isIdle, ?_, hc, ?_, ?_⟩
    · rw [inner, List.map_cons, hc, dropIdleEnd_cons]
      exact congrArg _ (dropIdleEnd_inner tail)
    · have hrest : tail.rdropWhile isIdle ⊆ tail := (List.rdropWhile_prefix isIdle tail).subset
      exact List.Subset.trans (List.cons_subset_cons first hrest) hsubset
    · rw [← hkept, List.filterMap_cons_some hc, filterMap_rdropWhile_isIdle]

/-- Parts behind a slash, without those at both ends that stand for nothing, spell a path that leads
    on from any directory: it starts neither with a slash nor with a dot of its own. -/
theorem location_join_ofParts_inner {parts : List (List Char)}
    (hslash : ∀ part ∈ parts, '/' ∉ part) (hne : parts.filterMap innerComponent ≠ []) :
    let q := ofParts (dropIdleEnd ((inner parts).dropWhile fun part => part.2.isNone))
    q.location = parts.filterMap innerComponent ∧
      ∀ dir : Path, (dir.join q).location = dir.location ++ q.location := by
  intro q
  obtain ⟨first, c, rest, hdrop, hc, hsubset, hlocation⟩ := exists_dropIdle_inner hne
  have hq : q = ofParts ((first, some c) :: inner rest) := congrArg ofParts hdrop
  have hslash' : ∀ part ∈ first :: rest, '/' ∉ part := fun part hpart =>
    hslash part (hsubset hpart)
  have hsome : innerComponent first ≠ none := hc ▸ Option.some_ne_none c
  obtain ⟨hnil, hdot⟩ := not_or.mp (mt innerComponent_eq_none_iff.mpr hsome)
  have hfirst : firstComponent first rest.isEmpty = some c := by
    rw [firstComponent, if_neg hnil, if_neg hdot, hc]
  rw [hq, hlocation]
  exact ⟨location_ofParts hfirst hslash', fun dir =>
    location_join_of_splitSlash dir (splitSlash_ofParts hfirst hslash') hnil hdot⟩

/-- What is left of a path beneath a base names what lies beneath the base and, joined with the
    base, the place of the path. -/
theorem exists_stripBase? {p base : Path} {beneath : Location}
    (hplace : p.location = base.location ++ beneath) (hne : beneath ≠ []) :
    ∃ q, p.stripBase? base = some q ∧ q.location = beneath ∧
      (base.join q).location = p.location := by
  cases hbase : base.location with
  | nil =>
    -- Here the first part is kept as well, be it the root or a dot.
    have hjoin (q : Path) : base.join q = q := by
      simp [join, location_eq_nil_iff.mp hbase]
    refine ⟨_, by rw [stripBase?, hbase], ?_, ?_⟩
    · rw [location_ofParts_dropIdleEnd, hplace, hbase, List.nil_append]
    · rw [hjoin, location_ofParts_dropIdleEnd]
  | cons c cs =>
    obtain ⟨first, rest, hsplit⟩ := List.exists_cons_of_ne_nil (splitSlash_ne_nil p.text.toList)
    -- Beneath a place with components there are only parts behind a slash.
    have htext : p.text ≠ "" := by
      rw [Ne, ← location_eq_nil_iff, hplace, hbase]
      exact List.cons_ne_nil c _
    obtain ⟨c', hfirst⟩ := exists_firstComponent_of_splitSlash hsplit htext
    have hcomponents : c' :: rest.filterMap innerComponent = c :: (cs ++ beneath) := by
      rw [location_of_splitSlash hsplit, hfirst, hbase] at hplace
      exact hplace
    obtain ⟨rfl, hrest⟩ := List.cons.inj hcomponents
    obtain ⟨behind, hafter, hsuffix, rfl⟩ := exists_partsAfter_inner hrest
    have hslash : ∀ part ∈ behind, '/' ∉ part := fun part hpart =>
      not_mem_of_mem_splitSlash (hsplit ▸ List.mem_cons_of_mem first (hsuffix.subset hpart))
    obtain ⟨hlocation, hjoin⟩ := location_join_ofParts_inner hslash hne
    refine ⟨_, ?_, hlocation, ?_⟩
    · simp only [stripBase?, hbase, parts_of_splitSlash hsplit, hfirst, partsAfter, if_pos, hafter,
        Option.map_some]
    · rw [hjoin, hlocation, hplace, hbase]

end Path

end WikiNotes
