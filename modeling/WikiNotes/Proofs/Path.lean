import WikiNotes.Path

/-! # Components of joined paths

A path is cut at its slashes, so joining two texts with a slash appends the parts of the one to
those of the other (`splitSlash_append_slash`).  A path that starts neither with a slash nor with a
dot of its own leads on from where another one leads to (`location_join_of_splitSlash`).  From this
follows what a directory lists: joining its path with the name of an entry leads to the place right
beneath it (`location_join`).

`IsEntryName` says which texts are such names; every name in a location is one
(`isEntryName_of_mem_location`). -/

namespace WikiNotes

/-- A text that can name an entry of a directory. -/
def IsEntryName (text : String) : Prop :=
  text ≠ "" ∧ text ≠ "." ∧ text ≠ ".." ∧ '/' ∉ text.toList

namespace Path

/-! ### Parts between slashes -/

theorem splitSlash_ne_nil (cs : List Char) : splitSlash cs ≠ [] := by
  cases cs with
  | nil => simp [splitSlash]
  | cons c rest =>
    simp only [splitSlash]
    split
    · simp
    · split <;> simp

theorem splitSlash_append_slash (as bs : List Char) :
    splitSlash (as ++ '/' :: bs) = splitSlash as ++ splitSlash bs := by
  induction as with
  | nil => simp [splitSlash]
  | cons c rest ih =>
    simp only [List.cons_append, splitSlash, ih]
    by_cases hc : c = '/'
    · simp [hc]
    · simp only [hc, if_false]
      cases hsplit : splitSlash rest with
      | nil => exact absurd hsplit (splitSlash_ne_nil rest)
      | cons part parts => rfl

theorem splitSlash_of_not_mem {cs : List Char} (h : '/' ∉ cs) : splitSlash cs = [cs] := by
  induction cs with
  | nil => rfl
  | cons c rest ih =>
    simp only [List.mem_cons, not_or] at h
    simp only [splitSlash, if_neg (Ne.symm h.1), ih h.2]

theorem not_mem_of_mem_splitSlash {cs part : List Char} (h : part ∈ splitSlash cs) :
    '/' ∉ part := by
  induction cs generalizing part with
  | nil =>
    rw [splitSlash, List.mem_singleton] at h
    simp [h]
  | cons c rest ih =>
    simp only [splitSlash] at h
    by_cases hc : c = '/'
    · rw [if_pos hc, List.mem_cons] at h
      rcases h with rfl | h
      · simp
      · exact ih h
    · rw [if_neg hc] at h
      cases hsplit : splitSlash rest with
      | nil => exact absurd hsplit (splitSlash_ne_nil rest)
      | cons first parts =>
        rw [hsplit] at h ih
        -- The character joins the first part of the rest; the other parts are parts of the rest.
        rcases List.mem_cons.mp h with rfl | h
        · have hfirst : '/' ∉ first := ih (List.mem_cons_self ..)
          simp [hfirst, Ne.symm hc]
        · exact ih (List.mem_cons_of_mem _ h)

/-- Only an empty text has nothing in its only part, and an ending slash leaves an empty part. -/
theorem splitSlash_eq_singleton_nil {cs : List Char} (h : splitSlash cs = [[]]) : cs = [] := by
  cases cs with
  | nil => rfl
  | cons c rest =>
    simp only [splitSlash] at h
    split at h
    case isTrue =>
      rw [List.cons.injEq] at h
      exact absurd h.2 (splitSlash_ne_nil rest)
    case isFalse => split at h <;> simp at h

/-! ### Components of parts -/

/-- The components that the first of several parts and the parts after it stand for. -/
def leading (first : List Char) (rest : List (List Char)) : Location :=
  (firstComponent first false).toList ++ rest.filterMap innerComponent

theorem location_of_splitSlash {p : Path} {first : List Char} {rest : List (List Char)}
    (h : splitSlash p.text.toList = first :: rest) :
    p.location = (firstComponent first rest.isEmpty).toList ++ rest.filterMap innerComponent := by
  simp only [location, parts, h, List.filterMap_cons, List.filterMap_map]
  cases firstComponent first rest.isEmpty <;> rfl

/-- With parts behind them the other parts of a path stand for what leads to these. -/
theorem location_of_splitSlash_append {p : Path} {first : List Char} {rest more : List (List Char)}
    (h : splitSlash p.text.toList = first :: (rest ++ more)) (hmore : more ≠ []) :
    p.location = leading first rest ++ more.filterMap innerComponent := by
  have hlast : (rest ++ more).isEmpty = false := by simp [hmore]
  rw [location_of_splitSlash h, leading, List.filterMap_append, ← List.append_assoc, hlast]

/-- A text that is not empty stands for the same components with or without a part behind it. -/
theorem location_eq_leading {p : Path} {first : List Char} {rest : List (List Char)}
    (h : splitSlash p.text.toList = first :: rest) (hne : p.text ≠ "") :
    p.location = leading first rest := by
  rw [location_of_splitSlash h, leading]
  cases rest with
  | cons part parts => rfl
  | nil =>
    have hfirst : first ≠ [] := by
      rintro rfl
      exact hne (String.toList_inj.mp (splitSlash_eq_singleton_nil h))
    simp [firstComponent, hfirst]

theorem innerComponent_of_isEntryName {text : String} (h : IsEntryName text) :
    innerComponent text.toList = some (.name text) := by
  obtain ⟨hempty, hdot, hdots, -⟩ := h
  have hnil : text.toList ≠ [] := fun heq => hempty (String.toList_inj.mp heq)
  have hone : text.toList ≠ ['.'] := fun heq => hdot (String.toList_inj.mp heq)
  have htwo : text.toList ≠ ['.', '.'] := fun heq => hdots (String.toList_inj.mp heq)
  simp [innerComponent, hnil, hone, htwo]

theorem eq_ofList_of_innerComponent {part : List Char} {text : String}
    (h : innerComponent part = some (.name text)) :
    text = String.ofList part ∧ part ≠ [] ∧ part ≠ ['.'] ∧ part ≠ ['.', '.'] := by
  simp only [innerComponent] at h
  split at h
  case isTrue => exact nomatch h
  case isFalse hidle =>
    rw [not_or] at hidle
    split at h
    case isTrue => exact nomatch h
    case isFalse hdots =>
      simp only [Option.some.injEq, Component.name.injEq] at h
      exact ⟨h.symm, hidle.1, hidle.2, hdots⟩

/-- A name is a component only of the part that is spelled like it. -/
theorem mem_splitSlash_of_mem_location {p : Path} {text : String}
    (h : .name text ∈ p.location) :
    ∃ part ∈ splitSlash p.text.toList, innerComponent part = some (.name text) := by
  cases hsplit : splitSlash p.text.toList with
  | nil => exact absurd hsplit (splitSlash_ne_nil _)
  | cons first rest =>
    rw [location_of_splitSlash hsplit, List.mem_append, List.mem_filterMap, Option.mem_toList] at h
    rcases h with hfirst | ⟨part, hpart, hname⟩
    · refine ⟨first, List.mem_cons_self .., ?_⟩
      simp only [firstComponent] at hfirst
      split at hfirst
      case isTrue => split at hfirst <;> exact nomatch hfirst
      case isFalse =>
        split at hfirst
        case isTrue => exact nomatch hfirst
        case isFalse => exact hfirst
    · exact ⟨part, List.mem_cons_of_mem _ hpart, hname⟩

/-- Every name in a location can name an entry of a directory. -/
theorem isEntryName_of_mem_location {p : Path} {text : String} (h : .name text ∈ p.location) :
    IsEntryName text := by
  obtain ⟨part, hpart, hname⟩ := mem_splitSlash_of_mem_location h
  obtain ⟨rfl, hnil, hone, htwo⟩ := eq_ofList_of_innerComponent hname
  have hne {cs : List Char} (hcs : part ≠ cs) : String.ofList part ≠ String.ofList cs :=
    fun heq => hcs (String.ofList_injective heq)
  refine ⟨hne hnil, hne hone, hne htwo, ?_⟩
  rw [String.toList_ofList]
  exact not_mem_of_mem_splitSlash hpart

/-! ### Joining -/

theorem head?_of_splitSlash {cs first : List Char} {rest : List (List Char)}
    (h : splitSlash cs = first :: rest) (hfirst : first ≠ []) : cs.head? = first.head? := by
  cases cs with
  | nil =>
    simp only [splitSlash, List.cons.injEq] at h
    exact absurd h.1.symm hfirst
  | cons c cs =>
    simp only [splitSlash] at h
    split at h
    case isTrue => exact absurd (List.cons.inj h).1.symm hfirst
    case isFalse =>
      split at h
      case h_1 => rw [← (List.cons.inj h).1]; rfl
      case h_2 => rw [← (List.cons.inj h).1]; rfl

/-- A path that starts neither with a slash nor with a dot of its own leads on from a directory. -/
theorem location_join_of_splitSlash (dir : Path) {q : Path} {first : List Char}
    {rest : List (List Char)} (hsplit : splitSlash q.text.toList = first :: rest)
    (hfirst : first ≠ []) (hdot : first ≠ ['.']) :
    (dir.join q).location = dir.location ++ q.location := by
  have hrelative : q.isAbsolute = false := by
    have hslash : '/' ∉ first := not_mem_of_mem_splitSlash (hsplit ▸ List.mem_cons_self ..)
    rw [isAbsolute, head?_of_splitSlash hsplit hfirst, beq_eq_false_iff_ne]
    exact fun hhead => hslash (List.mem_of_head? hhead)
  have hcomponents : q.location = (first :: rest).filterMap innerComponent := by
    rw [location_of_splitSlash hsplit, firstComponent, if_neg hfirst, if_neg hdot,
      List.filterMap_cons]
    cases innerComponent first <;> rfl
  simp only [join, hrelative, Bool.false_eq_true, if_false]
  -- A slash goes in between unless the directory is spelled as nothing or ends in a slash.
  split
  case isFalse h =>
    simp only [Bool.or_eq_true, not_or, Bool.not_eq_true, String.isEmpty_eq_false_iff] at h
    obtain ⟨dirFirst, dirRest, hdir⟩ :=
      List.exists_cons_of_ne_nil (splitSlash_ne_nil dir.text.toList)
    have htext : splitSlash (dir.text ++ "/" ++ q.text).toList =
        dirFirst :: (dirRest ++ first :: rest) := by
      simp [splitSlash_append_slash, hdir, hsplit]
    rw [location_of_splitSlash_append htext (List.cons_ne_nil _ _), hcomponents,
      location_eq_leading hdir h.1]
  case isTrue h =>
    rw [Bool.or_eq_true, String.isEmpty_iff, beq_iff_eq, List.getLast?_eq_some_iff] at h
    rcases h with hempty | ⟨front, hfront⟩
    · have hdir : splitSlash dir.text.toList = [[]] := by simp [hempty, splitSlash]
      have htext : (⟨dir.text ++ q.text⟩ : Path) = q := by simp [hempty]
      rw [htext, location_of_splitSlash hdir]
      rfl
    · -- The empty part behind the last slash gives way to what follows.
      obtain ⟨dirFirst, dirRest, hfront'⟩ := List.exists_cons_of_ne_nil (splitSlash_ne_nil front)
      have hdir : splitSlash dir.text.toList = dirFirst :: (dirRest ++ [[]]) := by
        rw [hfront, splitSlash_append_slash, hfront']
        rfl
      have htext : splitSlash (dir.text ++ q.text).toList =
          dirFirst :: (dirRest ++ first :: rest) := by
        rw [String.toList_append, hfront, List.append_assoc, List.singleton_append,
          splitSlash_append_slash, hfront', hsplit]
        rfl
      rw [location_of_splitSlash_append htext (List.cons_ne_nil _ _), hcomponents,
        location_of_splitSlash_append hdir (List.cons_ne_nil _ _)]
      simp [innerComponent]

/-- The path of an entry of a directory leads to the place right beneath the directory. -/
theorem location_join (dir : Path) {name : String} (hname : IsEntryName name) :
    (dir.join ⟨name⟩).location = dir.location ++ [.name name] := by
  have hsplit : splitSlash name.toList = [name.toList] := splitSlash_of_not_mem hname.2.2.2
  have hnil : name.toList ≠ [] := fun heq => hname.1 (String.toList_inj.mp heq)
  have hdot : name.toList ≠ ['.'] := fun heq => hname.2.1 (String.toList_inj.mp heq)
  rw [location_join_of_splitSlash (q := ⟨name⟩) dir hsplit hnil hdot, location_of_splitSlash hsplit,
    firstComponent, if_neg hnil, if_neg hdot, innerComponent_of_isEntryName hname]
  rfl

/-! ### The order of paths -/

instance : Std.TransCmp order := inferInstanceAs (Std.TransCmp (compareOn location))

/-- Only paths of one place compare as equal. -/
theorem order_eq_eq_iff {p q : Path} : p.order q = .eq ↔ p.location = q.location :=
  Std.LawfulEqOrd.compare_eq_iff_eq

/-! ### Lying beneath a path -/

theorem isUnder_iff {p base : Path} :
    p.isUnder base = true ↔ ∃ beneath, p.location = base.location ++ beneath := by
  rw [isUnder, List.isPrefixOf_iff_prefix]
  exact ⟨fun ⟨rest, h⟩ => ⟨rest, h.symm⟩, fun ⟨rest, h⟩ => ⟨rest, h.symm⟩⟩

theorem isUnder_congr {p q base : Path} (h : p.location = q.location) :
    p.isUnder base = q.isUnder base := by
  rw [isUnder, isUnder, h]

/-! ### File names -/

theorem fileName?_congr {p q : Path} (h : p.location = q.location) : p.fileName? = q.fileName? := by
  rw [fileName?, fileName?, h]

/-- The stem of a path is that of its place. -/
theorem stem_congr {p q : Path} (h : p.location = q.location) : p.stem = q.stem := by
  rw [stem, stem, fileName?_congr h]

theorem extension?_congr {p q : Path} (h : p.location = q.location) :
    p.extension? = q.extension? := by
  rw [extension?, extension?, fileName?_congr h]

end Path

end WikiNotes
