import WikiNotes.Index.Basic
import WikiNotes.Proofs.Index.TagTable

/-! # The maps of an index fit together

An `Index` keeps the same notes in several maps.  `Coherent` says that these tell one story: the
visible notes by name and by place, their tags, and the shadowed notes beside them.  Each of the
small steps that `insert` and `remove` are made of keeps this, and changes what is visible
(`named?`, `at?`) and what is shadowed in a way that is told here by one lemma for each view.

In between the steps a shadowed note may wait for a name that nobody holds.  `Consistent` says that
this is over. -/

namespace WikiNotes

namespace Index

/-- The maps of an index tell one story. -/
structure Coherent (index : Index) : Prop where
  /-- Visible notes are kept under their own names. -/
  name_eq {name : String} {r : Record} : index.byName.find? name = some r → r.name = name
  /-- The names by place are the inverse of the notes by name. -/
  place_iff {place : Location} {name : String} : index.nameByPlace.find? place = some name ↔
    ∃ r, index.byName.find? name = some r ∧ r.place = place
  /-- The members of a tag are the visible notes that carry it, with their paths. -/
  tag_members (tag : String) (place : Location) : (index.tags.membersOf tag).find? place =
    ((index.at? place).filter (tag ∈ ·.tags)).map Record.path
  /-- No tag is without members. -/
  tags_occupied : index.tags.Occupied
  /-- Shadowed notes are kept under their own places. -/
  shadowed_place {place : Location} {r : Record} : index.shadowed.find? place = some r →
    r.place = place
  /-- Where a note is shadowed none is visible. -/
  shadowed_hidden {place : Location} {r : Record} : index.shadowed.find? place = some r →
    index.at? place = none

/-- The maps of an index tell one story, and every shadowed note has one that holds its name. -/
structure Consistent (index : Index) : Prop extends Coherent index where
  /-- The name of a shadowed note is held by a visible one. -/
  shadowed_held {place : Location} {r : Record} : index.shadowed.find? place = some r →
    ∃ holder, index.named? r.name = some holder

/-- An index without notes is consistent. -/
theorem consistent_empty (root : Option Path) (policy : NamingPolicy) :
    Consistent { root, policy } where
  name_eq h := nomatch h
  place_iff := by simp
  tag_members tag place := rfl
  tags_occupied := TagTable.occupied_empty
  shadowed_place h := nomatch h
  shadowed_hidden h := nomatch h
  shadowed_held h := nomatch h

variable {index : Index}

/-! ### Look-ups by name and by place -/

theorem Coherent.at?_eq_some_iff (h : index.Coherent) {place : Location} {r : Record} :
    index.at? place = some r ↔ index.named? r.name = some r ∧ r.place = place := by
  simp only [at?, Option.bind_eq_some_iff]
  constructor
  · rintro ⟨name, hplace, hname⟩
    obtain ⟨r', hr', hrplace⟩ := h.place_iff.mp hplace
    obtain rfl : r = r' := Option.some.inj (hname.symm.trans hr')
    obtain rfl := h.name_eq hr'
    exact ⟨hr', hrplace⟩
  · rintro ⟨hname, rfl⟩
    exact ⟨r.name, h.place_iff.mpr ⟨r, hname, rfl⟩, hname⟩

theorem Coherent.at?_place (h : index.Coherent) {name : String} {r : Record}
    (hname : index.named? name = some r) : index.at? r.place = some r := by
  obtain rfl := h.name_eq hname
  exact h.at?_eq_some_iff.mpr ⟨hname, rfl⟩

theorem Coherent.place_eq (h : index.Coherent) {place : Location} {r : Record}
    (hat : index.at? place = some r) : r.place = place :=
  (h.at?_eq_some_iff.mp hat).2

theorem Coherent.named?_name (h : index.Coherent) {place : Location} {r : Record}
    (hat : index.at? place = some r) : index.named? r.name = some r :=
  (h.at?_eq_some_iff.mp hat).1

/-- A place has a name exactly if a note is visible there. -/
theorem Coherent.nameByPlace_eq (h : index.Coherent) (place : Location) :
    index.nameByPlace.find? place = (index.at? place).map Record.name := by
  cases hplace : index.nameByPlace.find? place with
  | none => simp [at?, hplace]
  | some name =>
    obtain ⟨r, hr, -⟩ := h.place_iff.mp hplace
    have hat : index.at? place = some r := by
      rw [at?, hplace]
      exact hr
    rw [hat, Option.map_some, h.name_eq hr]

/-! ### Making a note visible -/

theorem named?_attach (index : Index) (r : Record) (name : String) :
    (index.attach r).named? name = if name = r.name then some r else index.named? name :=
  SortedMap.find?_insert_eq ..

theorem nameByPlace_attach (index : Index) (r : Record) (place : Location) :
    (index.attach r).nameByPlace.find? place =
      if place = r.place then some r.name else index.nameByPlace.find? place :=
  SortedMap.find?_insert_eq ..

theorem Coherent.at?_attach (h : index.Coherent) {r : Record} (hname : index.named? r.name = none)
    (place : Location) :
    (index.attach r).at? place = if place = r.place then some r else index.at? place := by
  rw [at?, at?, nameByPlace_attach]
  split
  case isTrue => rw [Option.bind_some, named?_attach, if_pos rfl]
  case isFalse hplace =>
    cases hfind : index.nameByPlace.find? place with
    | none => rfl
    | some name =>
      -- The name of another visible note is not the one that was free.
      obtain ⟨r', hr', -⟩ := h.place_iff.mp hfind
      have hne : name ≠ r.name := fun heq => by
        rw [heq] at hr'
        exact nomatch hname.symm.trans hr'
      rw [Option.bind_some, Option.bind_some, named?_attach, if_neg hne]

theorem Coherent.attach (h : index.Coherent) {r : Record} (hname : index.named? r.name = none)
    (hat : index.at? r.place = none) (hshadowed : index.shadowed.find? r.place = none) :
    (index.attach r).Coherent where
  name_eq {name r'} hr' := by
    have hr' : (index.attach r).named? name = some r' := hr'
    rw [named?_attach] at hr'
    split at hr'
    case isTrue heq =>
      obtain rfl := Option.some.inj hr'
      exact heq.symm
    case isFalse => exact h.name_eq hr'
  place_iff {place name} := by
    have hbyName : (index.attach r).byName.find? name =
        if name = r.name then some r else index.byName.find? name :=
      SortedMap.find?_insert_eq ..
    rw [nameByPlace_attach, hbyName]
    by_cases hn : name = r.name
    · subst hn
      -- The name was free, so no place had it.
      have hnone : index.nameByPlace.find? place ≠ some r.name := fun hsome => by
        obtain ⟨r', hr', -⟩ := h.place_iff.mp hsome
        exact nomatch hname.symm.trans hr'
      by_cases hp : place = r.place
      · simp [hp]
      · simp [hp, hnone, Ne.symm hp]
    · by_cases hp : place = r.place
      · subst hp
        -- Nothing was visible at the place, so no other note is there.
        have hnone : ∀ r', index.byName.find? name = some r' → r'.place ≠ r.place :=
          fun r' hr' heq => by
            have hat' := h.at?_place hr'
            rw [heq, hat] at hat'
            exact nomatch hat'
        simpa [hn, Ne.symm hn] using hnone
      · simp only [hn, hp, if_false]
        exact h.place_iff
  tag_members tag place := by
    have htags : (index.attach r).tags = index.tags.add r.path r.tags := rfl
    rw [htags, TagTable.find?_membersOf_add, h.at?_attach hname, h.tag_members]
    change (if place = r.place ∧ tag ∈ r.tags then _ else _) = _
    by_cases hp : place = r.place
    · rw [hp, hat]
      by_cases htag : tag ∈ r.tags <;> simp [htag, Option.filter]
    · simp [hp]
  tags_occupied := h.tags_occupied.add r.path r.tags
  shadowed_place := h.shadowed_place
  shadowed_hidden {place r'} hr' := by
    have hr' : index.shadowed.find? place = some r' := hr'
    have hp : place ≠ r.place := fun heq => by
      rw [heq, hshadowed] at hr'
      exact nomatch hr'
    rw [h.at?_attach hname, if_neg hp]
    exact h.shadowed_hidden hr'

/-! ### Taking a visible note away -/

theorem detach_of_at?_eq_none {place : Location} (h : index.at? place = none) :
    index.detach place = (index, none) := by
  simp [detach, h]

theorem detach_of_at?_eq_some {place : Location} {r : Record} (h : index.at? place = some r) :
    index.detach place =
      ({ index with
          byName := index.byName.erase r.name
          nameByPlace := index.nameByPlace.erase place
          tags := index.tags.remove place r.tags }, some r) := by
  simp [detach, h]

theorem detach_snd (index : Index) (place : Location) :
    (index.detach place).2 = index.at? place := by
  cases h : index.at? place with
  | none => rw [detach_of_at?_eq_none h]
  | some r => rw [detach_of_at?_eq_some h]

theorem shadowed_detach (index : Index) (place : Location) :
    (index.detach place).1.shadowed = index.shadowed := by
  cases h : index.at? place with
  | none => rw [detach_of_at?_eq_none h]
  | some r => rw [detach_of_at?_eq_some h]

theorem Coherent.named?_detach (h : index.Coherent) (place : Location) (name : String) :
    (index.detach place).1.named? name = (index.named? name).filter (·.place ≠ place) := by
  cases hat : index.at? place with
  | none =>
    rw [detach_of_at?_eq_none hat]
    cases hname : index.named? name with
    | none => rfl
    | some r =>
      have hne : r.place ≠ place := fun heq => by
        have hat' := h.at?_place hname
        rw [heq, hat] at hat'
        exact nomatch hat'
      simp [Option.filter, hne]
  | some r =>
    have hfind : (index.detach place).1.named? name =
        if name = r.name then none else index.named? name := by
      rw [detach_of_at?_eq_some hat]
      exact SortedMap.find?_erase_eq ..
    obtain ⟨hr, hplace⟩ := h.at?_eq_some_iff.mp hat
    rw [hfind]
    by_cases hn : name = r.name
    · rw [hn, hr]
      simp [Option.filter, hplace]
    · rw [if_neg hn]
      cases hname : index.named? name with
      | none => rfl
      | some r' =>
        have hne : r'.place ≠ place := fun heq => by
          have hat' := h.at?_place hname
          rw [heq, hat] at hat'
          obtain rfl := Option.some.inj hat'
          exact hn (h.name_eq hname).symm
        simp [Option.filter, hne]

theorem Coherent.at?_detach (h : index.Coherent) (place place' : Location) :
    (index.detach place).1.at? place' = if place' = place then none else index.at? place' := by
  cases hat : index.at? place with
  | none =>
    rw [detach_of_at?_eq_none hat]
    split
    case isTrue heq => rw [heq, hat]
    case isFalse => rfl
  | some r =>
    obtain ⟨hr, hplace⟩ := h.at?_eq_some_iff.mp hat
    have hfind : (index.detach place).1.nameByPlace.find? place' =
        if place' = place then none else index.nameByPlace.find? place' := by
      rw [detach_of_at?_eq_some hat]
      exact SortedMap.find?_erase_eq ..
    rw [at?, at?, hfind]
    split
    case isTrue => rfl
    case isFalse hne =>
      cases hname : index.nameByPlace.find? place' with
      | none => rfl
      | some name =>
        obtain ⟨r', hr', hplace'⟩ := h.place_iff.mp hname
        have hr' : index.named? name = some r' := hr'
        have hkept : r'.place ≠ place := fun heq => hne (hplace'.symm.trans heq)
        rw [Option.bind_some, Option.bind_some, h.named?_detach, hr']
        simp [Option.filter, hkept]

theorem Coherent.detach (h : index.Coherent) (place : Location) :
    (index.detach place).1.Coherent := by
  cases hat : index.at? place with
  | none =>
    rwa [detach_of_at?_eq_none hat]
  | some r =>
    obtain ⟨hr, hplace⟩ := h.at?_eq_some_iff.mp hat
    have hat' := h.at?_detach place
    rw [detach_of_at?_eq_some hat] at hat' ⊢
    refine ⟨fun {name r'} hr' => ?_, fun {place' name} => ?_, fun tag place' => ?_,
      h.tags_occupied.remove place r.tags, h.shadowed_place, fun {place' r'} hr' => ?_⟩
    · rw [SortedMap.find?_erase_eq] at hr'
      split at hr'
      case isTrue => exact nomatch hr'
      case isFalse => exact h.name_eq hr'
    · simp only [SortedMap.find?_erase_eq]
      by_cases hn : name = r.name
      · -- The name that goes was that of no other place.
        have hsome : index.nameByPlace.find? place' = some r.name → place' = place := by
          intro hfind
          obtain ⟨r', hr', hplace'⟩ := h.place_iff.mp hfind
          obtain rfl : r = r' := Option.some.inj (hr.symm.trans hr')
          exact hplace'.symm.trans hplace
        simpa [hn] using fun hne hfind => hne (hsome hfind)
      · by_cases hp : place' = place
        · -- The place that is left had no other name.
          have hnone : ∀ r', index.byName.find? name = some r' → r'.place ≠ place :=
            fun r' hr' heq => by
              have hat'' := h.at?_place hr'
              rw [heq, hat] at hat''
              obtain rfl := Option.some.inj hat''
              exact hn (h.name_eq hr').symm
          simpa [hn, hp] using hnone
        · simp only [hn, hp, if_false]
          exact h.place_iff
    · rw [TagTable.find?_membersOf_remove, h.tag_members, hat']
      by_cases hp : place' = place
      · by_cases htag : tag ∈ r.tags <;> simp [hp, hat, htag, Option.filter]
      · simp [hp]
    · rw [hat']
      split
      case isTrue => rfl
      case isFalse => exact h.shadowed_hidden hr'

/-! ### Shadowing -/

theorem Coherent.shadow (h : index.Coherent) {r : Record} (hat : index.at? r.place = none) :
    (index.shadow r).Coherent where
  name_eq := h.name_eq
  place_iff := h.place_iff
  tag_members := h.tag_members
  tags_occupied := h.tags_occupied
  shadowed_place {place r'} hr' := by
    simp only [Index.shadow, SortedMap.find?_insert_eq] at hr'
    split at hr'
    case isTrue heq =>
      obtain rfl := Option.some.inj hr'
      exact heq.symm
    case isFalse => exact h.shadowed_place hr'
  shadowed_hidden {place r'} hr' := by
    simp only [Index.shadow, SortedMap.find?_insert_eq] at hr'
    split at hr'
    case isTrue heq => exact heq ▸ hat
    case isFalse => exact h.shadowed_hidden hr'

/-- Shadowed notes can go in any number. -/
theorem Coherent.dropShadowed (h : index.Coherent) {rest : SortedMap Location Record}
    (hrest : ∀ place r, rest.find? place = some r → index.shadowed.find? place = some r) :
    Coherent { index with shadowed := rest } where
  name_eq := h.name_eq
  place_iff := h.place_iff
  tag_members := h.tag_members
  tags_occupied := h.tags_occupied
  shadowed_place hr := h.shadowed_place (hrest _ _ hr)
  shadowed_hidden hr := h.shadowed_hidden (hrest _ _ hr)

theorem find?_shadowed_unshadow (index : Index) (place place' : Location) :
    (index.unshadow place).shadowed.find? place' =
      if place' = place then none else index.shadowed.find? place' :=
  SortedMap.find?_erase_eq ..

theorem Coherent.unshadow (h : index.Coherent) (place : Location) :
    (index.unshadow place).Coherent :=
  h.dropShadowed fun place' r hr => by
    rw [SortedMap.find?_erase_eq] at hr
    split at hr
    case isTrue => exact nomatch hr
    case isFalse => exact hr

end Index

end WikiNotes
