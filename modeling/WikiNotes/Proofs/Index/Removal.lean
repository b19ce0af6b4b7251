import WikiNotes.Proofs.Index.Insertion

/-! # Removing notes from an index in order

An index is in order if every name is held by the tracked note with it at the greatest place
(`Ordered`).  Inserting notes in the order of their places puts an index in order
(`ordered_insertEach`), and removing notes leaves it so (`Ordered.remove`, `Ordered.removeUnder`),
since a name that becomes free goes to the greatest place that is left with it.

What an index in order shows and shadows follows from what it tracks (`Ordered.view_eq`,
`Ordered.shadowed_eq`).  So after any removals it is the index of the notes that are left
(`removals_leave_survivors`). -/

namespace WikiNotes

namespace Index

variable {index other : Index} {name : String}

/-! ### The greatest note with a name -/

/-- The tracked note with a name at the greatest place keeps its rank where fewer are tracked. -/
theorem Greatest.of_fewer {holder : Option Record} (h : index.Greatest name holder)
    (hfewer : ∀ place r, other.tracked? place = some r → index.tracked? place = some r)
    (hkept : ∀ r, holder = some r → other.tracked? r.place = some r) :
    other.Greatest name holder := by
  cases holder with
  | none => exact fun place r hr => h place r (hfewer place r hr)
  | some r =>
    obtain ⟨-, hname, hmax⟩ := h
    exact ⟨hkept r rfl, hname, fun place r' hr' => hmax place r' (hfewer place r' hr')⟩

/-- Among what is tracked only one note is the greatest with a name. -/
theorem Greatest.unique (htracked : ∀ place, index.tracked? place = other.tracked? place)
    {a b : Option Record} (ha : index.Greatest name a) (hb : other.Greatest name b) : a = b := by
  have hflip {r : Record} {place : Location} (hr : other.tracked? place = some r) :
      index.tracked? place = some r := (htracked place).trans hr
  cases a with
  | none =>
    cases b with
    | none => rfl
    | some s => exact absurd hb.2.1 (ha s.place s (hflip hb.1))
  | some r =>
    obtain ⟨hr, hname, hmax⟩ := ha
    have hr' : other.tracked? r.place = some r := (htracked r.place).symm.trans hr
    cases b with
    | none => exact absurd hname (hb r.place r hr')
    | some s =>
      obtain ⟨hs, hname', hmax'⟩ := hb
      have hle : (compare r.place s.place).isLE := hmax' r.place r hr' hname
      have hge : (compare s.place r.place).isLE := hmax s.place s (hflip hs) hname'
      have hplace : r.place = s.place :=
        Std.LawfulEqCmp.compare_eq_iff_eq.mp (Std.OrientedCmp.isLE_antisymm hle hge)
      rw [← hr, hplace, hflip hs]

/-! ### Indexes in order -/

/-- A consistent index in which every name is held by the tracked note with it at the greatest
    place. -/
structure Ordered (index : Index) : Prop extends Consistent index where
  /-- The holder of a name is the greatest note with it. -/
  greatest (name : String) : index.Greatest name (index.named? name)

/-- In an index in order who holds which name follows from what is tracked. -/
theorem Ordered.named?_eq (h : index.Ordered) (h' : other.Ordered)
    (htracked : ∀ place, index.tracked? place = other.tracked? place) (name : String) :
    index.named? name = other.named? name :=
  Greatest.unique htracked (h.greatest name) (h'.greatest name)

/-- In an index in order what is shown follows from what is tracked. -/
theorem Ordered.view_eq (h : index.Ordered) (h' : other.Ordered)
    (hpolicy : index.policy = other.policy)
    (htracked : ∀ place, index.tracked? place = other.tracked? place) : index.view = other.view :=
  h.toCoherent.view_eq h'.toCoherent hpolicy (h.named?_eq h' htracked)

/-- In an index in order what is shadowed follows from what is tracked. -/
theorem Ordered.shadowed_eq (h : index.Ordered) (h' : other.Ordered)
    (htracked : ∀ place, index.tracked? place = other.tracked? place) :
    index.shadowed = other.shadowed :=
  h.toCoherent.shadowed_ext h'.toCoherent (h.named?_eq h' htracked) htracked

/-- Notes at different places that are inserted into an empty index are what is tracked. -/
theorem tracked?_insertEach_eq_some_iff (root : Option Path) (policy : NamingPolicy)
    {records : List Record} (hplaces : (records.map Record.place).Nodup) {place : Location}
    {r : Record} : (insertEach { root, policy } records).tracked? place = some r ↔
      r ∈ records ∧ r.place = place := by
  rw [(New.of_empty root policy hplaces).tracked?_insertEach (consistent_empty root policy),
    ← find?_place_eq_some_iff hplaces]
  exact iff_of_eq (congrArg (· = some r) Option.or_none)

/-- Inserting notes at different places puts an index in order if of the notes with any name the
    last one is at the greatest place. -/
theorem ordered_insertEach (root : Option Path) (policy : NamingPolicy) {records : List Record}
    (hplaces : (records.map Record.place).Nodup) (hlast : GreatestLast records) :
    (insertEach { root, policy } records).Ordered := by
  have htracked {place : Location} {r : Record} :
      (insertEach { root, policy } records).tracked? place = some r ↔
        r ∈ records ∧ r.place = place :=
    tracked?_insertEach_eq_some_iff root policy hplaces
  refine { (consistent_empty root policy).insertEach records with greatest := fun name => ?_ }
  rw [named?_insertEach_of_empty root policy hplaces]
  cases hholder : lastNamed? records name with
  | none => exact fun place r hr => lastNamed?_eq_none_iff.mp hholder r (htracked.mp hr).1
  | some r =>
    obtain ⟨hmem, hname⟩ := lastNamed?_mem hholder
    refine ⟨htracked.mpr ⟨hmem, rfl⟩, hname, fun place s hs hname' => ?_⟩
    obtain ⟨hmem', rfl⟩ := htracked.mp hs
    exact hlast name r hholder s hmem' hname'

/-- An index into which notes at different places were inserted in the order of their places is in
    order and tracks these notes. -/
theorem ordered_inPlaceOrder (root : Option Path) (policy : NamingPolicy) {records : List Record}
    (hplaces : (records.map Record.place).Nodup) :
    (insertEach { root, policy } (inPlaceOrder records)).Ordered ∧ ∀ place r,
      (insertEach { root, policy } (inPlaceOrder records)).tracked? place = some r ↔
        r ∈ records ∧ r.place = place := by
  have hperm : (inPlaceOrder records).Perm records := perm_sortBy _ records
  have hplaces' : ((inPlaceOrder records).map Record.place).Nodup :=
    (hperm.map _).nodup_iff.mpr hplaces
  refine ⟨ordered_insertEach root policy hplaces' (greatestLast_inPlaceOrder records),
    fun place r => ?_⟩
  rw [tracked?_insertEach_eq_some_iff root policy hplaces', hperm.mem_iff]

/-! ### Removing -/

/-- Removing a note leaves an index in order. -/
theorem Ordered.remove (h : index.Ordered) (place : Location) :
    (index.remove place).1.Ordered := by
  refine { h.toConsistent.remove place with greatest := fun name => ?_ }
  by_cases hkept : ∀ r, index.at? place = some r → r.name ≠ name
  · rw [h.named?_remove_kept hkept]
    refine (h.greatest name).of_fewer (fun place' r hr => ?_) fun r hr => ?_
    · rw [h.tracked?_remove] at hr
      split at hr
      case isTrue => exact nomatch hr
      case isFalse => exact hr
    · -- The holder is not the note that goes, since that has another name.
      have hplace : r.place ≠ place := fun heq =>
        hkept r (heq ▸ h.at?_place hr) (h.name_eq hr)
      rw [h.tracked?_remove, if_neg hplace, h.tracked?_of_named? hr]
  · simp only [Classical.not_forall, Decidable.not_not] at hkept
    obtain ⟨r, hat, rfl⟩ := hkept
    exact h.greatest_remove hat

theorem Ordered.removeEach (h : index.Ordered) (places : List Location) :
    (index.removeEach places).1.Ordered := by
  induction places generalizing index with
  | nil => exact h
  | cons place places ih => exact ih (h.remove place)

/-- Shadowed notes hold no names, so they may go. -/
theorem Ordered.unshadowUnder (h : index.Ordered) (base : Location) :
    (index.unshadowUnder base).Ordered := by
  refine { h.toConsistent.unshadowUnder base with greatest := fun name => ?_ }
  have hunchanged (place : Location) : (index.unshadowUnder base).at? place = index.at? place := rfl
  refine (h.greatest name).of_fewer (fun place r hr => ?_) fun r hr => ?_
  · rw [tracked?, hunchanged, find?_shadowed_unshadowUnder, Option.or_eq_some_iff] at hr
    rw [tracked?, Option.or_eq_some_iff]
    exact hr.imp_right fun hr => ⟨hr.1, Option.eq_some_of_filter_eq_some hr.2⟩
  · rw [tracked?, hunchanged, h.at?_place hr, Option.some_or]

/-- Removing all notes at and beneath a place leaves an index in order. -/
theorem Ordered.removeUnder (h : index.Ordered) (base : Location) :
    (index.removeUnder base).1.Ordered :=
  (h.unshadowUnder base).removeEach _

/-! ### Several removals -/

/-- A removal of notes. -/
inductive Removal where
  /-- Of the note at a place. -/
  | single (place : Location)
  /-- Of all notes at and beneath a place. -/
  | under (base : Location)

namespace Removal

/-- The change of an index that a removal is. -/
def operation : Removal → Operation
  | single place => .edit (.remove place)
  | under base => .removeUnder base

/-- Whether a removal takes away what is at a place. -/
def takes (place : Location) : Removal → Bool
  | single place' => place == place'
  | under base => base.isPrefixOf place

end Removal

/-- One removal leaves an index in order, without what it takes away. -/
theorem Ordered.removal (h : index.Ordered) (removal : Removal) :
    (removal.operation.apply index).1.Ordered ∧ ∀ place,
      (removal.operation.apply index).1.tracked? place =
        if removal.takes place then none else index.tracked? place := by
  cases removal with
  | single place' =>
    refine ⟨h.remove place', fun place => (h.tracked?_remove place' place).trans ?_⟩
    simp only [Removal.takes, beq_iff_eq]
  | under base => exact ⟨h.removeUnder base, h.tracked?_removeUnder base⟩

/-- Removals leave an index in order, without what any of them takes away. -/
theorem Ordered.removals (h : index.Ordered) (removals : List Removal) :
    (Operation.run index (removals.map Removal.operation)).Ordered ∧ ∀ place,
      (Operation.run index (removals.map Removal.operation)).tracked? place =
        if removals.any (Removal.takes place) then none else index.tracked? place := by
  induction removals generalizing index with
  | nil => exact ⟨h, fun _ => rfl⟩
  | cons removal removals ih =>
    obtain ⟨hfirst, htracked⟩ := h.removal removal
    obtain ⟨hrest, htracked'⟩ := ih hfirst
    refine ⟨hrest, fun place => (htracked' place).trans ?_⟩
    rw [htracked, List.any_cons]
    cases removal.takes place <;> simp

/-- Removals change neither the root nor the policy. -/
theorem settings_removals (index : Index) (removals : List Removal) :
    (Operation.run index (removals.map Removal.operation)).settings = index.settings := by
  induction removals generalizing index with
  | nil => rfl
  | cons removal removals ih =>
    refine (ih _).trans ?_
    cases removal with
    | single place => exact settings_remove index place
    | under base => exact settings_removeUnder index base

/-- After any removals an index into which notes at different places were inserted in the order of
    their places shows and shadows what the index does into which only the notes that are left are
    inserted in that order. -/
theorem removals_leave_survivors (root : Option Path) (policy : NamingPolicy)
    {records : List Record} (hplaces : (records.map Record.place).Nodup)
    (removals : List Removal) :
    let survivors := records.filter fun r => !removals.any (Removal.takes r.place)
    let index := Operation.run (insertEach { root, policy } (inPlaceOrder records))
      (removals.map Removal.operation)
    let rebuilt := insertEach { root, policy } (inPlaceOrder survivors)
    index.view = rebuilt.view ∧ index.shadowed = rebuilt.shadowed := by
  intro survivors index rebuilt
  have hplaces' : (survivors.map Record.place).Nodup :=
    hplaces.sublist (List.filter_sublist.map Record.place)
  obtain ⟨hbuilt, hall⟩ := ordered_inPlaceOrder root policy hplaces
  obtain ⟨hrebuilt, hleft⟩ := ordered_inPlaceOrder root policy hplaces'
  obtain ⟨hindex, htracked⟩ := hbuilt.removals removals
  have hsame (place : Location) : index.tracked? place = rebuilt.tracked? place := by
    refine Option.ext fun r => ?_
    rw [htracked, hleft, List.mem_filter]
    cases htaken : removals.any (Removal.takes place) with
    | true =>
      refine iff_of_false nofun ?_
      rintro ⟨⟨-, hnot⟩, rfl⟩
      simp [htaken] at hnot
    | false =>
      rw [if_neg Bool.false_ne_true, hall]
      constructor
      · rintro ⟨hmem, rfl⟩
        exact ⟨⟨hmem, by simp [htaken]⟩, rfl⟩
      · rintro ⟨⟨hmem, -⟩, hplace⟩
        exact ⟨hmem, hplace⟩
  have hpolicy : index.settings = rebuilt.settings := by
    rw [settings_removals, settings_insertEach, settings_insertEach]
  exact ⟨hindex.view_eq hrebuilt (congrArg Settings.policy hpolicy) hsame,
    hindex.shadowed_eq hrebuilt hsame⟩

/-- Of four notes with one name the holder goes, and a shadowed one with its directory: of the two
    that are left the greater one holds the name, beside a note with another name. -/
theorem removals_leave_survivors_four :
    let a := Record.ofContent {} ⟨"/v/a/Note.md"⟩ "#x"
    let b := Record.ofContent {} ⟨"/v/b/note.md"⟩ "#y"
    let c := Record.ofContent {} ⟨"/v/c/Note.md"⟩ "#x"
    let d := Record.ofContent {} ⟨"/v/Note.md"⟩ "#y"
    let e := Record.ofContent {} ⟨"/v/Other.md"⟩ "[[Note]]"
    let removals : List Removal := [.single c.place, .under (Path.location ⟨"/v/b"⟩)]
    let index := Operation.run (insertEach { root := some ⟨"/v"⟩, policy := {} }
      (inPlaceOrder [c, a, e, d, b])) (removals.map Removal.operation)
    let rebuilt := insertEach { root := some ⟨"/v"⟩, policy := {} } (inPlaceOrder [a, e, d])
    ([c, a, e, d, b].map Record.place).Nodup ∧ index.view = rebuilt.view ∧
      index.shadowed = rebuilt.shadowed ∧ index.named? "note" = some a := by
  intro a b c d e removals index rebuilt
  have hplaces : ([c, a, e, d, b].map Record.place).Nodup := by decide +kernel
  have hleft : ([c, a, e, d, b].filter fun r => !removals.any (Removal.takes r.place)) =
      [a, e, d] := by
    decide +kernel
  obtain ⟨hview, hshadowed⟩ := removals_leave_survivors (some ⟨"/v"⟩) {} hplaces removals
  rw [hleft] at hview hshadowed
  have hholder : rebuilt.named? "note" = some a := by decide +kernel
  exact ⟨hplaces, hview, hshadowed, ((sameAnswers_of_view_eq hview).named "note").trans hholder⟩

end Index

end WikiNotes
