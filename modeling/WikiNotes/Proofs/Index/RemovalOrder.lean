import WikiNotes.Proofs.Index.Notice
import WikiNotes.Proofs.Index.Registry
import WikiNotes.Proofs.Index.Removal

/-! # The order of removals

Everything at and beneath a place can be removed at once or note by note, and in any order.  On the
way the orders differ: a name that becomes free may go to a note that is about to be removed itself,
and from there to yet another one.  In the end they come to the same (`Operation.removal_order`).

`Leaves` says what removals leave of an index without saying how they went: a note that held its
name and is still there holds it, and any other name is held by the greatest note that is left with
it.  It holds of one step (`Consistent.leaves_remove`) and of any steps one after the other
(`Leaves.trans`), and with what is tracked it determines who holds which name
(`Leaves.named?_eq`). -/

namespace WikiNotes

namespace Index

variable {index rest last a b : Index} {name : String}

/-! ### What removals leave -/

/-- A name that nobody holds is that of nothing that is tracked. -/
theorem Consistent.greatest_none (h : index.Consistent) (hname : index.named? name = none) :
    index.Greatest name none := by
  rintro place r htracked rfl
  obtain ⟨holder, hholder⟩ := h.held htracked
  exact nomatch hname.symm.trans hholder

/-- What is left of an index when notes are removed from it. -/
structure Leaves (index rest : Index) : Prop where
  /-- Nothing is tracked that was not. -/
  fewer {place : Location} {r : Record} : rest.tracked? place = some r →
    index.tracked? place = some r
  /-- A holder of a name that is left keeps the name. -/
  kept {name : String} {holder : Record} : index.named? name = some holder →
    rest.tracked? holder.place = some holder → rest.named? name = some holder
  /-- Any other name is held by the greatest note with it that is left. -/
  passed {name : String} : (∀ holder, index.named? name = some holder →
    rest.tracked? holder.place ≠ some holder) → rest.Greatest name (rest.named? name)

theorem Consistent.leaves_self (h : index.Consistent) : Leaves index index where
  fewer htracked := htracked
  kept hname _ := hname
  passed {name} hgone := by
    cases hname : index.named? name with
    | none => exact h.greatest_none hname
    | some holder => exact absurd (h.tracked?_of_named? hname) (hgone holder hname)

theorem Leaves.trans (h : Leaves index rest) (h' : Leaves rest last) : Leaves index last where
  fewer htracked := h.fewer (h'.fewer htracked)
  kept hname htracked := h'.kept (h.kept hname (h'.fewer htracked)) htracked
  passed {name} hgone := by
    by_cases hheld : ∃ holder, rest.named? name = some holder ∧
      last.tracked? holder.place = some holder
    · -- The holder in between is not the first one, so it was the greatest, and it still is.
      obtain ⟨holder, hname, htracked⟩ := hheld
      have hgreatest : rest.Greatest name (rest.named? name) := by
        refine h.passed fun first hfirst hleft => ?_
        have hsame := h.kept hfirst hleft
        rw [hname, Option.some.injEq] at hsame
        exact hgone first hfirst (hsame ▸ htracked)
      rw [hname] at hgreatest
      rw [h'.kept hname htracked]
      refine hgreatest.of_fewer (fun _ _ => h'.fewer) fun r hr => ?_
      rw [← Option.some.inj hr, htracked]
    · exact h'.passed fun holder hname htracked => hheld ⟨holder, hname, htracked⟩

/-- Removing one note leaves the others. -/
theorem Consistent.leaves_remove (h : index.Consistent) (place : Location) :
    Leaves index (index.remove place).1 where
  fewer {place' r} htracked := by
    rw [h.tracked?_remove] at htracked
    split at htracked
    case isTrue => exact nomatch htracked
    case isFalse => exact htracked
  kept {name holder} hname htracked := by
    have hplace : holder.place ≠ place := fun heq => by
      rw [h.tracked?_remove, if_pos heq] at htracked
      exact nomatch htracked
    have hat := h.toCoherent.at?_remove_kept hplace (h.at?_place hname)
    rw [← h.name_eq hname]
    exact (h.remove place).named?_name hat
  passed {name} hgone := by
    by_cases hfreed : ∃ r, index.at? place = some r ∧ r.name = name
    · obtain ⟨r, hat, rfl⟩ := hfreed
      exact h.greatest_remove hat
    · -- Nobody held the name, since a holder elsewhere would be left.
      have hkept : ∀ r, index.at? place = some r → r.name ≠ name := fun r hat heq =>
        hfreed ⟨r, hat, heq⟩
      have hnone : index.named? name = none := by
        refine Option.eq_none_iff_forall_ne_some.mpr fun holder hname => hgone holder hname ?_
        have hplace : holder.place ≠ place := fun heq =>
          hkept holder (heq ▸ h.at?_place hname) (h.name_eq hname)
        rw [h.tracked?_remove, if_neg hplace, h.tracked?_of_named? hname]
      rw [h.named?_remove_kept hkept, hnone]
      exact (h.remove place).greatest_none ((h.named?_remove_kept hkept).trans hnone)

theorem Consistent.leaves_removeEach (h : index.Consistent) (places : List Location) :
    Leaves index (index.removeEach places).1 := by
  induction places generalizing index with
  | nil => exact h.leaves_self
  | cons place places ih => exact (h.leaves_remove place).trans (ih (h.remove place))

/-- Dropping shadowed notes leaves all that hold names. -/
theorem Consistent.leaves_unshadowUnder (h : index.Consistent) (base : Location) :
    Leaves index (index.unshadowUnder base) where
  fewer {place r} htracked := by
    have hdropped : (index.unshadowUnder base).at? place = some r ∨
        (index.unshadowUnder base).at? place = none ∧
          (index.unshadowUnder base).shadowed.find? place = some r :=
      Option.or_eq_some_iff.mp htracked
    rw [find?_shadowed_unshadowUnder] at hdropped
    exact Option.or_eq_some_iff.mpr
      (hdropped.imp_right fun hr => ⟨hr.1, Option.eq_some_of_filter_eq_some hr.2⟩)
  kept hname _ := hname
  passed {name} hgone := by
    have hsame : (index.unshadowUnder base).named? name = index.named? name := rfl
    cases hname : index.named? name with
    | none =>
      rw [hsame, hname]
      exact (h.unshadowUnder base).greatest_none (hsame.trans hname)
    | some holder =>
      have hleft := (h.unshadowUnder base).tracked?_of_named? (hsame.trans hname)
      exact absurd hleft (hgone holder hname)

/-! ### What is left is determined by what is tracked -/

/-- Who holds which name does not depend on how the notes that are gone were removed. -/
theorem Leaves.named?_eq (ha : Leaves index a) (hb : Leaves index b)
    (htracked : ∀ place, a.tracked? place = b.tracked? place) (name : String) :
    a.named? name = b.named? name := by
  by_cases hkept : ∃ holder, index.named? name = some holder ∧
    a.tracked? holder.place = some holder
  · obtain ⟨holder, hname, hleft⟩ := hkept
    rw [ha.kept hname hleft, hb.kept hname ((htracked holder.place).symm.trans hleft)]
  · have hgone : ∀ holder, index.named? name = some holder →
        a.tracked? holder.place ≠ some holder := fun holder hname hleft =>
      hkept ⟨holder, hname, hleft⟩
    refine Greatest.unique htracked (ha.passed hgone) (hb.passed fun holder hname => ?_)
    rw [← htracked]
    exact hgone holder hname

/-! ### One removal after the other -/

/-- Removing notes one after the other is to make the edits that remove them. -/
theorem removeEach_eq_run (index : Index) (places : List Location) :
    index.removeEach places =
      ((Edit.run Edit.apply index (places.map .remove)).1,
        (Edit.run Edit.apply index (places.map .remove)).2.any id) := by
  induction places generalizing index with
  | nil => rfl
  | cons place places ih =>
    simp only [removeEach, List.map_cons, Edit.run, ih, List.any_cons]
    rfl

/-- Removing notes one after the other tells whether one of them was visible at the start: where
    all are shadowed no name is handed on, so none becomes visible. -/
theorem Consistent.snd_removeEach (h : index.Consistent) (places : List Location) :
    (index.removeEach places).2 = places.any fun place => (index.at? place).isSome := by
  induction places generalizing index with
  | nil => rfl
  | cons place places ih =>
    simp only [Index.removeEach, List.any_cons, h.snd_remove, ih (h.remove place)]
    cases hat : index.at? place with
    | some r => rfl
    | none => simp only [at?_eq_of_view_eq (h.view_remove hat)]

/-- The places at and beneath a place where a note is tracked, visible or shadowed. -/
def trackedUnder (index : Index) (base : Location) : List Location :=
  index.placesUnder base ++ index.shadowed.keys.filter base.isPrefixOf

theorem Coherent.mem_trackedUnder (h : index.Coherent) {base place : Location} :
    place ∈ index.trackedUnder base ↔
      base.isPrefixOf place = true ∧ ∃ r, index.tracked? place = some r := by
  rw [trackedUnder, List.mem_append, mem_placesUnder h, List.mem_filter, SortedMap.mem_keys,
    and_comm (b := base.isPrefixOf place = true), ← and_or_left]
  refine and_congr_right fun _ => ?_
  rw [← Option.isSome_iff_exists, ← Option.isSome_iff_exists, ← Option.isSome_iff_exists, tracked?,
    Option.isSome_or, Bool.or_eq_true]

/-! ### All removals -/

section Orders

variable {base : Location} {listed order : List Location}

/-- Remove all notes at and beneath a place, the visible ones as they are listed. -/
def removeListed (index : Index) (base : Location) (listed : List Location) : Index × Bool :=
  (index.unshadowUnder base).removeEach listed

theorem removeListed_placesUnder (index : Index) (base : Location) :
    index.removeListed base (index.placesUnder base) = index.removeUnder base := rfl

/-- In whatever order the visible notes beneath a place are listed, nothing there is tracked when
    they are gone, and everything else still is. -/
theorem Consistent.tracked?_removeListed (h : index.Consistent)
    (hlisted : listed.Perm (index.placesUnder base)) (place : Location) :
    (index.removeListed base listed).1.tracked? place =
      if base.isPrefixOf place then none else index.tracked? place := by
  have hunshadowed := h.unshadowUnder base
  have hsame : (index.removeListed base listed).1.tracked? place =
      (index.removeListed base (index.placesUnder base)).1.tracked? place := by
    rw [removeListed, removeListed, hunshadowed.tracked?_removeEach,
      hunshadowed.tracked?_removeEach]
    simp only [hlisted.mem_iff]
  rw [hsame, removeListed_placesUnder, h.tracked?_removeUnder]

/-- Notes that are removed one by one leave the same behind if all of those beneath a place are
    among them and no others. -/
theorem Consistent.tracked?_removeOrder (h : index.Consistent)
    (horder : order.Perm (index.trackedUnder base)) (place : Location) :
    (index.removeEach order).1.tracked? place =
      if base.isPrefixOf place then none else index.tracked? place := by
  have hmem : place ∈ order ↔
      base.isPrefixOf place = true ∧ ∃ r, index.tracked? place = some r :=
    horder.mem_iff.trans h.mem_trackedUnder
  rw [h.tracked?_removeEach]
  cases htracked : index.tracked? place with
  | none => rw [ite_self, ite_self]
  | some r =>
    have hunder : place ∈ order ↔ base.isPrefixOf place = true :=
      hmem.trans (and_iff_left ⟨r, htracked⟩)
    simp only [hunder]

/-- Whether something was visible beneath a place is told in every order. -/
theorem Consistent.snd_removeListed (h : index.Consistent)
    (hlisted : listed.Perm (index.placesUnder base))
    (horder : order.Perm (index.trackedUnder base)) :
    (index.removeListed base listed).2 = (index.removeEach order).2 := by
  rw [removeListed, (h.unshadowUnder base).snd_removeEach, h.snd_removeEach, Bool.eq_iff_iff,
    List.any_eq_true, List.any_eq_true]
  refine exists_congr fun place => and_congr_left fun hvisible => ?_
  obtain ⟨r, hat⟩ := Option.isSome_iff_exists.mp hvisible
  have hat : index.at? place = some r := hat
  have htracked : index.tracked? place = some r := by rw [tracked?, hat, Option.some_or]
  rw [hlisted.mem_iff, horder.mem_iff, mem_placesUnder h.toCoherent, h.mem_trackedUnder]
  exact and_congr_right fun _ => ⟨fun _ => ⟨r, htracked⟩, fun _ => ⟨r, hat⟩⟩

/-- Removing notes at once and removing them one by one come to the same. -/
structure SameOutcome (together : Index × Bool) (stepwise : Index × List Bool) : Prop where
  /-- The same notes are visible, with the same names and tags. -/
  view : together.1.view = stepwise.1.view
  /-- The same notes are shadowed. -/
  shadowed : together.1.shadowed = stepwise.1.shadowed
  /-- The one tells of a change exactly if some step of the other does. -/
  told : together.2 = true ↔ true ∈ stepwise.2

/-- After any operations everything at and beneath a place can be removed at once, with the visible
    notes listed in any order, or note by note in any order: it comes to the same.  Nothing there is
    tracked afterwards, and elsewhere everything is tracked as before. -/
theorem Operation.removal_order (root : Option Path) (policy : NamingPolicy)
    (ops : List Operation) (hlisted : listed.Perm ((run { root, policy } ops).placesUnder base))
    (horder : order.Perm ((run { root, policy } ops).trackedUnder base)) :
    let index := run { root, policy } ops
    let together := index.removeListed base listed
    let stepwise := Edit.run Edit.apply index (order.map .remove)
    SameOutcome together stepwise ∧ ∀ place, together.1.tracked? place =
      if base.isPrefixOf place then none else index.tracked? place := by
  intro index together stepwise
  have h : index.Consistent := Operation.consistent_run root policy ops
  have hstepwise : index.removeEach order = (stepwise.1, stepwise.2.any id) :=
    removeEach_eq_run index order
  have htracked (place : Location) :
      together.1.tracked? place = (index.removeEach order).1.tracked? place :=
    (h.tracked?_removeListed hlisted place).trans (h.tracked?_removeOrder horder place).symm
  -- Both ways leave the same notes, so the same of them hold the names.
  have hleaves : Leaves index together.1 :=
    (h.leaves_unshadowUnder base).trans ((h.unshadowUnder base).leaves_removeEach listed)
  have hnamed := hleaves.named?_eq (h.leaves_removeEach order) htracked
  have hsettings : together.1.settings = (index.removeEach order).1.settings :=
    (settings_removeEach ..).trans (settings_removeEach index order).symm
  have htogether := ((h.unshadowUnder base).removeEach listed).toCoherent
  have horder' := (h.removeEach order).toCoherent
  have hview := htogether.view_eq horder' (congrArg Settings.policy hsettings) hnamed
  have hshadowed := htogether.shadowed_ext horder' hnamed htracked
  have htold : together.2 = (index.removeEach order).2 := h.snd_removeListed hlisted horder
  rw [hstepwise] at hview hshadowed htold
  refine ⟨⟨hview, hshadowed, ?_⟩, h.tracked?_removeListed hlisted⟩
  rw [htold, List.any_eq_true]
  simp only [id_eq, exists_eq_right]

/-- A directory goes with two notes of one name and one of another.  Removed one by one, the holder
    of the first name hands it to a note that goes next, and that one to a note outside. -/
theorem Operation.removal_order_handed_on :
    let a := Record.ofContent {} ⟨"/v/a/Note.md"⟩ "#x"
    let b := Record.ofContent {} ⟨"/v/d/x/Note.md"⟩ "#y"
    let c := Record.ofContent {} ⟨"/v/d/Note.md"⟩ "#z"
    let d := Record.ofContent {} ⟨"/v/e/other.md"⟩ "[[Note]]"
    let e := Record.ofContent {} ⟨"/v/d/Other.md"⟩ "#y"
    let ops := [a, b, c, d, e].map fun r => Operation.edit (.insert r)
    let index := run { root := some ⟨"/v"⟩, policy := {} } ops
    let base := Path.location ⟨"/v/d"⟩
    let listed := [e.place, c.place]
    let order := [c.place, b.place, e.place]
    let together := index.removeListed base listed
    let stepwise := Edit.run Edit.apply index (order.map .remove)
    listed.Perm (index.placesUnder base) ∧ order.Perm (index.trackedUnder base) ∧
      SameOutcome together stepwise ∧ stepwise.2 = [true, true, true] ∧
      together.1.tracked? b.place = none ∧ together.1.named? "note" = some a ∧
      together.1.named? "other" = some d := by
  intro a b c d e ops index base listed order together stepwise
  have hlisted : listed.Perm (index.placesUnder base) := by decide +kernel
  have horder : order.Perm (index.trackedUnder base) := by decide +kernel
  obtain ⟨houtcome, htracked⟩ := removal_order (some ⟨"/v"⟩) {} ops hlisted horder
  have hsteps : stepwise.2 = [true, true, true] ∧ stepwise.1.named? "note" = some a ∧
      stepwise.1.named? "other" = some d := by
    decide +kernel
  obtain ⟨hanswers, hnote, hother⟩ := hsteps
  have hunder : base.isPrefixOf b.place = true := by decide +kernel
  have hgone : together.1.tracked? b.place = none := by rw [htracked, if_pos hunder]
  have hnamed := (sameAnswers_of_view_eq houtcome.view).named
  exact ⟨hlisted, horder, houtcome, hanswers, hgone, (hnamed "note").trans hnote,
    (hnamed "other").trans hother⟩

end Orders

end Index

end WikiNotes
