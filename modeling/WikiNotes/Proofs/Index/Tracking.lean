import WikiNotes.Proofs.Index.Coherence

/-! # What an index tracks

An index is read through two views: the note that is tracked at a place, visible or shadowed
(`tracked?`), and the note that holds a name (`named?`).  What is visible at a place and what is
shadowed there follows from these.

`insert` and `remove` are made of three steps.  `clear` takes the note at a place away, `evict`
makes room for a name and `promote` hands a free name on; the last two leave everything tracked
where it is.  Who takes a free name over is told by `Greatest`. -/

namespace WikiNotes

namespace Index

variable {index : Index}

/-! ### What is tracked -/

theorem Coherent.tracked?_place (h : index.Coherent) {place : Location} {r : Record}
    (htracked : index.tracked? place = some r) : r.place = place := by
  rw [tracked?, Option.or_eq_some_iff] at htracked
  rcases htracked with hat | ⟨-, hshadowed⟩
  · exact h.place_eq hat
  · exact h.shadowed_place hshadowed

theorem Coherent.tracked?_of_named? (h : index.Coherent) {name : String} {r : Record}
    (hname : index.named? name = some r) : index.tracked? r.place = some r := by
  rw [tracked?, h.at?_place hname, Option.some_or]

theorem Coherent.tracked?_of_shadowed (h : index.Coherent) {place : Location} {r : Record}
    (hshadowed : index.shadowed.find? place = some r) : index.tracked? place = some r := by
  rw [tracked?, h.shadowed_hidden hshadowed, Option.none_or, hshadowed]

/-- What is tracked at a place without being visible there is shadowed. -/
theorem Coherent.shadowed_eq (h : index.Coherent) (place : Location) :
    index.shadowed.find? place =
      if (index.at? place).isSome then none else index.tracked? place := by
  cases hat : index.at? place with
  | none => simp [tracked?, hat]
  | some r =>
    cases hshadowed : index.shadowed.find? place with
    | none => rfl
    | some r' => exact nomatch hat.symm.trans (h.shadowed_hidden hshadowed)

/-- What is tracked under a name that nobody holds is shadowed. -/
theorem Coherent.shadowed_of_tracked? (h : index.Coherent) {place : Location} {r : Record}
    (htracked : index.tracked? place = some r) (hname : index.named? r.name = none) :
    index.shadowed.find? place = some r := by
  rw [tracked?, Option.or_eq_some_iff] at htracked
  rcases htracked with hat | ⟨-, hshadowed⟩
  · exact nomatch hname.symm.trans (h.named?_name hat)
  · exact hshadowed

/-- A coherent index is consistent if the name of everything tracked is held. -/
theorem Coherent.consistent (h : index.Coherent)
    (hheld : ∀ place r, index.tracked? place = some r →
      ∃ holder, index.named? r.name = some holder) :
    index.Consistent where
  toCoherent := h
  shadowed_held hshadowed := hheld _ _ (h.tracked?_of_shadowed hshadowed)

theorem Consistent.held (h : index.Consistent) {place : Location} {r : Record}
    (htracked : index.tracked? place = some r) : ∃ holder, index.named? r.name = some holder := by
  rw [tracked?, Option.or_eq_some_iff] at htracked
  rcases htracked with hat | ⟨-, hshadowed⟩
  · exact ⟨r, h.named?_name hat⟩
  · exact h.shadowed_held hshadowed

/-! ### The greatest place with a name -/

/-- Of the tracked notes with a name the one at the greatest place, if there is one. -/
def Greatest (index : Index) (name : String) : Option Record → Prop
  | none => ∀ place r, index.tracked? place = some r → r.name ≠ name
  | some r => index.tracked? r.place = some r ∧ r.name = name ∧
      ∀ place r', index.tracked? place = some r' → r'.name = name →
        (compare place r.place).isLE

/-- The heir of a name that nobody holds is at the greatest place with that name. -/
theorem Coherent.greatest_heir? (h : index.Coherent) {name : String}
    (hname : index.named? name = none) : index.Greatest name (index.heir? name) := by
  -- Nobody visible has the name, so the heir is sought among all who have it.
  have hshadowed {place : Location} {r : Record} (ht : index.tracked? place = some r)
      (hn : r.name = name) : index.shadowed.find? place = some r :=
    h.shadowed_of_tracked? ht (hn ▸ hname)
  cases hheir : index.heir? name with
  | none =>
    intro place r htracked hn
    have hno := SortedMap.find?_reverse_values_eq_none_iff.mp hheir place r (hshadowed htracked hn)
    simp [hn] at hno
  | some r =>
    obtain ⟨place, hr, hn, hmax⟩ := SortedMap.find?_reverse_values_eq_some_iff.mp hheir
    obtain rfl := h.shadowed_place hr
    refine ⟨h.tracked?_of_shadowed hr, by simpa using hn, fun place' r' htracked hn' => ?_⟩
    exact hmax place' r' (hshadowed htracked hn') (by simpa using hn')

/-! ### Clearing a place -/

/-- Take away the note at a place, visible or shadowed. -/
def clear (index : Index) (place : Location) : Index := ((index.unshadow place).detach place).1

theorem Coherent.clear (h : index.Coherent) (place : Location) : (index.clear place).Coherent :=
  (h.unshadow place).detach place

theorem Coherent.named?_clear (h : index.Coherent) (place : Location) (name : String) :
    (index.clear place).named? name = (index.named? name).filter (·.place ≠ place) :=
  (h.unshadow place).named?_detach place name

theorem Coherent.at?_clear (h : index.Coherent) (place place' : Location) :
    (index.clear place).at? place' = if place' = place then none else index.at? place' :=
  (h.unshadow place).at?_detach place place'

theorem find?_shadowed_clear (index : Index) (place place' : Location) :
    (index.clear place).shadowed.find? place' =
      if place' = place then none else index.shadowed.find? place' := by
  rw [clear, shadowed_detach, find?_shadowed_unshadow]

theorem Coherent.tracked?_clear (h : index.Coherent) (place place' : Location) :
    (index.clear place).tracked? place' =
      if place' = place then none else index.tracked? place' := by
  rw [tracked?, h.at?_clear, find?_shadowed_clear]
  split <;> rfl

/-! ### Making room for a name -/

/-- After room was made for a name nobody holds it; the other names are held as before. -/
theorem Coherent.named?_evict (h : index.Coherent) (name name' : String) :
    (index.evict name).named? name' = if name' = name then none else index.named? name' := by
  cases hname : index.named? name with
  | none =>
    have hevict : index.evict name = index := by simp [evict, hname]
    rw [hevict]
    split
    case isTrue heq => rw [heq, hname]
    case isFalse => rfl
  | some holder =>
    have hevict : (index.evict name).named? name' =
        (index.detach holder.place).1.named? name' := by
      simp only [evict, hname]
      rfl
    have hholder := h.name_eq hname
    rw [hevict, h.named?_detach]
    split
    case isTrue heq =>
      rw [heq, hname]
      simp [Option.filter]
    case isFalse hne =>
      cases hname' : index.named? name' with
      | none => rfl
      | some r =>
        -- Notes that hold different names are at different places.
        have hkept : r.place ≠ holder.place := fun heq => by
          have hat := h.at?_place hname'
          rw [heq, h.at?_place hname] at hat
          obtain rfl := Option.some.inj hat
          exact hne ((h.name_eq hname').symm.trans hholder)
        simp [Option.filter, hkept]

theorem Coherent.evict (h : index.Coherent) (name : String) : (index.evict name).Coherent := by
  cases hname : index.named? name with
  | none => simpa [Index.evict, hname] using h
  | some holder =>
    simp only [Index.evict, hname]
    refine (h.detach holder.place).shadow ?_
    rw [h.at?_detach, if_pos rfl]

/-- A note that gives way is still tracked. -/
theorem Coherent.tracked?_evict (h : index.Coherent) (name : String) (place : Location) :
    (index.evict name).tracked? place = index.tracked? place := by
  cases hname : index.named? name with
  | none => simp [Index.evict, hname]
  | some holder =>
    -- The holder moves from what is visible to what is shadowed.
    have hat : (index.evict name).at? place =
        if place = holder.place then none else index.at? place := by
      simp only [Index.evict, hname]
      exact h.at?_detach holder.place place
    have hshadowed : (index.evict name).shadowed.find? place =
        if place = holder.place then some holder else index.shadowed.find? place := by
      simp only [Index.evict, hname, Index.shadow, shadowed_detach]
      exact SortedMap.find?_insert_eq ..
    rw [tracked?, hat, hshadowed, tracked?]
    split
    case isTrue heq => rw [heq, h.at?_place hname, Option.none_or, Option.some_or]
    case isFalse => rfl

/-! ### Handing a name on -/

section Promote

variable {name : String}

theorem promote_of_heir?_eq_none (hheir : index.heir? name = none) :
    index.promote name = index := by
  simp [promote, hheir]

theorem promote_of_heir?_eq_some {r : Record} (hheir : index.heir? name = some r) :
    index.promote name = (index.unshadow r.place).attach r := by
  simp [promote, hheir]

theorem Coherent.heir?_eq_some (h : index.Coherent) {r : Record}
    (hheir : index.heir? name = some r) :
    index.shadowed.find? r.place = some r ∧ r.name = name := by
  obtain ⟨place, hr, hn, -⟩ := SortedMap.find?_reverse_values_eq_some_iff.mp hheir
  exact ⟨h.shadowed_place hr ▸ hr, by simpa using hn⟩

theorem Coherent.named?_promote (h : index.Coherent) (hname : index.named? name = none)
    (name' : String) :
    (index.promote name).named? name' =
      if name' = name then index.heir? name else index.named? name' := by
  cases hheir : index.heir? name with
  | none =>
    rw [promote_of_heir?_eq_none hheir]
    split
    case isTrue heq => rw [heq, hname]
    case isFalse => rfl
  | some r =>
    obtain ⟨-, rfl⟩ := h.heir?_eq_some hheir
    rw [promote_of_heir?_eq_some hheir, named?_attach]
    rfl

theorem Coherent.promote (h : index.Coherent) (hname : index.named? name = none) :
    (index.promote name).Coherent := by
  cases hheir : index.heir? name with
  | none => rwa [promote_of_heir?_eq_none hheir]
  | some r =>
    obtain ⟨hr, rfl⟩ := h.heir?_eq_some hheir
    rw [promote_of_heir?_eq_some hheir]
    refine (h.unshadow r.place).attach hname (h.shadowed_hidden hr) ?_
    rw [find?_shadowed_unshadow, if_pos rfl]

/-- A note that takes a name over was tracked before. -/
theorem Coherent.tracked?_promote (h : index.Coherent) (hname : index.named? name = none)
    (place : Location) : (index.promote name).tracked? place = index.tracked? place := by
  cases hheir : index.heir? name with
  | none => rw [promote_of_heir?_eq_none hheir]
  | some r =>
    obtain ⟨hr, rfl⟩ := h.heir?_eq_some hheir
    have hshadowed : ((index.unshadow r.place).attach r).shadowed.find? place =
        if place = r.place then none else index.shadowed.find? place :=
      find?_shadowed_unshadow ..
    rw [promote_of_heir?_eq_some hheir, tracked?, (h.unshadow r.place).at?_attach hname, hshadowed]
    split
    case isTrue heq => rw [heq, h.tracked?_of_shadowed hr, Option.some_or]
    case isFalse => rfl

/-- After a name was handed on, the note at the greatest place with it holds it. -/
theorem Coherent.greatest_promote (h : index.Coherent) (hname : index.named? name = none) :
    (index.promote name).Greatest name ((index.promote name).named? name) := by
  rw [h.named?_promote hname, if_pos rfl]
  have hgreatest := h.greatest_heir? hname
  cases hheir : index.heir? name with
  | none =>
    rw [hheir] at hgreatest
    intro place r htracked
    exact hgreatest place r (h.tracked?_promote hname place ▸ htracked)
  | some r =>
    rw [hheir] at hgreatest
    refine ⟨(h.tracked?_promote hname r.place).trans hgreatest.1, hgreatest.2.1,
      fun place r' htracked => ?_⟩
    exact hgreatest.2.2 place r' (h.tracked?_promote hname place ▸ htracked)

end Promote

end Index

end WikiNotes
