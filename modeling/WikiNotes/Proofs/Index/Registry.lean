import WikiNotes.Proofs.Index.Consistency

/-! # An index is a registry of notes

A `Registry` says what an index does without saying how: it keeps the tracked notes by place, and
for every name the one place whose note holds it.  A note that is inserted takes its name; a name
that becomes free goes to the greatest place that is left with it.

`Represents` ties an index to a registry: the same notes are tracked, and the same of them hold
their names.  Every edit keeps this and is answered alike (`Represents.edit`), so an index and a
registry that were empty at first agree after any edits (`Edit.run_refines_registry`). -/

namespace WikiNotes

/-- Notes by place, and for every name the place of the note that holds it. -/
structure Registry where
  tracked : SortedMap Location Record := .empty
  holders : SortedMap String Location := .empty

namespace Registry

/-- The greatest place of a note with a name. -/
def greatest? (tracked : SortedMap Location Record) (name : String) : Option Location :=
  (tracked.filter fun _ r => r.name == name).keys.getLast?

/-- Let the note with a name at the greatest place hold it; nobody does if there is none. -/
def pass (registry : Registry) (name : String) : Registry :=
  { registry with
    holders :=
      match greatest? registry.tracked name with
      | some place => registry.holders.insert name place
      | none => registry.holders.erase name }

/-- Insert a note in place of the one at its place; says whether that is another note. -/
def insert (registry : Registry) (r : Record) : Registry × Bool :=
  let settled : Registry :=
    ⟨registry.tracked.insert r.place r, registry.holders.insert r.name r.place⟩
  match registry.tracked.find? r.place with
  | none => (settled, true)
  | some old =>
    if r.same old then (registry, false)
    else if old.name ≠ r.name ∧ registry.holders.find? old.name = some r.place then
      (settled.pass old.name, true)
    else (settled, true)

/-- Remove the note at a place; says whether it held its name. -/
def remove (registry : Registry) (place : Location) : Registry × Bool :=
  let settled : Registry := { registry with tracked := registry.tracked.erase place }
  match registry.tracked.find? place with
  | none => (registry, false)
  | some old =>
    if registry.holders.find? old.name = some place then (settled.pass old.name, true)
    else (settled, false)

theorem find?_holders_pass (registry : Registry) (name name' : String) :
    (registry.pass name).holders.find? name' =
      if name' = name then greatest? registry.tracked name
      else registry.holders.find? name' := by
  simp only [pass]
  cases greatest? registry.tracked name with
  | none => exact SortedMap.find?_erase_eq ..
  | some place => exact SortedMap.find?_insert_eq ..

end Registry

namespace Index

variable {index : Index} {registry : Registry}

/-- An index tracks the notes of a registry, and the same of them hold their names. -/
structure Represents (index : Index) (registry : Registry) : Prop where
  consistent : index.Consistent
  tracked (place : Location) : index.tracked? place = registry.tracked.find? place
  holder (name : String) : (index.named? name).map Record.place = registry.holders.find? name

theorem represents_empty (root : Option Path) (policy : NamingPolicy) :
    Represents { root, policy } {} where
  consistent := consistent_empty root policy
  tracked _ := rfl
  holder _ := rfl

/-! ### What is visible and what is shadowed -/

/-- The visible notes are those that hold their names. -/
theorem Represents.at?_eq_some_iff (h : Represents index registry) {place : Location}
    {r : Record} :
    index.at? place = some r ↔
      registry.tracked.find? place = some r ∧ registry.holders.find? r.name = some place := by
  rw [← h.tracked, ← h.holder, Option.map_eq_some_iff]
  constructor
  · intro hat
    refine ⟨by rw [tracked?, hat, Option.some_or], r, h.consistent.named?_name hat, ?_⟩
    exact h.consistent.place_eq hat
  · rintro ⟨htracked, holder, hname, rfl⟩
    rw [h.consistent.tracked?_of_named? hname] at htracked
    obtain rfl := Option.some.inj htracked
    exact h.consistent.at?_place hname

/-- The shadowed notes are the other ones. -/
theorem Represents.find?_shadowed_eq_some_iff (h : Represents index registry) {place : Location}
    {r : Record} :
    index.shadowed.find? place = some r ↔
      registry.tracked.find? place = some r ∧ registry.holders.find? r.name ≠ some place := by
  rw [h.consistent.shadowed_eq, h.tracked]
  cases hat : index.at? place with
  | none =>
    have hnot : registry.tracked.find? place = some r →
        registry.holders.find? r.name ≠ some place := fun htracked hholder =>
      nomatch hat.symm.trans (h.at?_eq_some_iff.mpr ⟨htracked, hholder⟩)
    simpa using hnot
  | some r' =>
    obtain ⟨htracked, hholder⟩ := h.at?_eq_some_iff.mp hat
    have hheld : registry.tracked.find? place = some r →
        registry.holders.find? r.name = some place := fun hr => by
      obtain rfl := Option.some.inj (htracked.symm.trans hr)
      exact hholder
    simpa using hheld

/-! ### Edits -/

/-- The heir of a name in an index is the note at the greatest place with it in the registry. -/
theorem Greatest.greatest?_eq {tracked : SortedMap Location Record}
    (htracked : ∀ place, index.tracked? place = tracked.find? place) {name : String}
    {heir : Option Record} (hgreatest : index.Greatest name heir) :
    Registry.greatest? tracked name = heir.map Record.place := by
  have hfind {place : Location} {r : Record} :
      (tracked.filter fun _ r => r.name == name).find? place = some r ↔
        index.tracked? place = some r ∧ r.name = name := by
    rw [SortedMap.find?_filter, htracked, Option.filter_eq_some_iff]
    simp
  cases heir with
  | none =>
    refine List.getLast?_eq_none_iff.mpr (List.eq_nil_iff_forall_not_mem.mpr fun place hmem => ?_)
    obtain ⟨r, hr⟩ := SortedMap.mem_keys.mp hmem
    exact hgreatest place r (hfind.mp hr).1 (hfind.mp hr).2
  | some r =>
    obtain ⟨hr, hname, hmax⟩ := hgreatest
    refine SortedMap.getLast?_keys_eq_some_iff.mpr ⟨⟨r, hfind.mpr ⟨hr, hname⟩⟩, ?_⟩
    exact fun place r' hr' => hmax place r' (hfind.mp hr').1 (hfind.mp hr').2

theorem Represents.insert (h : Represents index registry) (r : Record) :
    Represents (index.insert r).1 (registry.insert r).1 ∧
      (index.insert r).2 = (registry.insert r).2 := by
  have hc := h.consistent
  cases hnew : (index.tracked? r.place).any r.same with
  | true =>
    rw [insert_of_same hnew]
    rw [h.tracked] at hnew
    obtain ⟨old, hold, hsame⟩ := (Option.any_eq_true _ _).mp hnew
    simp only [Registry.insert, hold, hsame, if_true]
    exact ⟨h, trivial⟩
  | false =>
    have htracked (place : Location) : (index.insert r).1.tracked? place =
        (registry.tracked.insert r.place r).find? place := by
      rw [hc.tracked?_insert hnew, SortedMap.find?_insert_eq, h.tracked]
    have hself := hc.named?_insert_self hnew
    -- Names other than that of the note and that of the one it replaces.
    have hkept {name : String} (hname : name ≠ r.name)
        (hold : ∀ old, index.at? r.place = some old → old.name ≠ name) :
        ((index.insert r).1.named? name).map Record.place =
          (registry.holders.insert r.name r.place).find? name := by
      rw [hc.named?_insert_kept hname hold, SortedMap.find?_insert_eq, if_neg hname, h.holder]
    have hanswer : (index.insert r).2 = true := by rw [snd_insert, hnew]; rfl
    rw [hanswer]
    by_cases hfreed : ∃ old, index.at? r.place = some old ∧ old.name ≠ r.name
    case pos =>
      -- The replaced note held another name, which the registry passes on.
      obtain ⟨old, hat, hne⟩ := hfreed
      obtain ⟨hold, hholder⟩ := h.at?_eq_some_iff.mp hat
      have hdiffers : r.same old = false := by
        rw [h.tracked, hold] at hnew
        exact hnew
      simp only [Registry.insert, hold, hdiffers, hne, hholder, ne_eq, not_false_eq_true, and_self,
        Bool.false_eq_true, if_false, if_true, and_true]
      refine ⟨hc.insert r, htracked, fun name => ?_⟩
      rw [Registry.find?_holders_pass]
      by_cases hname : name = old.name
      · rw [if_pos hname, hname]
        exact (Greatest.greatest?_eq htracked (hc.greatest_insert hnew hat hne)).symm
      · rw [if_neg hname]
        by_cases hself' : name = r.name
        · rw [hself', hself, SortedMap.find?_insert_eq, if_pos rfl, Option.map_some]
        · refine hkept hself' fun old' hat' heq => hname ?_
          obtain rfl := Option.some.inj (hat.symm.trans hat')
          exact heq.symm
    case neg =>
      -- No name became free: nothing was there, or it was shadowed, or it kept its name.
      have hsettled : registry.insert r =
          (⟨registry.tracked.insert r.place r, registry.holders.insert r.name r.place⟩, true) := by
        cases hold : registry.tracked.find? r.place with
        | none => simp [Registry.insert, hold]
        | some old =>
          have hdiffers : r.same old = false := by
            rw [h.tracked, hold] at hnew
            exact hnew
          have hstays : ¬(old.name ≠ r.name ∧
              registry.holders.find? old.name = some r.place) := fun ⟨hne, hholder⟩ =>
            hfreed ⟨old, h.at?_eq_some_iff.mpr ⟨hold, hholder⟩, hne⟩
          simp [Registry.insert, hold, hdiffers, hstays]
      rw [hsettled]
      refine ⟨⟨hc.insert r, htracked, fun name => ?_⟩, rfl⟩
      by_cases hself' : name = r.name
      · rw [hself', hself, SortedMap.find?_insert_eq, if_pos rfl, Option.map_some]
      · refine hkept hself' fun old hat heq => hfreed ⟨old, hat, ?_⟩
        exact fun hname => hself' (heq.symm.trans hname)

theorem Represents.remove (h : Represents index registry) (place : Location) :
    Represents (index.remove place).1 (registry.remove place).1 ∧
      (index.remove place).2 = (registry.remove place).2 := by
  have hc := h.consistent
  have htracked (place' : Location) : (index.remove place).1.tracked? place' =
      (registry.tracked.erase place).find? place' := by
    rw [hc.tracked?_remove, SortedMap.find?_erase_eq, h.tracked]
  rw [hc.snd_remove]
  cases hat : index.at? place with
  | some old =>
    obtain ⟨hold, hholder⟩ := h.at?_eq_some_iff.mp hat
    simp only [Registry.remove, hold, hholder, if_true, Option.isSome_some, and_true]
    refine ⟨hc.remove place, htracked, fun name => ?_⟩
    rw [Registry.find?_holders_pass]
    by_cases hname : name = old.name
    · rw [if_pos hname, hname]
      exact (Greatest.greatest?_eq htracked (hc.greatest_remove hat)).symm
    · have hkept : ∀ r, index.at? place = some r → r.name ≠ name := fun r hr heq => by
        obtain rfl := Option.some.inj (hat.symm.trans hr)
        exact hname heq.symm
      rw [if_neg hname, hc.named?_remove_kept hkept, h.holder]
  | none =>
    have hkept (name : String) : ((index.remove place).1.named? name).map Record.place =
        registry.holders.find? name := by
      have hnone : ∀ r, index.at? place = some r → r.name ≠ name := fun r hr =>
        nomatch hat.symm.trans hr
      rw [hc.named?_remove_kept hnone, h.holder]
    cases hold : registry.tracked.find? place with
    | none =>
      simp only [Registry.remove, hold, Option.isSome_none, and_true]
      refine ⟨hc.remove place, fun place' => ?_, hkept⟩
      rw [hc.tracked?_remove, h.tracked]
      split
      case isTrue heq => rw [heq, hold]
      case isFalse => rfl
    | some old =>
      -- A shadowed note holds no name that would have to be passed on.
      have hshadowed : registry.holders.find? old.name ≠ some place := fun hholder =>
        nomatch hat.symm.trans (h.at?_eq_some_iff.mpr ⟨hold, hholder⟩)
      simp only [Registry.remove, hold, hshadowed, if_false, Option.isSome_none, and_true]
      exact ⟨hc.remove place, htracked, hkept⟩

/-! ### Runs -/

/-- The place at which an edit changes what is tracked. -/
def Edit.place : Edit → Location
  | insert r => r.place
  | remove place => place

/-- Change a registry at one place. -/
def Edit.applyTo (registry : Registry) : Edit → Registry × Bool
  | insert r => registry.insert r
  | remove place => registry.remove place

/-- Make edits one after the other; gives their answers too. -/
def Edit.run {σ : Type} (apply : σ → Edit → σ × Bool) (state : σ) : List Edit → σ × List Bool
  | [] => (state, [])
  | e :: edits =>
    let (next, answer) := apply state e
    let (final, answers) := run apply next edits
    (final, answer :: answers)

theorem Represents.edit (h : Represents index registry) (e : Edit) :
    Represents (e.apply index).1 (e.applyTo registry).1 ∧
      (e.apply index).2 = (e.applyTo registry).2 := by
  cases e with
  | insert r => exact h.insert r
  | remove place => exact h.remove place

theorem Represents.run (h : Represents index registry) (edits : List Edit) :
    Represents (Edit.run Edit.apply index edits).1 (Edit.run Edit.applyTo registry edits).1 ∧
      (Edit.run Edit.apply index edits).2 = (Edit.run Edit.applyTo registry edits).2 := by
  induction edits generalizing index registry with
  | nil => exact ⟨h, rfl⟩
  | cons e edits ih =>
    obtain ⟨hnext, hanswer⟩ := h.edit e
    obtain ⟨hfinal, hanswers⟩ := ih hnext
    refine ⟨hfinal, ?_⟩
    simp only [Edit.run, hanswer, hanswers]

/-- What is tracked at other places than that of an edit stays. -/
theorem Coherent.tracked?_edit (h : index.Coherent) (e : Edit) {place : Location}
    (hplace : place ≠ e.place) : (e.apply index).1.tracked? place = index.tracked? place := by
  cases e with
  | insert r =>
    cases hnew : (index.tracked? r.place).any r.same with
    | true => rw [Edit.apply, insert_of_same hnew]
    | false => exact (h.tracked?_insert hnew place).trans (if_neg hplace)
  | remove place' => exact (h.tracked?_remove place' place).trans (if_neg hplace)

/-- A name that is neither that of an inserted note nor that of the visible note at the place of
    an edit stays with its holder. -/
theorem Coherent.named?_edit (h : index.Coherent) (e : Edit) {name : String}
    (hnew : ∀ r, e = .insert r → r.name ≠ name)
    (hold : ∀ old, index.at? e.place = some old → old.name ≠ name) :
    (e.apply index).1.named? name = index.named? name := by
  cases e with
  | insert r => exact h.named?_insert_kept (Ne.symm (hnew r rfl)) hold
  | remove place => exact h.named?_remove_kept hold

/-- An index agrees with a registry: the holders of the names are what is visible, and everything
    else that is tracked is shadowed. -/
structure Agrees (index : Index) (registry : Registry) : Prop where
  /-- The visible notes are those that hold their names. -/
  visible (place : Location) (r : Record) : index.at? place = some r ↔
    registry.tracked.find? place = some r ∧ registry.holders.find? r.name = some place
  /-- The shadowed notes are all other tracked notes. -/
  shadowed (place : Location) (r : Record) : index.shadowed.find? place = some r ↔
    registry.tracked.find? place = some r ∧ registry.holders.find? r.name ≠ some place
  /-- A name is found where its holder is. -/
  found (name : String) : (index.named? name).map Record.place = registry.holders.find? name
  /-- A holder is tracked with the name that it holds. -/
  holder_tracked (name : String) (place : Location) :
    registry.holders.find? name = some place →
      ∃ r, registry.tracked.find? place = some r ∧ r.name = name
  /-- The name of everything tracked is held. -/
  held (place : Location) (r : Record) : registry.tracked.find? place = some r →
    ∃ holder, registry.holders.find? r.name = some holder

theorem Represents.agrees (h : Represents index registry) : Agrees index registry where
  visible _ _ := h.at?_eq_some_iff
  shadowed _ _ := h.find?_shadowed_eq_some_iff
  found := h.holder
  holder_tracked name place hholder := by
    rw [← h.holder, Option.map_eq_some_iff] at hholder
    obtain ⟨r, hname, rfl⟩ := hholder
    refine ⟨r, ?_, h.consistent.name_eq hname⟩
    rw [← h.tracked, h.consistent.tracked?_of_named? hname]
  held place r htracked := by
    rw [← h.tracked] at htracked
    obtain ⟨holder, hholder⟩ := h.consistent.held htracked
    exact ⟨holder.place, by rw [← h.holder, hholder, Option.map_some]⟩

/-- After any edits an index that was empty at first agrees with the registry, and all answers are
    the same.  A further edit then changes what is tracked at its own place only, and moves no name
    but that of an inserted note and that of the visible note it takes away. -/
theorem Edit.run_refines_registry (root : Option Path) (policy : NamingPolicy)
    (edits : List Edit) :
    let index := (Edit.run Edit.apply ({ root, policy } : Index) edits).1
    let registry := (Edit.run Edit.applyTo ({} : Registry) edits).1
    Agrees index registry ∧
    (Edit.run Edit.apply ({ root, policy } : Index) edits).2 =
      (Edit.run Edit.applyTo ({} : Registry) edits).2 ∧
    ∀ e : Edit,
      (∀ place ≠ e.place, (e.apply index).1.tracked? place = index.tracked? place) ∧
      ∀ name, (∀ r, e = .insert r → r.name ≠ name) →
        (∀ old, index.at? e.place = some old → old.name ≠ name) →
          (e.apply index).1.named? name = index.named? name := by
  obtain ⟨hfinal, hanswers⟩ := (represents_empty root policy).run edits
  refine ⟨hfinal.agrees, hanswers, fun e => ⟨fun place hplace => ?_, fun name hnew hold => ?_⟩⟩
  · exact hfinal.consistent.tracked?_edit e hplace
  · exact hfinal.consistent.named?_edit e hnew hold

end Index

end WikiNotes
