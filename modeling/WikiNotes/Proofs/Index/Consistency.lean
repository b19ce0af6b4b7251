import WikiNotes.Proofs.Index.Tracking

/-! # Inserting and removing keep an index consistent

`insert`, `remove` and `removeUnder` are told by what they do to the two views of an index, and all
three keep a consistent index consistent.

* `tracked?_insert`, `tracked?_remove`, `tracked?_removeUnder`  what is tracked afterwards
* `named?_insert_self`, `named?_insert_kept`, `greatest_insert`  who holds a name after `insert`
* `named?_remove_kept`, `greatest_remove`                        who holds a name after `remove`

So every index that is reached from an empty one is consistent (`Operation.consistent_run`). -/

namespace WikiNotes

namespace Index

variable {index : Index}

/-! ### Putting a note at its place -/

/-- Let a note have its place and its name, whoever had them before. -/
def put (index : Index) (r : Record) : Index := ((index.clear r.place).evict r.name).attach r

section Put

variable {r : Record}

theorem Coherent.named?_put_room (h : index.Coherent) :
    ((index.clear r.place).evict r.name).named? r.name = none := by
  rw [(h.clear r.place).named?_evict, if_pos rfl]

theorem Coherent.tracked?_put_room (h : index.Coherent) :
    ((index.clear r.place).evict r.name).tracked? r.place = none := by
  rw [(h.clear r.place).tracked?_evict, h.tracked?_clear, if_pos rfl]

theorem Coherent.put (h : index.Coherent) : (index.put r).Coherent := by
  have hroom := h.tracked?_put_room (r := r)
  rw [tracked?, Option.or_eq_none_iff] at hroom
  exact ((h.clear r.place).evict r.name).attach h.named?_put_room hroom.1 hroom.2

theorem Coherent.tracked?_put (h : index.Coherent) (place : Location) :
    (index.put r).tracked? place = if place = r.place then some r else index.tracked? place := by
  have hevicted := (h.clear r.place).evict r.name
  have hplaces : (index.put r).tracked? place =
      if place = r.place then some r
      else ((index.clear r.place).evict r.name).tracked? place := by
    rw [tracked?, Index.put, hevicted.at?_attach h.named?_put_room]
    split
    case isTrue => rw [Option.some_or]
    case isFalse => rfl
  rw [hplaces, (h.clear r.place).tracked?_evict, h.tracked?_clear]
  grind

theorem Coherent.named?_put (h : index.Coherent) (name : String) :
    (index.put r).named? name =
      if name = r.name then some r else (index.named? name).filter (·.place ≠ r.place) := by
  rw [Index.put, named?_attach, (h.clear r.place).named?_evict, h.named?_clear]
  grind

/-- A name stays with its holder unless that is at the place of the note that is put. -/
theorem Coherent.named?_put_kept (h : index.Coherent) {name : String} (hname : name ≠ r.name)
    (hkept : ∀ old, index.at? r.place = some old → old.name ≠ name) :
    (index.put r).named? name = index.named? name := by
  rw [h.named?_put, if_neg hname]
  cases hholder : index.named? name with
  | none => rfl
  | some holder =>
    have hplace : holder.place ≠ r.place := fun heq => by
      have hat := h.at?_place hholder
      rw [heq] at hat
      exact hkept holder hat (h.name_eq hholder)
    simp [Option.filter, hplace]

theorem Coherent.named?_put_freed (h : index.Coherent) {old : Record}
    (hold : index.at? r.place = some old) (hne : old.name ≠ r.name) :
    (index.put r).named? old.name = none := by
  rw [h.named?_put, if_neg hne, h.named?_name hold]
  simp [Option.filter, h.place_eq hold]

end Put

/-! ### Inserting -/

section Insert

variable {r : Record}

/-- Inserting what is tracked already changes nothing. -/
theorem insert_of_same (hsame : (index.tracked? r.place).any r.same = true) :
    index.insert r = (index, false) := by
  simp [insert, hsame]

/-- Inserting anything else puts it at its place, and the name that the visible note there held is
    handed on if it is another one. -/
theorem insert_of_new (hnew : (index.tracked? r.place).any r.same = false) :
    index.insert r =
      (match index.at? r.place with
        | some old => if old.name = r.name then index.put r else (index.put r).promote old.name
        | none => index.put r, true) := by
  have hreplaced : ((index.unshadow r.place).detach r.place).2 = index.at? r.place :=
    detach_snd ..
  simp only [insert, hnew, Bool.false_eq_true, if_false, hreplaced]
  cases index.at? r.place with
  | none => rfl
  | some old => rfl

/-- The note that was visible at the place of a new one either kept its name or made it free. -/
theorem insert_cases (index : Index) (r : Record) :
    ((index.tracked? r.place).any r.same = true ∧ index.insert r = (index, false)) ∨
    ((index.tracked? r.place).any r.same = false ∧ index.insert r = (index.put r, true) ∧
      ∀ old, index.at? r.place = some old → old.name = r.name) ∨
    ((index.tracked? r.place).any r.same = false ∧
      ∃ old, index.at? r.place = some old ∧ old.name ≠ r.name ∧
        index.insert r = ((index.put r).promote old.name, true)) := by
  cases hsame : (index.tracked? r.place).any r.same with
  | true => exact .inl ⟨rfl, insert_of_same hsame⟩
  | false =>
    rw [insert_of_new hsame]
    cases hold : index.at? r.place with
    | none => exact .inr (.inl ⟨rfl, rfl, fun old h => nomatch h⟩)
    | some old =>
      by_cases hname : old.name = r.name
      · refine .inr (.inl ⟨rfl, by simp [hname], fun old' h => ?_⟩)
        obtain rfl := Option.some.inj h
        exact hname
      · exact .inr (.inr ⟨rfl, old, rfl, hname, by simp [hname]⟩)

theorem snd_insert (index : Index) (r : Record) :
    (index.insert r).2 = !(index.tracked? r.place).any r.same := by
  rcases insert_cases index r with ⟨hsame, h⟩ | ⟨hnew, h, -⟩ | ⟨hnew, _, -, -, h⟩
  · rw [h, hsame]
    rfl
  · rw [h, hnew]
    rfl
  · rw [h, hnew]
    rfl

theorem Coherent.tracked?_insert (h : index.Coherent)
    (hnew : (index.tracked? r.place).any r.same = false) (place : Location) :
    (index.insert r).1.tracked? place =
      if place = r.place then some r else index.tracked? place := by
  rcases insert_cases index r with ⟨hsame, -⟩ | ⟨-, hput, -⟩ | ⟨-, old, hold, hne, hput⟩
  · exact nomatch hsame.symm.trans hnew
  · rw [hput, h.tracked?_put]
  · rw [hput, h.put.tracked?_promote (h.named?_put_freed hold hne), h.tracked?_put]

/-- A new note holds its name. -/
theorem Coherent.named?_insert_self (h : index.Coherent)
    (hnew : (index.tracked? r.place).any r.same = false) :
    (index.insert r).1.named? r.name = some r := by
  rcases insert_cases index r with ⟨hsame, -⟩ | ⟨-, hput, -⟩ | ⟨-, old, hold, hne, hput⟩
  · exact nomatch hsame.symm.trans hnew
  · rw [hput, h.named?_put, if_pos rfl]
  · rw [hput, h.put.named?_promote (h.named?_put_freed hold hne), if_neg (Ne.symm hne),
      h.named?_put, if_pos rfl]

/-- A name that is neither that of the inserted note nor that of the one it replaces stays with
    its holder. -/
theorem Coherent.named?_insert_kept (h : index.Coherent) {name : String} (hname : name ≠ r.name)
    (hkept : ∀ old, index.at? r.place = some old → old.name ≠ name) :
    (index.insert r).1.named? name = index.named? name := by
  rcases insert_cases index r with ⟨-, hsame⟩ | ⟨-, hput, -⟩ | ⟨-, old, hold, hne, hput⟩
  · rw [hsame]
  · rw [hput, h.named?_put_kept hname hkept]
  · rw [hput, h.put.named?_promote (h.named?_put_freed hold hne),
      if_neg (Ne.symm (hkept old hold)), h.named?_put_kept hname hkept]

/-- The name that a replaced note gives up goes to the note at the greatest place with it. -/
theorem Coherent.greatest_insert (h : index.Coherent)
    (hnew : (index.tracked? r.place).any r.same = false) {old : Record}
    (hold : index.at? r.place = some old) (hne : old.name ≠ r.name) :
    (index.insert r).1.Greatest old.name ((index.insert r).1.named? old.name) := by
  rcases insert_cases index r with ⟨hsame, -⟩ | ⟨-, -, hname⟩ | ⟨-, old', hold', -, hput⟩
  · exact nomatch hsame.symm.trans hnew
  · exact absurd (hname old hold) hne
  · obtain rfl : old = old' := Option.some.inj (hold.symm.trans hold')
    rw [hput]
    exact h.put.greatest_promote (h.named?_put_freed hold hne)

theorem Coherent.insert (h : index.Coherent) (r : Record) : (index.insert r).1.Coherent := by
  rcases insert_cases index r with ⟨-, hsame⟩ | ⟨-, hput, -⟩ | ⟨-, old, hold, hne, hput⟩
  · rwa [hsame]
  · rw [hput]
    exact h.put
  · rw [hput]
    exact h.put.promote (h.named?_put_freed hold hne)

/-- Inserting a note keeps an index consistent. -/
theorem Consistent.insert (h : index.Consistent) (r : Record) : (index.insert r).1.Consistent := by
  refine (h.toCoherent.insert r).consistent fun place s htracked => ?_
  cases hnew : (index.tracked? r.place).any r.same with
  | true =>
    rw [insert_of_same hnew] at htracked ⊢
    exact h.held htracked
  | false =>
    rcases Decidable.em (s.name = r.name) with hname | hname
    · exact ⟨r, hname ▸ h.named?_insert_self hnew⟩
    -- The name was held before; its holder keeps it unless it is the one that is replaced.
    by_cases hkept : ∀ old, index.at? r.place = some old → old.name ≠ s.name
    · rw [h.named?_insert_kept hname hkept]
      have hplace : place ≠ r.place := fun heq => by
        rw [h.tracked?_insert hnew, if_pos heq] at htracked
        exact hname (congrArg Record.name (Option.some.inj htracked)).symm
      rw [h.tracked?_insert hnew, if_neg hplace] at htracked
      exact h.held htracked
    · simp only [Classical.not_forall, Decidable.not_not] at hkept
      obtain ⟨old, hold, heq⟩ := hkept
      -- The freed name finds a holder, since this note at least could take it.
      have hgreatest := h.greatest_insert hnew hold (heq ▸ hname)
      rw [heq] at hgreatest
      cases hheld : (index.insert r).1.named? s.name with
      | some holder => exact ⟨holder, rfl⟩
      | none =>
        rw [hheld] at hgreatest
        exact absurd rfl (hgreatest place s htracked)

end Insert

/-! ### Removing -/

section Remove

variable {place : Location}

/-- Removing clears a place and hands on the name of the note that was visible there. -/
theorem Coherent.remove_eq (h : index.Coherent) (place : Location) :
    index.remove place =
      match index.at? place with
      | some r => ((index.clear place).promote r.name, true)
      | none => (index.clear place, false) := by
  cases hshadowed : index.shadowed.find? place with
  | some r =>
    -- Where a note is shadowed there is none to detach.
    have hat := h.shadowed_hidden hshadowed
    have hcontains : index.shadowed.contains place = true :=
      SortedMap.contains_eq_true_iff.mpr ⟨r, hshadowed⟩
    have hdetach : (index.unshadow place).detach place = (index.unshadow place, none) :=
      detach_of_at?_eq_none hat
    have hclear : index.clear place = index.unshadow place := congrArg Prod.fst hdetach
    simp [Index.remove, hcontains, hat, hclear]
  | none =>
    have hcontains : index.shadowed.contains place = false :=
      SortedMap.contains_eq_false_iff.mpr hshadowed
    -- Where no note is shadowed there is none to take out of the shadowed ones.
    have hunshadow : index.unshadow place = index := by
      have herase : index.shadowed.erase place = index.shadowed := by
        refine SortedMap.ext_find? fun place' => ?_
        rw [SortedMap.find?_erase_eq]
        split
        case isTrue heq => rw [heq, hshadowed]
        case isFalse => rfl
      rw [Index.unshadow, herase]
    simp only [Index.remove, hcontains, Bool.false_eq_true, if_false, Index.clear, hunshadow]
    cases hat : index.at? place with
    | none => rw [detach_of_at?_eq_none hat]
    | some r => rw [detach_of_at?_eq_some hat]

theorem Coherent.named?_clear_freed (h : index.Coherent) {r : Record}
    (hat : index.at? place = some r) : (index.clear place).named? r.name = none := by
  rw [h.named?_clear, h.named?_name hat]
  simp [Option.filter, h.place_eq hat]

/-- A name stays with its holder unless that is at the place that is cleared. -/
theorem Coherent.named?_clear_kept (h : index.Coherent) {name : String}
    (hkept : ∀ r, index.at? place = some r → r.name ≠ name) :
    (index.clear place).named? name = index.named? name := by
  rw [h.named?_clear]
  cases hholder : index.named? name with
  | none => rfl
  | some holder =>
    have hplace : holder.place ≠ place := fun heq => by
      have hat := h.at?_place hholder
      rw [heq] at hat
      exact hkept holder hat (h.name_eq hholder)
    simp [Option.filter, hplace]

theorem Coherent.snd_remove (h : index.Coherent) (place : Location) :
    (index.remove place).2 = (index.at? place).isSome := by
  rw [h.remove_eq]
  cases index.at? place <;> rfl

theorem Coherent.tracked?_remove (h : index.Coherent) (place place' : Location) :
    (index.remove place).1.tracked? place' =
      if place' = place then none else index.tracked? place' := by
  rw [h.remove_eq]
  cases hat : index.at? place with
  | none => exact h.tracked?_clear place place'
  | some r =>
    exact ((h.clear place).tracked?_promote (h.named?_clear_freed hat) place').trans
      (h.tracked?_clear place place')

/-- A name that is not that of the removed note stays with its holder. -/
theorem Coherent.named?_remove_kept (h : index.Coherent) {name : String}
    (hkept : ∀ r, index.at? place = some r → r.name ≠ name) :
    (index.remove place).1.named? name = index.named? name := by
  rw [h.remove_eq]
  cases hat : index.at? place with
  | none => exact h.named?_clear_kept hkept
  | some r =>
    refine ((h.clear place).named?_promote (h.named?_clear_freed hat) name).trans ?_
    rw [if_neg (Ne.symm (hkept r hat)), h.named?_clear_kept hkept]

/-- The name of a removed note goes to the note at the greatest place with it. -/
theorem Coherent.greatest_remove (h : index.Coherent) {r : Record}
    (hat : index.at? place = some r) :
    (index.remove place).1.Greatest r.name ((index.remove place).1.named? r.name) := by
  rw [h.remove_eq, hat]
  exact (h.clear place).greatest_promote (h.named?_clear_freed hat)

theorem Coherent.remove (h : index.Coherent) (place : Location) :
    (index.remove place).1.Coherent := by
  rw [h.remove_eq]
  cases hat : index.at? place with
  | none => exact h.clear place
  | some r => exact (h.clear place).promote (h.named?_clear_freed hat)

/-- Removing a note keeps an index consistent. -/
theorem Consistent.remove (h : index.Consistent) (place : Location) :
    (index.remove place).1.Consistent := by
  refine (h.toCoherent.remove place).consistent fun place' s htracked => ?_
  have hbefore : index.tracked? place' = some s := by
    rw [h.tracked?_remove] at htracked
    split at htracked
    case isTrue => exact nomatch htracked
    case isFalse => exact htracked
  by_cases hkept : ∀ r, index.at? place = some r → r.name ≠ s.name
  · rw [h.named?_remove_kept hkept]
    exact h.held hbefore
  · simp only [Classical.not_forall, Decidable.not_not] at hkept
    obtain ⟨r, hat, heq⟩ := hkept
    -- The freed name finds a holder, since this note at least could take it.
    have hgreatest := h.greatest_remove hat
    rw [heq] at hgreatest
    cases hheld : (index.remove place).1.named? s.name with
    | some holder => exact ⟨holder, rfl⟩
    | none =>
      rw [hheld] at hgreatest
      exact absurd rfl (hgreatest place' s htracked)

end Remove

/-! ### Removing several notes -/

theorem Consistent.removeEach (h : index.Consistent) (places : List Location) :
    (index.removeEach places).1.Consistent := by
  induction places generalizing index with
  | nil => exact h
  | cons place places ih => exact ih (h.remove place)

theorem Consistent.tracked?_removeEach (h : index.Consistent) (places : List Location)
    (place : Location) :
    (index.removeEach places).1.tracked? place =
      if place ∈ places then none else index.tracked? place := by
  induction places generalizing index with
  | nil => rfl
  | cons first rest ih =>
    refine (ih (h.remove first)).trans ?_
    rw [h.tracked?_remove]
    by_cases hfirst : place = first <;> by_cases hrest : place ∈ rest <;> simp [hfirst, hrest]

theorem find?_shadowed_unshadowUnder (index : Index) (base place : Location) :
    (index.unshadowUnder base).shadowed.find? place =
      (index.shadowed.find? place).filter fun _ => !base.isPrefixOf place :=
  SortedMap.find?_filter ..

theorem Consistent.unshadowUnder (h : index.Consistent) (base : Location) :
    (index.unshadowUnder base).Consistent := by
  have hrest (place : Location) (r : Record)
      (hr : (index.unshadowUnder base).shadowed.find? place = some r) :
      index.shadowed.find? place = some r := by
    rw [find?_shadowed_unshadowUnder] at hr
    exact Option.eq_some_of_filter_eq_some hr
  exact { h.toCoherent.dropShadowed hrest with
    shadowed_held := fun hr => h.shadowed_held (hrest _ _ hr) }

theorem mem_placesUnder (h : index.Coherent) {base place : Location} :
    place ∈ index.placesUnder base ↔
      base.isPrefixOf place = true ∧ ∃ r, index.at? place = some r := by
  rw [placesUnder, List.mem_filter, SortedMap.mem_keys]
  simp only [h.nameByPlace_eq, Option.map_eq_some_iff]
  grind

/-- Removing all notes at and beneath a place keeps an index consistent. -/
theorem Consistent.removeUnder (h : index.Consistent) (base : Location) :
    (index.removeUnder base).1.Consistent :=
  (h.unshadowUnder base).removeEach _

/-- Nothing at or beneath the place is tracked any more, and everything else still is. -/
theorem Consistent.tracked?_removeUnder (h : index.Consistent) (base place : Location) :
    (index.removeUnder base).1.tracked? place =
      if base.isPrefixOf place then none else index.tracked? place := by
  refine ((h.unshadowUnder base).tracked?_removeEach _ place).trans ?_
  have hdropped : (index.unshadowUnder base).tracked? place =
      (index.at? place).or ((index.shadowed.find? place).filter fun _ => !base.isPrefixOf place) :=
    congrArg _ (find?_shadowed_unshadowUnder index base place)
  have hmem : place ∈ index.placesUnder base ↔
      base.isPrefixOf place = true ∧ ∃ r, index.at? place = some r :=
    mem_placesUnder h.toCoherent
  rw [hdropped, tracked?]
  by_cases hunder : base.isPrefixOf place = true
  · cases hat : index.at? place with
    | none => cases index.shadowed.find? place <;> simp [hunder, Option.filter]
    | some r => simp [hunder, hmem.mpr ⟨hunder, r, hat⟩]
  · have hnot : place ∉ index.placesUnder base := fun h => hunder (hmem.mp h).1
    cases index.shadowed.find? place <;> simp [hunder, hnot, Option.filter]

/-! ### Every index that is reached -/

/-- A change of an index at one place. -/
inductive Edit where
  /-- Insert a note in place of the one at its place. -/
  | insert (r : Record)
  /-- Remove the note at a place. -/
  | remove (place : Location)

/-- A change of an index. -/
inductive Operation where
  /-- A change at one place. -/
  | edit (e : Edit)
  /-- Remove all notes at and beneath a place. -/
  | removeUnder (base : Location)

/-- Change an index at one place; says whether what is visible changed. -/
def Edit.apply (index : Index) : Edit → Index × Bool
  | insert r => index.insert r
  | remove place => index.remove place

/-- Change an index; says whether what is visible changed. -/
def Operation.apply (index : Index) : Operation → Index × Bool
  | edit e => e.apply index
  | removeUnder base => index.removeUnder base

/-- Change an index several times. -/
def Operation.run (index : Index) (ops : List Operation) : Index :=
  ops.foldl (fun index op => (op.apply index).1) index

theorem Consistent.edit (h : index.Consistent) (e : Edit) : (e.apply index).1.Consistent := by
  cases e with
  | insert r => exact h.insert r
  | remove place => exact h.remove place

theorem Consistent.apply (h : index.Consistent) (op : Operation) :
    (op.apply index).1.Consistent := by
  cases op with
  | edit e => exact h.edit e
  | removeUnder base => exact h.removeUnder base

theorem Consistent.run (h : index.Consistent) (ops : List Operation) :
    (Operation.run index ops).Consistent := by
  induction ops generalizing index with
  | nil => exact h
  | cons op ops ih => exact ih (h.apply op)

/-- Whatever is inserted and removed, an index that was empty at first is consistent: the notes by
    name and the names by place are inverse to each other, the table of tags holds the tags of the
    visible notes and nothing else, and a shadowed note is kept at its own place, where no note is
    visible, while its name is held by a visible note. -/
theorem Operation.consistent_run (root : Option Path) (policy : NamingPolicy)
    (ops : List Operation) : (Operation.run { root, policy } ops).Consistent :=
  (consistent_empty root policy).run ops

end Index

end WikiNotes
