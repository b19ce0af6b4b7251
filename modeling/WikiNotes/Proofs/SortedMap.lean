import Mathlib.Data.List.Pairwise
import WikiNotes.SortedMap

/-! # Look-ups, keys and values of sorted maps

The view of a `SortedMap` is `find?`.  Here the other readings of a map are told by that view:
its keys, its values, whether it is empty, and the last of its entries that pass a test.  For keys
whose order tells all of them apart the lemmas about `insert` and `erase` speak of equal keys.

`sortBy` rearranges a list, and a change of the elements that the comparison does not see can be
made before or after sorting. -/

namespace WikiNotes

/-! ### Sorting -/

theorem mem_insertBy {α : Type} {cmp : α → α → Ordering} {a b : α} {xs : List α} :
    a ∈ insertBy cmp b xs ↔ a = b ∨ a ∈ xs := by
  induction xs with
  | nil => simp [insertBy]
  | cons c rest ih =>
    simp only [insertBy]
    split
    · simp
    · simp only [List.mem_cons, ih]
      grind

@[simp] theorem mem_sortBy {α : Type} {cmp : α → α → Ordering} {a : α} {xs : List α} :
    a ∈ sortBy cmp xs ↔ a ∈ xs := by
  induction xs with
  | nil => simp [sortBy]
  | cons b rest ih =>
    have hcons : sortBy cmp (b :: rest) = insertBy cmp b (sortBy cmp rest) := rfl
    rw [hcons, mem_insertBy, ih, List.mem_cons]

theorem perm_insertBy {α : Type} (cmp : α → α → Ordering) (a : α) (xs : List α) :
    (insertBy cmp a xs).Perm (a :: xs) := by
  induction xs with
  | nil => exact .refl _
  | cons b rest ih =>
    simp only [insertBy]
    split
    case isTrue => exact .refl _
    case isFalse => exact (ih.cons b).trans (.swap a b rest)

/-- Sorting rearranges a list. -/
theorem perm_sortBy {α : Type} (cmp : α → α → Ordering) (xs : List α) :
    (sortBy cmp xs).Perm xs := by
  induction xs with
  | nil => exact .refl _
  | cons a rest ih => exact (perm_insertBy cmp a (sortBy cmp rest)).trans (ih.cons a)

theorem pairwise_insertBy {α : Type} {cmp : α → α → Ordering} [Std.TransCmp cmp] {a : α}
    {xs : List α} (h : xs.Pairwise fun b c => (cmp b c).isLE) :
    (insertBy cmp a xs).Pairwise fun b c => (cmp b c).isLE := by
  induction xs with
  | nil => exact List.pairwise_singleton ..
  | cons b rest ih =>
    obtain ⟨hhead, hrest⟩ := List.pairwise_cons.mp h
    simp only [insertBy]
    split
    case isTrue hle =>
      -- What is not before the head of the rest is not before the new head either.
      refine List.pairwise_cons.mpr ⟨fun c hc => ?_, h⟩
      rcases List.mem_cons.mp hc with rfl | hc
      · exact hle
      · exact Std.TransCmp.isLE_trans hle (hhead c hc)
    case isFalse hgt =>
      have hba : (cmp b a).isLE := by
        have hswap : cmp b a = (cmp a b).swap := Std.OrientedCmp.eq_swap
        cases hcmp : cmp a b with
        | lt => simp [hcmp] at hgt
        | eq => simp [hcmp] at hgt
        | gt => simp [hswap, hcmp]
      refine List.pairwise_cons.mpr ⟨fun c hc => ?_, ih hrest⟩
      rcases mem_insertBy.mp hc with rfl | hc
      · exact hba
      · exact hhead c hc

/-- What is sorted is in order. -/
theorem pairwise_sortBy {α : Type} (cmp : α → α → Ordering) [Std.TransCmp cmp] (xs : List α) :
    (sortBy cmp xs).Pairwise fun a b => (cmp a b).isLE := by
  induction xs with
  | nil => exact List.Pairwise.nil
  | cons a rest ih => exact pairwise_insertBy ih

/-- Sorting puts elements that all compare as different into strict order. -/
theorem pairwise_lt_sortBy {α : Type} {cmp : α → α → Ordering} [Std.TransCmp cmp] {xs : List α}
    (h : xs.Pairwise fun a b => cmp a b ≠ .eq) :
    (sortBy cmp xs).Pairwise fun a b => cmp a b = .lt := by
  have hsymm {a b : α} (hne : cmp a b ≠ .eq) : cmp b a ≠ .eq := fun heq =>
    hne (Std.OrientedCmp.eq_symm heq)
  have hne := ((perm_sortBy cmp xs).pairwise_iff hsymm).mpr h
  refine ((pairwise_sortBy cmp xs).and hne).imp fun {a b} ⟨hle, hab⟩ => ?_
  cases hcmp : cmp a b with
  | lt => rfl
  | eq => exact absurd hcmp hab
  | gt => simp [hcmp] at hle

/-- Sorting does not depend on the arrangement if only equal elements compare as equal. -/
theorem sortBy_eq_of_perm_of_eq {α : Type} {cmp : α → α → Ordering} [Std.TransCmp cmp]
    {xs ys : List α} (hperm : xs.Perm ys) (h : ∀ a ∈ xs, ∀ b ∈ xs, cmp a b = .eq → a = b) :
    sortBy cmp xs = sortBy cmp ys := by
  have hsorted : (sortBy cmp xs).Perm (sortBy cmp ys) :=
    (perm_sortBy cmp xs).trans (hperm.trans (perm_sortBy cmp ys).symm)
  refine hsorted.eq_of_pairwise (fun a b ha hb hab hba => ?_) (pairwise_sortBy cmp xs)
    (pairwise_sortBy cmp ys)
  exact h a (mem_sortBy.mp ha) b (hperm.mem_iff.mpr (mem_sortBy.mp hb))
    (Std.OrientedCmp.isLE_antisymm hab hba)

/-- Sorting does not depend on the arrangement if all elements compare as different. -/
theorem sortBy_eq_of_perm {α : Type} {cmp : α → α → Ordering} [Std.TransCmp cmp] {xs ys : List α}
    (hperm : xs.Perm ys) (h : xs.Pairwise fun a b => cmp a b ≠ .eq) :
    sortBy cmp xs = sortBy cmp ys := by
  have : Std.Symm fun a b => cmp a b ≠ .eq := ⟨fun _ _ hne heq => hne (Std.OrientedCmp.eq_symm heq)⟩
  refine sortBy_eq_of_perm_of_eq hperm fun a ha b hb heq => ?_
  by_contra hne
  exact h.forall ha hb hne heq

/-- Sorting leaves a list that is in order as it is. -/
theorem sortBy_eq_self {α : Type} {cmp : α → α → Ordering} {xs : List α}
    (h : xs.Pairwise fun a b => (cmp a b).isLE) : sortBy cmp xs = xs := by
  induction xs with
  | nil => rfl
  | cons a rest ih =>
    obtain ⟨hhead, hrest⟩ := List.pairwise_cons.mp h
    have hcons : sortBy cmp (a :: rest) = insertBy cmp a (sortBy cmp rest) := rfl
    rw [hcons, ih hrest]
    cases rest with
    | nil => rfl
    | cons b rest => rw [insertBy, if_pos (hhead b (List.mem_cons_self ..))]

theorem map_insertBy {α β : Type} {cmp : α → α → Ordering} {cmp' : β → β → Ordering} {f : α → β}
    (h : ∀ a b, cmp' (f a) (f b) = cmp a b) (a : α) (xs : List α) :
    (insertBy cmp a xs).map f = insertBy cmp' (f a) (xs.map f) := by
  induction xs with
  | nil => rfl
  | cons b rest ih =>
    simp only [insertBy, List.map_cons, h]
    split
    · rfl
    · rw [List.map_cons, ih]

/-- Sorting can be done before or after a map that the comparison does not see. -/
theorem map_sortBy {α β : Type} {cmp : α → α → Ordering} {cmp' : β → β → Ordering} {f : α → β}
    (h : ∀ a b, cmp' (f a) (f b) = cmp a b) (xs : List α) :
    (sortBy cmp xs).map f = sortBy cmp' (xs.map f) := by
  induction xs with
  | nil => rfl
  | cons a rest ih =>
    have hcons : sortBy cmp (a :: rest) = insertBy cmp a (sortBy cmp rest) := rfl
    rw [hcons, map_insertBy h, ih]
    rfl

namespace SortedMap

variable {κ α : Type} [Ord κ]

theorem contains_eq_true_iff {m : SortedMap κ α} {k : κ} :
    m.contains k = true ↔ ∃ v, m.find? k = some v :=
  Option.isSome_iff_exists

theorem contains_eq_false_iff {m : SortedMap κ α} {k : κ} :
    m.contains k = false ↔ m.find? k = none := by
  simp [contains]

/-- A map keeps its keys in order. -/
theorem keys_ascending (m : SortedMap κ α) : m.keys.Pairwise fun a b => compare a b = .lt :=
  List.pairwise_map.mpr m.ascending

theorem length_keys (m : SortedMap κ α) : m.keys.length = m.size := List.length_map ..

theorem isEmpty_keys (m : SortedMap κ α) : m.keys.isEmpty = m.isEmpty := List.isEmpty_map

variable [Std.TransOrd κ] [Std.LawfulEqOrd κ]

/-! ### Look-ups by equal keys -/

/-- The inserted key has the inserted value, every other key what it had before. -/
@[grind =] theorem find?_insert_eq [DecidableEq κ] (m : SortedMap κ α) (k k' : κ) (v : α) :
    (m.insert k v).find? k' = if k' = k then some v else m.find? k' := by
  rw [find?_insert]
  simp only [Std.LawfulEqCmp.compare_eq_iff_eq]

/-- The erased key has no value, every other key what it had before. -/
@[grind =] theorem find?_erase_eq [DecidableEq κ] (m : SortedMap κ α) (k k' : κ) :
    (m.erase k).find? k' = if k' = k then none else m.find? k' := by
  rw [find?_erase]
  simp only [Std.LawfulEqCmp.compare_eq_iff_eq]

/-! ### Entries, keys and values -/

theorem mem_keys {m : SortedMap κ α} {k : κ} : k ∈ m.keys ↔ ∃ v, m.find? k = some v := by
  simp only [keys, List.mem_map, Prod.exists, find?_eq_some_iff, exists_eq_right,
    exists_and_right]

theorem mem_values {m : SortedMap κ α} {v : α} : v ∈ m.values ↔ ∃ k, m.find? k = some v := by
  simp only [values, List.mem_map, Prod.exists, find?_eq_some_iff, exists_eq_right]

theorem isEmpty_iff {m : SortedMap κ α} : m.isEmpty = true ↔ ∀ k, m.find? k = none := by
  constructor
  · intro h k
    have hnil : m.entries = [] := List.isEmpty_iff.mp h
    rw [find?, hnil]
    rfl
  · intro h
    refine List.isEmpty_iff.mpr (List.eq_nil_iff_forall_not_mem.mpr fun e he => ?_)
    have hfind : m.find? e.1 = some e.2 := find?_eq_some_iff.mpr he
    simp [h] at hfind

theorem isEmpty_eq_false_iff {m : SortedMap κ α} :
    m.isEmpty = false ↔ ∃ k v, m.find? k = some v := by
  rw [← Bool.not_eq_true, isEmpty_iff]
  simp only [Classical.not_forall, ← Option.isSome_iff_ne_none, Option.isSome_iff_exists]

/-- The entries of a map are those of a list in ascending order with the same members. -/
theorem entries_eq_of_mem_iff {m : SortedMap κ α} {entries : List (κ × α)}
    (h : Ascending entries) (hmem : ∀ e, e ∈ m.entries ↔ e ∈ entries) : m.entries = entries := by
  have heq : m = ⟨entries, h⟩ := ext_find? fun k => Option.ext fun v => by
    rw [find?_eq_some_iff, find?_eq_some_iff]
    exact hmem (k, v)
  rw [heq]

/-- Maps that agree on every key under a function have the same entries under it. -/
theorem map_entries_eq {β γ : Type} {m : SortedMap κ α} {n : SortedMap κ β} {f : α → γ} {g : β → γ}
    (h : ∀ k, (m.find? k).map f = (n.find? k).map g) :
    m.entries.map (fun e => (e.1, f e.2)) = n.entries.map fun e => (e.1, g e.2) := by
  -- Mapping the values does not change at which entry a look-up ends.
  have hlookup {δ : Type} (F : δ → γ) (k : κ) (entries : List (κ × δ)) :
      lookup k (entries.map fun e => (e.1, F e.2)) = (lookup k entries).map F := by
    induction entries with
    | nil => rfl
    | cons e rest ih =>
      simp only [List.map_cons, lookup]
      split
      · rfl
      · exact ih
  refine eq_of_lookup_eq (List.pairwise_map.mpr m.ascending) (List.pairwise_map.mpr n.ascending)
    fun k => ?_
  rw [hlookup, hlookup]
  exact h k

/-- Maps that agree on every key under a function have the same values under it. -/
theorem map_values_eq {β γ : Type} {m : SortedMap κ α} {n : SortedMap κ β} {f : α → γ} {g : β → γ}
    (h : ∀ k, (m.find? k).map f = (n.find? k).map g) : m.values.map f = n.values.map g := by
  have hentries := congrArg (List.map Prod.snd) (map_entries_eq h)
  simpa [values, Function.comp_def] using hentries

/-- Maps that give values to the same keys have the same keys. -/
theorem keys_eq {β : Type} {m : SortedMap κ α} {n : SortedMap κ β}
    (h : ∀ k, m.contains k = n.contains k) : m.keys = n.keys := by
  have hunit (k : κ) : (m.find? k).map (fun _ => ()) = (n.find? k).map fun _ => () := by
    have hk := h k
    simp only [contains] at hk
    cases hm : m.find? k <;> cases hn : n.find? k <;> simp_all
  have hentries := congrArg (List.map Prod.fst) (map_entries_eq hunit)
  simpa [keys, Function.comp_def] using hentries

/-! ### The last entry that passes a test -/

/-- What is found last among the values is the value of a key that no other key with a value that
    passes the test exceeds. -/
theorem greatest_of_find?_reverse_values {m : SortedMap κ α} {p : α → Bool} {v : α}
    (h : m.values.reverse.find? p = some v) :
    ∃ k, m.find? k = some v ∧ p v = true ∧
      ∀ k' v', m.find? k' = some v' → p v' = true → (compare k' k).isLE := by
  have hrev : m.values.reverse.find? p = (m.entries.reverse.find? (p ·.2)).map Prod.snd := by
    rw [values, ← List.map_reverse, List.find?_map]
    rfl
  rw [hrev, Option.map_eq_some_iff] at h
  obtain ⟨⟨k, v⟩, hfind, rfl⟩ := h
  obtain ⟨hp, before, behind, hsplit, hnone⟩ := List.find?_eq_some_iff_append.mp hfind
  have hentries : m.entries = behind.reverse ++ (k, v) :: before.reverse := by
    rw [← List.reverse_reverse m.entries, hsplit]
    simp
  refine ⟨k, find?_eq_some_iff.mpr (by simp [hentries]), hp, fun k' v' hk' hp' => ?_⟩
  have hmem : (k', v') ∈ behind.reverse ++ (k, v) :: before.reverse :=
    hentries ▸ find?_eq_some_iff.mp hk'
  have hasc := m.ascending
  rw [hentries] at hasc
  obtain ⟨-, -, hcross⟩ := List.pairwise_append.mp hasc
  -- An entry behind the found one would have been found first.
  rcases List.mem_append.mp hmem with hmem | hmem
  · have hlt : compare k' k = .lt := hcross _ hmem (k, v) (List.mem_cons_self ..)
    simp [hlt]
  · rcases List.mem_cons.mp hmem with heq | hmem
    · cases heq
      simp
    · have hno := hnone (k', v') (List.mem_reverse.mp hmem)
      simp [hp'] at hno

/-- What is found last among the values is the value of the greatest key that passes the test. -/
theorem find?_reverse_values_eq_some_iff {m : SortedMap κ α} {p : α → Bool} {v : α} :
    m.values.reverse.find? p = some v ↔
      ∃ k, m.find? k = some v ∧ p v = true ∧
        ∀ k' v', m.find? k' = some v' → p v' = true → (compare k' k).isLE := by
  refine ⟨greatest_of_find?_reverse_values, fun ⟨k, hk, hp, hmax⟩ => ?_⟩
  have hsome : (m.values.reverse.find? p).isSome :=
    List.find?_isSome.mpr ⟨v, List.mem_reverse.mpr (mem_values.mpr ⟨k, hk⟩), hp⟩
  obtain ⟨v', hfind⟩ := Option.isSome_iff_exists.mp hsome
  -- What is found is at a greatest key too, and there is only one.
  obtain ⟨k', hk', hp', hmax'⟩ := greatest_of_find?_reverse_values hfind
  have heq : compare k k' = .eq :=
    Std.OrientedCmp.isLE_antisymm (hmax' k v hk hp) (hmax k' v' hk' hp')
  obtain rfl := Std.LawfulEqCmp.compare_eq_iff_eq.mp heq
  rw [hfind, ← hk', hk]

theorem find?_reverse_values_eq_none_iff {m : SortedMap κ α} {p : α → Bool} :
    m.values.reverse.find? p = none ↔ ∀ k v, m.find? k = some v → p v = false := by
  simp only [List.find?_eq_none, List.mem_reverse, mem_values, Bool.not_eq_true]
  grind

/-- The last key is the greatest one. -/
theorem getLast?_keys_eq_some_iff {m : SortedMap κ α} {k : κ} :
    m.keys.getLast? = some k ↔
      (∃ v, m.find? k = some v) ∧ ∀ k' v', m.find? k' = some v' → (compare k' k).isLE := by
  have hmax {k : κ} (h : m.keys.getLast? = some k) (k' : κ) (v' : α)
      (hk' : m.find? k' = some v') : (compare k' k).isLE := by
    obtain ⟨front, hfront⟩ := List.getLast?_eq_some_iff.mp h
    have hasc := m.keys_ascending
    have hmem : k' ∈ m.keys := mem_keys.mpr ⟨v', hk'⟩
    rw [hfront] at hasc hmem
    obtain ⟨-, -, hcross⟩ := List.pairwise_append.mp hasc
    rcases List.mem_append.mp hmem with hmem | hmem
    · have hlt : compare k' k = .lt := hcross k' hmem k (List.mem_singleton.mpr rfl)
      simp [hlt]
    · rw [List.mem_singleton.mp hmem]
      simp
  refine ⟨fun h => ⟨mem_keys.mp (List.mem_of_getLast? h), hmax h⟩, fun ⟨⟨v, hk⟩, hle⟩ => ?_⟩
  cases hlast : m.keys.getLast? with
  | none =>
    have hmem : k ∈ m.keys := mem_keys.mpr ⟨v, hk⟩
    rw [List.getLast?_eq_none_iff.mp hlast] at hmem
    exact nomatch hmem
  | some k' =>
    obtain ⟨v', hk'⟩ := mem_keys.mp (List.mem_of_getLast? hlast)
    have heq : compare k' k = .eq :=
      Std.OrientedCmp.isLE_antisymm (hle k' v' hk') (hmax hlast k v hk)
    rw [Std.LawfulEqCmp.compare_eq_iff_eq.mp heq]

end SortedMap

/-! ### Sorted sets -/

/-- The members of the set of a list are those of the list. -/
theorem SortedSet.mem_keys_ofList {κ : Type} [Ord κ] [Std.TransOrd κ] [Std.LawfulEqOrd κ]
    [DecidableEq κ] {k : κ} {ks : List κ} : k ∈ (SortedSet.ofList ks).keys ↔ k ∈ ks := by
  have hfold (s : SortedSet κ) : k ∈ ((ks.map fun k => (k, ())).foldl
      (fun m e => m.insert e.1 e.2) s).keys ↔ k ∈ s.keys ∨ k ∈ ks := by
    induction ks generalizing s with
    | nil => simp
    | cons k' rest ih =>
      rw [List.map_cons, List.foldl_cons, ih, SortedMap.mem_keys, SortedMap.mem_keys]
      simp only [SortedMap.find?_insert_eq, List.mem_cons]
      by_cases hk : k = k' <;> simp [hk]
  simpa [SortedSet.ofList, SortedMap.ofList, SortedMap.keys, SortedMap.empty] using hfold .empty

end WikiNotes
