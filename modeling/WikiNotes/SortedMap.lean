/-! # Sorted maps and sorted lists

A finite map as the list of its entries in ascending order of the keys.  The order is carried as a
proof field, so a map has exactly one representation: two maps with the same look-ups are equal
(`SortedMap.ext_find?`), and what a map was built from leaves no trace in it.

The view of a map is `find?`, and each operation has one lemma about it:

* `find?_empty`   nothing is found in the empty map
* `find?_insert`  the inserted key has the inserted value, every other key what it had before
* `find?_erase`   the erased key has no value, every other key what it had before
* `find?_filter`  an entry is found if it was there and passes the test

`sortBy` sorts a list by a comparison and keeps equal elements in their order. -/

namespace WikiNotes

/-! ### Sorting -/

/-- Insert an element in front of the first one that does not precede it. -/
def insertBy {α : Type} (cmp : α → α → Ordering) (a : α) : List α → List α
  | [] => [a]
  | b :: rest => if (cmp a b).isLE then a :: b :: rest else b :: insertBy cmp a rest

/-- Sort a list by a comparison; elements that compare as equal keep their order. -/
def sortBy {α : Type} (cmp : α → α → Ordering) (xs : List α) : List α :=
  xs.foldr (insertBy cmp) []

/-! ### Entries in ascending order -/

/-- The keys of a list of entries are strictly ascending. -/
def Ascending {κ α : Type} [Ord κ] (entries : List (κ × α)) : Prop :=
  entries.Pairwise fun a b => compare a.1 b.1 = .lt

/-- A finite map, given by its entries in ascending order of the keys. -/
structure SortedMap (κ α : Type) [Ord κ] where
  /-- The entries. -/
  entries : List (κ × α)
  /-- Their keys are strictly ascending. -/
  ascending : Ascending entries

namespace SortedMap

variable {κ α : Type} [Ord κ]

theorem ext_entries {m n : SortedMap κ α} (h : m.entries = n.entries) : m = n := by
  cases m
  cases n
  cases h
  rfl

instance [DecidableEq κ] [DecidableEq α] : DecidableEq (SortedMap κ α) := fun m n =>
  decidable_of_iff (m.entries = n.entries) ⟨ext_entries, fun h => h ▸ rfl⟩

instance [Repr κ] [Repr α] : Repr (SortedMap κ α) := ⟨fun m _ => repr m.entries⟩

/-- The value of a key in a list of entries. -/
def lookup (k : κ) : List (κ × α) → Option α
  | [] => none
  | (k', v) :: rest => if compare k k' = .eq then some v else lookup k rest

/-- Put an entry at its place in a list of entries, in place of one with the same key. -/
def place (k : κ) (v : α) : List (κ × α) → List (κ × α)
  | [] => [(k, v)]
  | (k', v') :: rest =>
    match compare k k' with
    | .lt => (k, v) :: (k', v') :: rest
    | .eq => (k, v) :: rest
    | .gt => (k', v') :: place k v rest

theorem mem_place {k : κ} {v : α} {e : κ × α} :
    ∀ {entries : List (κ × α)}, e ∈ place k v entries → e = (k, v) ∨ e ∈ entries
  | [], h => by simpa [place] using h
  | (k', v') :: rest, h => by
    simp only [place] at h
    split at h
    · simpa using h
    · rcases List.mem_cons.mp h with rfl | h
      · exact .inl rfl
      · exact .inr (List.mem_cons_of_mem _ h)
    · rcases List.mem_cons.mp h with rfl | h
      · exact .inr (List.mem_cons_self ..)
      · rcases mem_place h with rfl | h
        · exact .inl rfl
        · exact .inr (List.mem_cons_of_mem _ h)

theorem ascending_place [Std.TransOrd κ] (k : κ) (v : α) :
    ∀ {entries : List (κ × α)}, Ascending entries → Ascending (place k v entries)
  | [], _ => List.pairwise_singleton ..
  | (k', v') :: rest, h => by
    obtain ⟨hhead, hrest⟩ := List.pairwise_cons.mp h
    simp only [place]
    split
    case h_1 hlt =>
      refine List.pairwise_cons.mpr ⟨fun e he => ?_, h⟩
      rcases List.mem_cons.mp he with rfl | he
      · exact hlt
      · exact Std.TransCmp.lt_trans hlt (hhead e he)
    case h_2 heq =>
      refine List.pairwise_cons.mpr ⟨fun e he => ?_, hrest⟩
      exact Std.TransCmp.lt_of_eq_of_lt heq (hhead e he)
    case h_3 hgt =>
      refine List.pairwise_cons.mpr ⟨fun e he => ?_, ascending_place k v hrest⟩
      rcases mem_place he with rfl | he
      · exact Std.OrientedCmp.gt_iff_lt.mp hgt
      · exact hhead e he

/-! ### Operations -/

/-- The map without entries. -/
def empty : SortedMap κ α := ⟨[], List.Pairwise.nil⟩

instance : EmptyCollection (SortedMap κ α) := ⟨empty⟩

instance : Inhabited (SortedMap κ α) := ⟨empty⟩

/-- The value of a key. -/
def find? (m : SortedMap κ α) (k : κ) : Option α := lookup k m.entries

/-- Whether a key has a value. -/
def contains (m : SortedMap κ α) (k : κ) : Bool := (m.find? k).isSome

/-- Give a key a value, in place of the one it had. -/
def insert [Std.TransOrd κ] (m : SortedMap κ α) (k : κ) (v : α) : SortedMap κ α :=
  ⟨place k v m.entries, ascending_place k v m.ascending⟩

/-- Keep the entries that pass a test. -/
def filter (m : SortedMap κ α) (p : κ → α → Bool) : SortedMap κ α :=
  ⟨m.entries.filter fun e => p e.1 e.2, m.ascending.filter _⟩

/-- Take the value of a key away. -/
def erase (m : SortedMap κ α) (k : κ) : SortedMap κ α :=
  m.filter fun k' _ => compare k k' ≠ .eq

/-- The keys in ascending order. -/
def keys (m : SortedMap κ α) : List κ := m.entries.map Prod.fst

/-- The values in the order of their keys. -/
def values (m : SortedMap κ α) : List α := m.entries.map Prod.snd

/-- How many keys have a value. -/
def size (m : SortedMap κ α) : Nat := m.entries.length

/-- Whether no key has a value. -/
def isEmpty (m : SortedMap κ α) : Bool := m.entries.isEmpty

/-- The map of a list of entries; of two with one key the later counts. -/
def ofList [Std.TransOrd κ] (entries : List (κ × α)) : SortedMap κ α :=
  entries.foldl (fun m e => m.insert e.1 e.2) empty

/-! ### Look-ups after an operation -/

@[simp] theorem find?_empty (k : κ) : (empty : SortedMap κ α).find? k = none := rfl

theorem lookup_eq_none_of_lt [Std.TransOrd κ] {k : κ} :
    ∀ {entries : List (κ × α)}, (∀ e ∈ entries, compare k e.1 = .lt) → lookup k entries = none
  | [], _ => rfl
  | (k', v) :: rest, h => by
    have hk : compare k k' = .lt := h (k', v) (List.mem_cons_self ..)
    simp only [lookup, hk]
    exact lookup_eq_none_of_lt fun e he => h e (List.mem_cons_of_mem _ he)

theorem lookup_place [Std.TransOrd κ] (k k' : κ) (v : α) :
    ∀ entries : List (κ × α), Ascending entries →
      lookup k' (place k v entries) = if compare k' k = .eq then some v else lookup k' entries
  | [], _ => by simp [place, lookup]
  | (k₁, v₁) :: rest, h => by
    obtain ⟨hhead, hrest⟩ := List.pairwise_cons.mp h
    simp only [place]
    split
    case h_1 => rfl
    case h_2 heq =>
      simp only [lookup]
      by_cases hk : compare k' k = .eq
      · simp [hk]
      · have hk₁ : compare k' k₁ ≠ .eq := fun h₁ =>
          hk (Std.TransCmp.eq_trans h₁ (Std.OrientedCmp.eq_symm heq))
        simp [hk, hk₁]
    case h_3 hgt =>
      simp only [lookup]
      by_cases hk₁ : compare k' k₁ = .eq
      · have hk : compare k' k ≠ .eq := fun hk => by
          have hkk₁ := Std.TransCmp.eq_trans (Std.OrientedCmp.eq_symm hk) hk₁
          simp [hkk₁] at hgt
        simp [hk, hk₁]
      · simp [hk₁, lookup_place k k' v rest hrest]

theorem find?_insert [Std.TransOrd κ] (m : SortedMap κ α) (k k' : κ) (v : α) :
    (m.insert k v).find? k' = if compare k' k = .eq then some v else m.find? k' :=
  lookup_place k k' v m.entries m.ascending

theorem lookup_filter [Std.TransOrd κ] [Std.LawfulEqOrd κ] (p : κ → α → Bool) (k : κ) :
    ∀ entries : List (κ × α), Ascending entries →
      lookup k (entries.filter fun e => p e.1 e.2) = (lookup k entries).filter (p k)
  | [], _ => rfl
  | (k', v) :: rest, h => by
    obtain ⟨hhead, hrest⟩ := List.pairwise_cons.mp h
    have ih := lookup_filter p k rest hrest
    by_cases hk : compare k k' = .eq
    · obtain rfl := Std.LawfulEqCmp.compare_eq_iff_eq.mp hk
      by_cases hp : p k v
      · simp [lookup, hp, Option.filter]
      · have hnone : lookup k rest = none := lookup_eq_none_of_lt hhead
        simp [lookup, hp, Option.filter, ih, hnone]
    · by_cases hp : p k' v
      · simp [lookup, hp, hk, ih]
      · simp [lookup, hp, hk, ih]

theorem find?_filter [Std.TransOrd κ] [Std.LawfulEqOrd κ] (m : SortedMap κ α) (p : κ → α → Bool)
    (k : κ) : (m.filter p).find? k = (m.find? k).filter (p k) :=
  lookup_filter p k m.entries m.ascending

theorem find?_erase [Std.TransOrd κ] [Std.LawfulEqOrd κ] (m : SortedMap κ α) (k k' : κ) :
    (m.erase k).find? k' = if compare k' k = .eq then none else m.find? k' := by
  rw [erase, find?_filter]
  by_cases hk : compare k' k = .eq
  · have hk' : compare k k' = .eq := Std.OrientedCmp.eq_symm hk
    cases m.find? k' <;> simp [Option.filter, hk, hk']
  · have hk' : compare k k' ≠ .eq := fun h => hk (Std.OrientedCmp.eq_symm h)
    cases m.find? k' <;> simp [Option.filter, hk, hk']

/-! ### One representation -/

theorem lookup_eq_some_of_mem [Std.TransOrd κ] {k : κ} {v : α} :
    ∀ {entries : List (κ × α)}, Ascending entries → (k, v) ∈ entries → lookup k entries = some v
  | (k', v') :: rest, h, hmem => by
    obtain ⟨hhead, hrest⟩ := List.pairwise_cons.mp h
    rcases List.mem_cons.mp hmem with heq | hmem
    · cases heq
      simp [lookup]
    · have hlt := hhead _ hmem
      have hne : compare k k' ≠ .eq := fun heq => by
        have hgt := Std.OrientedCmp.gt_iff_lt.mpr hlt
        simp [heq] at hgt
      simp [lookup, hne, lookup_eq_some_of_mem hrest hmem]

theorem mem_of_lookup_eq_some [Std.LawfulEqOrd κ] {k : κ} {v : α} :
    ∀ {entries : List (κ × α)}, lookup k entries = some v → (k, v) ∈ entries
  | (k', v') :: rest, h => by
    by_cases hk : compare k k' = .eq
    · obtain rfl := Std.LawfulEqCmp.compare_eq_iff_eq.mp hk
      simp [lookup] at h
      simp [h]
    · simp [lookup, hk] at h
      exact List.mem_cons_of_mem _ (mem_of_lookup_eq_some h)

/-- What is found in a map are its entries. -/
theorem find?_eq_some_iff [Std.TransOrd κ] [Std.LawfulEqOrd κ] {m : SortedMap κ α} {k : κ} {v : α} :
    m.find? k = some v ↔ (k, v) ∈ m.entries :=
  ⟨mem_of_lookup_eq_some, lookup_eq_some_of_mem m.ascending⟩

theorem eq_of_lookup_eq [Std.TransOrd κ] [Std.LawfulEqOrd κ] :
    ∀ {as bs : List (κ × α)}, Ascending as → Ascending bs →
      (∀ k, lookup k as = lookup k bs) → as = bs
  | [], [], _, _, _ => rfl
  | [], (k, v) :: bs, _, _, h => by simpa [lookup] using h k
  | (k, v) :: as, [], _, _, h => by simpa [lookup] using h k
  | (k, v) :: as, (k', v') :: bs, ha, hb, h => by
    obtain ⟨hahead, harest⟩ := List.pairwise_cons.mp ha
    obtain ⟨hbhead, hbrest⟩ := List.pairwise_cons.mp hb
    have hkk' : compare k k' = .eq := by
      rcases hc : compare k k' with _ | _ | _
      · have hnone : lookup k ((k', v') :: bs) = none := lookup_eq_none_of_lt fun e he => by
          rcases List.mem_cons.mp he with rfl | he
          · exact hc
          · exact Std.TransCmp.lt_trans hc (hbhead e he)
        have hk := h k
        rw [hnone] at hk
        simp [lookup] at hk
      · rfl
      · have hc' := Std.OrientedCmp.gt_iff_lt.mp hc
        have hnone : lookup k' ((k, v) :: as) = none := lookup_eq_none_of_lt fun e he => by
          rcases List.mem_cons.mp he with rfl | he
          · exact hc'
          · exact Std.TransCmp.lt_trans hc' (hahead e he)
        have hk := h k'
        rw [hnone] at hk
        simp [lookup] at hk
    obtain rfl := Std.LawfulEqCmp.compare_eq_iff_eq.mp hkk'
    have hv : v = v' := by simpa [lookup] using h k
    subst hv
    have hrest : as = bs := by
      refine eq_of_lookup_eq harest hbrest fun k₁ => ?_
      by_cases hk₁ : compare k₁ k = .eq
      · obtain rfl := Std.LawfulEqCmp.compare_eq_iff_eq.mp hk₁
        rw [lookup_eq_none_of_lt hahead, lookup_eq_none_of_lt hbhead]
      · simpa [lookup, hk₁] using h k₁
    rw [hrest]

/-- Maps with the same look-ups are equal. -/
theorem ext_find? [Std.TransOrd κ] [Std.LawfulEqOrd κ] {m n : SortedMap κ α}
    (h : ∀ k, m.find? k = n.find? k) : m = n :=
  ext_entries (eq_of_lookup_eq m.ascending n.ascending h)

end SortedMap

/-! ### Sorted sets -/

/-- A finite set, as the map that gives each member the one value there is. -/
abbrev SortedSet (κ : Type) [Ord κ] := SortedMap κ Unit

namespace SortedSet

variable {κ : Type} [Ord κ] [Std.TransOrd κ]

/-- The set of the members of a list. -/
def ofList (ks : List κ) : SortedSet κ :=
  SortedMap.ofList (ks.map fun k => (k, ()))

end SortedSet

end WikiNotes
