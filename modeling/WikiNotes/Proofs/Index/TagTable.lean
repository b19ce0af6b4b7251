import WikiNotes.Index.TagTable
import WikiNotes.Proofs.SortedMap

/-! # What the table of tags holds

The view of a `TagTable` is whether a place is among the members of a tag, and with which path
(`(table.membersOf tag).find? place`).  `add` and `remove` change it at the given place and for the
given tags only, and neither leaves a tag without members behind (`Occupied`). -/

namespace WikiNotes

namespace TagTable

/-- No tag of a table is without members. -/
def Occupied (table : TagTable) : Prop :=
  ∀ tag members, table.members.find? tag = some members → members.isEmpty = false

theorem occupied_empty : ({} : TagTable).Occupied := fun _ _ h => nomatch h

/-! ### One tag -/

theorem find?_membersOf_addTag (path : Path) (table : TagTable) (tag tag' : String)
    (place : Location) :
    ((addTag path table tag).membersOf tag').find? place =
      if place = path.location ∧ tag' = tag then
        some (((table.membersOf tag').find? place).getD path)
      else (table.membersOf tag').find? place := by
  simp only [addTag]
  split
  case isTrue h =>
    obtain ⟨path', hpath'⟩ := SortedMap.contains_eq_true_iff.mp h
    split
    case isTrue heq =>
      obtain ⟨rfl, rfl⟩ := heq
      rw [hpath']
      rfl
    case isFalse => rfl
  case isFalse h =>
    have hnone := SortedMap.contains_eq_false_iff.mp (Bool.not_eq_true _ ▸ h)
    by_cases htag : tag' = tag
    · subst htag
      by_cases hplace : place = path.location
      · subst hplace
        simp [membersOf, SortedMap.find?_insert_eq] at hnone ⊢
        simp [hnone]
      · simp [membersOf, SortedMap.find?_insert_eq, hplace]
    · simp [membersOf, SortedMap.find?_insert_eq, htag]

theorem find?_membersOf_removeTag (place : Location) (table : TagTable) (tag tag' : String)
    (place' : Location) :
    ((removeTag place table tag).membersOf tag').find? place' =
      if place' = place ∧ tag' = tag then none else (table.membersOf tag').find? place' := by
  by_cases htag : tag' = tag
  case neg =>
    simp only [removeTag]
    split <;> simp [membersOf, SortedMap.find?_erase_eq, SortedMap.find?_insert_eq, htag]
  case pos =>
    subst htag
    -- A tag that loses its last member goes, which leaves it with none just the same.
    have hmembers : ((removeTag place table tag').membersOf tag').find? place' =
        ((table.membersOf tag').erase place).find? place' := by
      simp only [removeTag]
      split
      case isTrue h =>
        rw [SortedMap.isEmpty_iff.mp h]
        simp [membersOf, SortedMap.find?_erase_eq]
      case isFalse => simp [membersOf, SortedMap.find?_insert_eq]
    rw [hmembers, SortedMap.find?_erase_eq]
    simp

theorem Occupied.addTag {table : TagTable} (h : table.Occupied) (path : Path) (tag : String) :
    (addTag path table tag).Occupied := by
  intro tag' members hmembers
  simp only [TagTable.addTag] at hmembers
  split at hmembers
  case isTrue => exact h tag' members hmembers
  case isFalse =>
    rw [SortedMap.find?_insert_eq] at hmembers
    split at hmembers
    case isTrue =>
      obtain rfl := Option.some.inj hmembers
      exact SortedMap.isEmpty_eq_false_iff.mpr
        ⟨path.location, path, by simp [SortedMap.find?_insert_eq]⟩
    case isFalse => exact h tag' members hmembers

theorem Occupied.removeTag {table : TagTable} (h : table.Occupied) (place : Location)
    (tag : String) : (removeTag place table tag).Occupied := by
  intro tag' members hmembers
  simp only [TagTable.removeTag] at hmembers
  split at hmembers
  case isTrue =>
    rw [SortedMap.find?_erase_eq] at hmembers
    split at hmembers
    case isTrue => exact nomatch hmembers
    case isFalse => exact h tag' members hmembers
  case isFalse hne =>
    rw [SortedMap.find?_insert_eq] at hmembers
    split at hmembers
    case isTrue =>
      obtain rfl := Option.some.inj hmembers
      exact Bool.not_eq_true _ ▸ hne
    case isFalse => exact h tag' members hmembers

/-! ### All tags of a note -/

/-- A note that is added becomes a member of its tags with its path, unless its place is a member
    already; nothing else changes. -/
theorem find?_membersOf_add (table : TagTable) (path : Path) (tags : List String) (tag : String)
    (place : Location) :
    ((table.add path tags).membersOf tag).find? place =
      if place = path.location ∧ tag ∈ tags then
        some (((table.membersOf tag).find? place).getD path)
      else (table.membersOf tag).find? place := by
  induction tags generalizing table with
  | nil => simp [add]
  | cons first rest ih =>
    have hcons : table.add path (first :: rest) = (addTag path table first).add path rest := rfl
    rw [hcons, ih, find?_membersOf_addTag]
    by_cases hplace : place = path.location <;> by_cases htag : tag = first <;>
      by_cases hrest : tag ∈ rest <;> simp [hplace, htag, hrest]

/-- A place that is removed is a member of none of the tags any more; nothing else changes. -/
theorem find?_membersOf_remove (table : TagTable) (place : Location) (tags : List String)
    (tag : String) (place' : Location) :
    ((table.remove place tags).membersOf tag).find? place' =
      if place' = place ∧ tag ∈ tags then none else (table.membersOf tag).find? place' := by
  induction tags generalizing table with
  | nil => simp [remove]
  | cons first rest ih =>
    have hcons : table.remove place (first :: rest) =
        (removeTag place table first).remove place rest := rfl
    rw [hcons, ih, find?_membersOf_removeTag]
    grind

theorem Occupied.add {table : TagTable} (h : table.Occupied) (path : Path) (tags : List String) :
    (table.add path tags).Occupied := by
  induction tags generalizing table with
  | nil => exact h
  | cons first rest ih => exact ih (h.addTag path first)

theorem Occupied.remove {table : TagTable} (h : table.Occupied) (place : Location)
    (tags : List String) : (table.remove place tags).Occupied := by
  induction tags generalizing table with
  | nil => exact h
  | cons first rest ih => exact ih (h.removeTag place first)

/-! ### Tags without members -/

/-- A table without idle tags holds exactly the tags with members. -/
theorem Occupied.find?_members {table : TagTable} (h : table.Occupied) (tag : String) :
    table.members.find? tag =
      if (table.membersOf tag).isEmpty then none else some (table.membersOf tag) := by
  rw [membersOf]
  cases hfind : table.members.find? tag with
  | none => rfl
  | some members => rw [Option.getD_some, h tag members hfind, if_neg Bool.false_ne_true]

/-! ### The listing -/

variable {table : TagTable} {tag : String}

theorem membersOf_eq {members : SortedMap Location Path}
    (h : table.members.find? tag = some members) : table.membersOf tag = members := by
  rw [membersOf, h, Option.getD_some]

/-- The tags of a table without idle tags are those with a member. -/
theorem Occupied.mem_keys_iff (h : table.Occupied) :
    tag ∈ table.members.keys ↔ ∃ place path, (table.membersOf tag).find? place = some path := by
  rw [SortedMap.mem_keys, h.find?_members, ← SortedMap.isEmpty_eq_false_iff]
  cases (table.membersOf tag).isEmpty <;> simp

/-- All tags of a table are listed with their notes. -/
theorem mem_all_iff {info : TagInfo} :
    info ∈ table.all ↔
      info.name ∈ table.members.keys ∧ info.notes = table.notes info.name ∧
        info.count = info.notes.length := by
  simp only [all, List.mem_map, SortedMap.mem_keys, Prod.exists, ← SortedMap.find?_eq_some_iff]
  constructor
  · rintro ⟨name, members, hmembers, rfl⟩
    refine ⟨⟨members, hmembers⟩, ?_, (List.length_map ..).symm⟩
    rw [notes, membersOf_eq hmembers]
  · rintro ⟨⟨members, hmembers⟩, hnotes, hcount⟩
    rw [notes, membersOf_eq hmembers] at hnotes
    refine ⟨info.name, members, hmembers, ?_⟩
    obtain ⟨name, count, listed⟩ := info
    obtain rfl : listed = members.values := hnotes
    obtain rfl : count = members.values.length := hcount
    rw [SortedMap.size, SortedMap.values, List.length_map]

end TagTable

end WikiNotes
