import Mathlib.Data.Finset.Card
import Mathlib.Data.Set.Card
import WikiNotes.Proofs.Index.TagTable
import WikiNotes.Proofs.Path

/-! # The table of tags is a relation of tags and notes

Whatever is added to a table and removed from it, a note carries a tag exactly if the last edit that
mentions both was an addition (`TagTable.LastAdded`).  The table lists this relation: for a tag its
notes in the order of their paths, and all tags with a note by name (`TagTable.Edit.run_lists`).

Two invariants carry this through any edits: no tag is without members (`TagTable.Occupied`), and a
member is kept at its own place (`TagTable.Placed`). -/

namespace WikiNotes.TagTable

/-! ### Edits -/

/-- An edit of a table: a note carries tags, or it does so no more. -/
inductive Edit where
  | add (path : Path) (tags : List String)
  | remove (path : Path) (tags : List String)
deriving DecidableEq, Repr

namespace Edit

/-- The path of the note that an edit is about. -/
def path : Edit → Path
  | add path _ => path
  | remove path _ => path

/-- The tags that an edit is about. -/
def tags : Edit → List String
  | add _ tags => tags
  | remove _ tags => tags

/-- Whether an edit is an addition. -/
def isAdd : Edit → Bool
  | add .. => true
  | remove .. => false

/-- Whether an edit is about a tag and the note at a path, however the path is spelled. -/
def mentions (edit : Edit) (tag : String) (path : Path) : Bool :=
  path.same edit.path && edit.tags.contains tag

/-- Apply an edit to a table. -/
def perform (table : TagTable) : Edit → TagTable
  | add path tags => table.add path tags
  | remove path tags => table.remove path.location tags

/-- The table after edits. -/
def run (edits : List Edit) : TagTable := edits.foldl perform {}

end Edit

/-- The last edit that mentions a tag and a path is an addition. -/
def LastAdded (edits : List Edit) (tag : String) (path : Path) : Prop :=
  ∃ last, (edits.filter (·.mentions tag path)).getLast? = some last ∧ last.isAdd = true

variable {table : TagTable} {edits : List Edit} {edit : Edit} {tag : String} {path : Path}

theorem Edit.mentions_iff :
    edit.mentions tag path = true ↔ path.location = edit.path.location ∧ tag ∈ edit.tags := by
  simp [mentions, Path.same]

/-- The last of several edits decides if it mentions the tag and the path. -/
theorem lastAdded_concat :
    LastAdded (edits ++ [edit]) tag path ↔
      if edit.mentions tag path then edit.isAdd = true else LastAdded edits tag path := by
  rw [LastAdded, List.filter_append]
  cases hmentions : edit.mentions tag path <;> simp [hmentions, LastAdded]

theorem Edit.run_concat (edits : List Edit) (edit : Edit) :
    run (edits ++ [edit]) = edit.perform (run edits) := by
  rw [run, List.foldl_append]
  rfl

/-! ### The members of a tag -/

/-- An edit decides about the tags and the note that it mentions and about nothing else. -/
theorem contains_perform :
    ((edit.perform table).membersOf tag).contains path.location =
      if edit.mentions tag path then edit.isAdd
      else (table.membersOf tag).contains path.location := by
  simp only [SortedMap.contains, Edit.mentions_iff]
  cases edit with
  | add path' tags =>
    rw [Edit.perform, find?_membersOf_add, Edit.path, Edit.tags]
    split <;> rfl
  | remove path' tags =>
    rw [Edit.perform, find?_membersOf_remove, Edit.path, Edit.tags]
    split <;> rfl

/-- After any edits the members of a tag are the notes that were added to it last. -/
theorem contains_run :
    ((Edit.run edits).membersOf tag).contains path.location = true ↔
      LastAdded edits tag path := by
  induction edits using List.reverseRecOn with
  | nil => simp [LastAdded, Edit.run, membersOf, SortedMap.contains]
  | append_singleton edits edit ih =>
    rw [Edit.run_concat, contains_perform, lastAdded_concat]
    split
    case isTrue => rfl
    case isFalse => exact ih

theorem Occupied.perform (h : table.Occupied) (edit : Edit) : (edit.perform table).Occupied := by
  cases edit with
  | add path tags => exact h.add path tags
  | remove path tags => exact h.remove path.location tags

/-- The members of a tag are kept at their own places. -/
def Placed (table : TagTable) : Prop :=
  ∀ tag place path, (table.membersOf tag).find? place = some path → path.location = place

theorem Placed.perform (h : table.Placed) (edit : Edit) : (edit.perform table).Placed := by
  intro tag place path hmember
  cases edit with
  | add path' tags =>
    rw [Edit.perform, find?_membersOf_add] at hmember
    split at hmember
    case isFalse => exact h tag place path hmember
    case isTrue hadded =>
      -- The note that is added gets there only if nothing is at its place yet.
      cases hfind : (table.membersOf tag).find? place with
      | none =>
        rw [hfind] at hmember
        exact Option.some.inj hmember ▸ hadded.1.symm
      | some first =>
        rw [hfind] at hmember
        exact Option.some.inj hmember ▸ h tag place first hfind
  | remove path' tags =>
    rw [Edit.perform, find?_membersOf_remove] at hmember
    split at hmember
    case isTrue => exact nomatch hmember
    case isFalse => exact h tag place path hmember

/-- Both invariants hold after any edits. -/
theorem occupied_placed_run (edits : List Edit) :
    (Edit.run edits).Occupied ∧ (Edit.run edits).Placed := by
  induction edits using List.reverseRecOn with
  | nil => exact ⟨occupied_empty, fun _ _ _ h => nomatch h⟩
  | append_singleton edits edit ih =>
    rw [Edit.run_concat]
    exact ⟨ih.1.perform edit, ih.2.perform edit⟩

/-! ### What is listed -/

/-- The notes of a tag are in strict order of their paths. -/
theorem Placed.pairwise_notes (h : table.Placed) (tag : String) :
    (table.notes tag).Pairwise fun p q => p.order q = .lt := by
  have hplace : ∀ entry ∈ (table.membersOf tag).entries, entry.2.location = entry.1 :=
    fun entry hentry => h tag entry.1 entry.2 (SortedMap.find?_eq_some_iff.mpr hentry)
  refine List.pairwise_map.mpr ((table.membersOf tag).ascending.imp_of_mem ?_)
  intro a b ha hb hlt
  rwa [Path.order, hplace a ha, hplace b hb]

/-- A note is listed for a tag exactly if there is a member at its place. -/
theorem Placed.exists_mem_notes_iff (h : table.Placed) :
    (∃ listed ∈ table.notes tag, listed.same path = true) ↔
      (table.membersOf tag).contains path.location = true := by
  rw [SortedMap.contains_eq_true_iff]
  constructor
  · rintro ⟨listed, hlisted, hsame⟩
    obtain ⟨place, hmember⟩ := SortedMap.mem_values.mp hlisted
    rw [← beq_iff_eq.mp hsame, h tag place listed hmember]
    exact ⟨listed, hmember⟩
  · rintro ⟨listed, hmember⟩
    exact ⟨listed, SortedMap.mem_values.mpr ⟨_, hmember⟩,
      beq_iff_eq.mpr (h tag _ listed hmember)⟩

/-- A tag is in a table exactly if some note is a member of it. -/
theorem Occupied.mem_keys_iff_contains (h : table.Occupied) (hplaced : table.Placed) :
    tag ∈ table.members.keys ↔
      ∃ path : Path, (table.membersOf tag).contains path.location = true := by
  simp only [h.mem_keys_iff, SortedMap.contains_eq_true_iff]
  constructor
  · rintro ⟨place, path, hmember⟩
    have hat : path.location = place := hplaced tag place path hmember
    exact ⟨path, path, hat.symm ▸ hmember⟩
  · rintro ⟨path, listed, hmember⟩
    exact ⟨path.location, listed, hmember⟩

theorem map_name_all (table : TagTable) : table.all.map TagInfo.name = table.members.keys := by
  rw [all, List.map_map]
  rfl

/-- After any edits a table lists the relation of the tags and the notes that were added to them
    last: for every tag the notes in strict order of their paths, and by name exactly the tags with
    a note, each with its notes and their number. -/
theorem Edit.run_lists (edits : List Edit) :
    (∀ tag, ((run edits).notes tag).Pairwise (fun p q => p.order q = .lt) ∧
      ∀ path, (∃ listed ∈ (run edits).notes tag, listed.same path = true) ↔
        LastAdded edits tag path) ∧
    (run edits).all.Pairwise (fun a b => compare a.name b.name = .lt) ∧
    (∀ info, info ∈ (run edits).all ↔
      (∃ path, LastAdded edits info.name path) ∧ info.notes = (run edits).notes info.name ∧
        info.count = info.notes.length) ∧
    (run edits).size = {tag | ∃ path, LastAdded edits tag path}.ncard := by
  obtain ⟨hoccupied, hplaced⟩ := occupied_placed_run edits
  have hkeys (tag : String) :
      tag ∈ (run edits).members.keys ↔ ∃ path, LastAdded edits tag path := by
    simp only [hoccupied.mem_keys_iff_contains hplaced, contains_run]
  have hascending := (run edits).members.keys_ascending
  refine ⟨fun tag => ⟨hplaced.pairwise_notes tag, fun path => ?_⟩, ?_, fun info => ?_, ?_⟩
  · rw [hplaced.exists_mem_notes_iff, contains_run]
  · rwa [← map_name_all, List.pairwise_map] at hascending
  · rw [mem_all_iff, hkeys]
  · -- The tags in the table are the ones that are counted, and each of them is in it once.
    have hnodup : (run edits).members.keys.Nodup :=
      hascending.imp fun {a b} hlt heq => by simp [heq] at hlt
    have hset : {tag | ∃ path, LastAdded edits tag path} =
        ((run edits).members.keys.toFinset : Set String) := by
      ext tag
      simp [hkeys]
    rw [hset, Set.ncard_coe_finset, List.toFinset_card_of_nodup hnodup, SortedMap.length_keys]
    rfl

end WikiNotes.TagTable
