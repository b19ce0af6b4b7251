import WikiNotes.Index.LinkGraph
import WikiNotes.Proofs.Index.Agreement

/-! # What the answers of an index are taken from

Questions about the visible notes are answered from the policy, the two maps of the visible notes
and the table of tags (`Index.View`).  The shadowed notes play no part, nor does when the index was
built.  Indexes with one view give the same answers, down to the spelling of the paths
(`sameAnswers_of_view_eq`).

The view of a coherent index follows from who holds which name (`Coherent.view_eq`), so a step that
leaves every name with its holder is not seen. -/

namespace WikiNotes

namespace Index

/-- What an index shows. -/
structure View where
  policy : NamingPolicy
  byName : SortedMap String Record
  nameByPlace : SortedMap Location String
  tags : TagTable
deriving DecidableEq

/-- What an index shows. -/
def view (index : Index) : View := ⟨index.policy, index.byName, index.nameByPlace, index.tags⟩

/-- Two indexes answer every question in the same way. -/
structure SameAnswers (index other : Index) : Prop where
  /-- The same notes are listed. -/
  documents : index.sortedRecords = other.sortedRecords
  /-- The same note is at every place. -/
  located (place : Location) : index.at? place = other.at? place
  /-- The same note has every canonical name. -/
  named (name : String) : index.named? name = other.named? name
  /-- Every target leads to the same note. -/
  resolved (target : String) : index.resolve? target = other.resolve? target
  /-- Every reference leads to the same heading. -/
  referenced (reference : String) :
    index.resolveReference? reference = other.resolveReference? reference
  /-- The same tags are listed with the same notes. -/
  tags : index.tags.all = other.tags.all
  /-- The same notes carry every tag. -/
  tagged (tag : String) : index.tags.notes tag = other.tags.notes tag
  /-- The same notes link to every place. -/
  backlinks (place : Location) : index.backlinks place = other.backlinks place
  /-- The same notes and links are in the graph. -/
  graph : index.graph = other.graph
  /-- The same links are broken. -/
  brokenLinks : index.brokenLinks = other.brokenLinks

variable {index other : Index}

/-- What is answered is taken from what is shown. -/
theorem sameAnswers_of_view_eq (h : index.view = other.view) : SameAnswers index other := by
  obtain ⟨root, policy, byName, nameByPlace, tags, shadowed, rebuiltAt, scanIssues⟩ := index
  obtain ⟨root', policy', byName', nameByPlace', tags', shadowed', rebuiltAt', scanIssues'⟩ := other
  simp only [view, View.mk.injEq] at h
  obtain ⟨rfl, rfl, rfl, rfl⟩ := h
  exact ⟨rfl, fun _ => rfl, fun _ => rfl, fun _ => rfl, fun _ => rfl, rfl, fun _ => rfl,
    fun _ => rfl, rfl, rfl⟩

/-! ### The view of a coherent index -/

theorem at?_eq_of_view_eq (h : index.view = other.view) (place : Location) :
    index.at? place = other.at? place :=
  (sameAnswers_of_view_eq h).located place

/-- Who holds which name says what is where. -/
theorem Coherent.at?_eq (h : index.Coherent) (h' : other.Coherent)
    (hnamed : ∀ name, index.named? name = other.named? name) (place : Location) :
    index.at? place = other.at? place := by
  refine Option.ext fun r => ?_
  rw [h.at?_eq_some_iff, h'.at?_eq_some_iff, hnamed]

/-- What is where says who carries which tag. -/
theorem Coherent.tags_eq (h : index.Coherent) (h' : other.Coherent)
    (hat : ∀ place, index.at? place = other.at? place) : index.tags = other.tags := by
  have hmembers (tag : String) : index.tags.membersOf tag = other.tags.membersOf tag := by
    refine SortedMap.ext_find? fun place => ?_
    rw [h.tag_members, h'.tag_members, hat]
  have htables : index.tags.members = other.tags.members := by
    refine SortedMap.ext_find? fun tag => ?_
    rw [h.tags_occupied.find?_members, h'.tags_occupied.find?_members, hmembers]
  exact congrArg TagTable.mk htables

/-- Coherent indexes in which the same notes hold their names show the same. -/
theorem Coherent.view_eq (h : index.Coherent) (h' : other.Coherent)
    (hpolicy : index.policy = other.policy)
    (hnamed : ∀ name, index.named? name = other.named? name) : index.view = other.view := by
  have hat := h.at?_eq h' hnamed
  have hbyName : index.byName = other.byName := SortedMap.ext_find? hnamed
  have hnameByPlace : index.nameByPlace = other.nameByPlace := by
    refine SortedMap.ext_find? fun place => ?_
    rw [h.nameByPlace_eq, h'.nameByPlace_eq, hat]
  rw [view, view, hpolicy, hbyName, hnameByPlace, h.tags_eq h' hat]

/-- Coherent indexes in which the same is tracked and the same notes hold their names shadow the
    same. -/
theorem Coherent.shadowed_ext (h : index.Coherent) (h' : other.Coherent)
    (hnamed : ∀ name, index.named? name = other.named? name)
    (htracked : ∀ place, index.tracked? place = other.tracked? place) :
    index.shadowed = other.shadowed := by
  refine SortedMap.ext_find? fun place => ?_
  rw [h.shadowed_eq, h'.shadowed_eq, h.at?_eq h' hnamed, htracked]

/-! ### What is listed -/

/-- What is listed says who holds which name. -/
theorem Coherent.named?_eq_of_documents_eq (h : index.Coherent) (h' : other.Coherent)
    (hdocuments : index.sortedRecords = other.sortedRecords) (name : String) :
    index.named? name = other.named? name := by
  have hlisted {index : Index} (h : index.Coherent) {r : Record} :
      index.named? name = some r ↔ r ∈ index.sortedRecords ∧ r.name = name := by
    rw [mem_sortedRecords]
    constructor
    · exact fun hname => ⟨⟨name, hname⟩, h.name_eq hname⟩
    · rintro ⟨⟨name', hname'⟩, rfl⟩
      rwa [h.name_eq hname']
  refine Option.ext fun r => ?_
  rw [hlisted h, hlisted h', hdocuments]

/-- What is listed is what is visible at its place. -/
theorem Coherent.mem_documents_iff (h : index.Coherent) {g : Gist} :
    g ∈ index.sortedRecords.map Record.gist ↔ (index.at? g.place).map Record.gist = some g := by
  rw [List.mem_map, Option.map_eq_some_iff]
  constructor
  · rintro ⟨r, hr, rfl⟩
    exact ⟨r, h.mem_sortedRecords_iff.mp hr, rfl⟩
  · rintro ⟨r, hat, rfl⟩
    exact ⟨r, h.mem_sortedRecords_iff.mpr hat, rfl⟩

end Index

end WikiNotes
