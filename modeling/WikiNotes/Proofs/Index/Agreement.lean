import WikiNotes.Index.Resolution
import WikiNotes.Proofs.Index.Update

/-! # Indexes that answer alike

What an index answers is what is visible in it: its notes, the notes that targets lead to, and the
tags.  If no two tracked notes have one name everything tracked is visible, so two indexes then
answer alike exactly if they track the same (`answersAlike_iff`). -/

namespace WikiNotes

/-- The order of gists: by their places. -/
def Gist.order (a b : Gist) : Ordering := compare a.place b.place

namespace Index

variable {index other : Index}

/-- The tags as they are listed, each with how many notes carry it and with their places. -/
def listedTags (index : Index) : List (String × Nat × List Location) :=
  index.tags.all.map fun info => (info.name, info.count, info.notes.map Path.location)

/-- Two indexes give the same answers; the spelling of paths makes no difference. -/
structure AnswersAlike (index other : Index) : Prop where
  /-- The same notes in the same order. -/
  documents : index.sortedRecords.map Record.gist = other.sortedRecords.map Record.gist
  /-- The same note for every target. -/
  lookup (target : String) :
    (index.resolve? target).map Record.gist = (other.resolve? target).map Record.gist
  /-- The same tags. -/
  tags : index.listedTags = other.listedTags

/-- No two tracked notes have one name. -/
def NamesDistinct (index : Index) : Prop :=
  ∀ place place' r r', index.tracked? place = some r → index.tracked? place' = some r' →
    r.name = r'.name → place = place'

/-! ### Everything tracked is visible -/

theorem Consistent.at?_eq_tracked? (h : index.Consistent) (hdistinct : index.NamesDistinct)
    (place : Location) : index.at? place = index.tracked? place := by
  cases htracked : index.tracked? place with
  | none =>
    rw [tracked?, Option.or_eq_none_iff] at htracked
    exact htracked.1
  | some r =>
    -- The note that holds the name is at the same place.
    obtain ⟨holder, hholder⟩ := h.held htracked
    have hplace := hdistinct _ _ _ _ (h.tracked?_of_named? hholder) htracked (h.name_eq hholder)
    have hat := h.at?_place hholder
    rw [hplace] at hat
    have hsame : index.tracked? place = some holder := by rw [tracked?, hat, Option.some_or]
    rw [hat, ← hsame, htracked]

theorem Consistent.map_gist_at?_eq (h : index.Consistent) (h' : other.Consistent)
    (hdistinct : index.NamesDistinct) (hdistinct' : other.NamesDistinct)
    (hgist : ∀ place, index.gistAt? place = other.gistAt? place) (place : Location) :
    (index.at? place).map Record.gist = (other.at? place).map Record.gist := by
  rw [h.at?_eq_tracked? hdistinct, h'.at?_eq_tracked? hdistinct']
  exact hgist place

theorem mem_sortedRecords {r : Record} :
    r ∈ index.sortedRecords ↔ ∃ name, index.named? name = some r := by
  rw [sortedRecords, inPlaceOrder, mem_sortBy, records, SortedMap.mem_values]
  rfl

theorem Coherent.mem_sortedRecords_iff (h : index.Coherent) {r : Record} :
    r ∈ index.sortedRecords ↔ index.at? r.place = some r := by
  rw [mem_sortedRecords]
  constructor
  · rintro ⟨name, hname⟩
    exact h.at?_place hname
  · exact fun hat => ⟨r.name, h.named?_name hat⟩

/-- What is tracked is listed. -/
theorem Consistent.gistAt?_eq_some_iff (h : index.Consistent) (hdistinct : index.NamesDistinct)
    {place : Location} {g : Gist} :
    index.gistAt? place = some g ↔
      g ∈ index.sortedRecords.map Record.gist ∧ g.place = place := by
  rw [gistAt?, ← h.at?_eq_tracked? hdistinct, Option.map_eq_some_iff, List.mem_map]
  constructor
  · rintro ⟨r, hat, rfl⟩
    have hplace := h.place_eq hat
    exact ⟨⟨r, h.mem_sortedRecords_iff.mpr (hplace ▸ hat), rfl⟩, hplace⟩
  · rintro ⟨⟨r, hr, rfl⟩, rfl⟩
    exact ⟨r, h.mem_sortedRecords_iff.mp hr, rfl⟩

/-! ### Tags -/

/-- The members of a tag are listed by their places. -/
theorem Coherent.locations_membersOf (h : index.Coherent) (tag : String) :
    (index.tags.membersOf tag).values.map Path.location = (index.tags.membersOf tag).keys := by
  rw [SortedMap.values, SortedMap.keys, List.map_map]
  refine List.map_congr_left fun e he => ?_
  have hmember := SortedMap.find?_eq_some_iff.mpr he
  rw [h.tag_members, Option.map_eq_some_iff] at hmember
  obtain ⟨r, hr, hpath⟩ := hmember
  rw [Function.comp_apply, ← hpath]
  exact h.place_eq (Option.eq_some_of_filter_eq_some hr)

theorem Coherent.listedTags_eq (h : index.Coherent) (h' : other.Coherent)
    (hat : ∀ place, (index.at? place).map Record.gist = (other.at? place).map Record.gist) :
    index.listedTags = other.listedTags := by
  have hcontains (tag : String) (place : Location) :
      (index.tags.membersOf tag).contains place = (other.tags.membersOf tag).contains place := by
    have hplace := hat place
    simp only [SortedMap.contains, h.tag_members, h'.tag_members, Option.isSome_map]
    cases hr : index.at? place with
    | none =>
      rw [hr, Option.map_none, eq_comm, Option.map_eq_none_iff] at hplace
      rw [hplace]
    | some r =>
      rw [hr, Option.map_some, eq_comm, Option.map_eq_some_iff] at hplace
      obtain ⟨r', hr', hgist⟩ := hplace
      have htags : r'.tags = r.tags := congrArg (fun g : Gist => g.note.tags.keys) hgist
      rw [hr', Option.isSome_filter, Option.isSome_filter, Option.any_some, Option.any_some, htags]
  have hkeys (tag : String) :
      (index.tags.membersOf tag).keys = (other.tags.membersOf tag).keys :=
    SortedMap.keys_eq (hcontains tag)
  have hempty (tag : String) :
      (index.tags.membersOf tag).isEmpty = (other.tags.membersOf tag).isEmpty := by
    rw [← SortedMap.isEmpty_keys, hkeys, SortedMap.isEmpty_keys]
  have hsize (tag : String) :
      (index.tags.membersOf tag).size = (other.tags.membersOf tag).size := by
    rw [← SortedMap.length_keys, hkeys, SortedMap.length_keys]
  have hentries := SortedMap.map_entries_eq (m := index.tags.members) (n := other.tags.members)
    (f := fun notes => (notes.size, notes.values.map Path.location))
    (g := fun notes => (notes.size, notes.values.map Path.location)) fun tag => by
      rw [h.tags_occupied.find?_members, h'.tags_occupied.find?_members, hempty tag]
      split
      case isTrue => rfl
      case isFalse =>
        rw [Option.map_some, Option.map_some, h.locations_membersOf, h'.locations_membersOf,
          hkeys tag, hsize tag]
  simpa only [listedTags, TagTable.all, List.map_map, Function.comp_def] using hentries

/-! ### Agreement -/

/-- Consistent indexes in which no two notes have one name answer alike exactly if they track the
    same. -/
theorem Consistent.answersAlike_iff (h : index.Consistent) (h' : other.Consistent)
    (hdistinct : index.NamesDistinct) (hdistinct' : other.NamesDistinct)
    (hsettings : index.settings = other.settings) :
    AnswersAlike index other ↔ ∀ place, index.gistAt? place = other.gistAt? place := by
  constructor
  · intro halike place
    refine Option.ext fun g => ?_
    rw [h.gistAt?_eq_some_iff hdistinct, h'.gistAt?_eq_some_iff hdistinct', halike.documents]
  · intro hgist
    have hnamed (name : String) :
        (index.named? name).map Record.gist = (other.named? name).map Record.gist :=
      h.map_gist_named?_eq h' hgist fun place place' r r' hr hr' hn hn' =>
        hdistinct place place' r r' hr hr' (hn.trans hn'.symm)
    refine ⟨?_, fun target => ?_, ?_⟩
    · have horder (a b : Record) : a.gist.order b.gist = compare a.place b.place := rfl
      have hsorted (records : List Record) :
          (inPlaceOrder records).map Record.gist = sortBy Gist.order (records.map Record.gist) :=
        map_sortBy horder records
      rw [sortedRecords, sortedRecords, hsorted, hsorted]
      exact congrArg _ (SortedMap.map_values_eq hnamed)
    · have hpolicy : index.policy = other.policy := congrArg Settings.policy hsettings
      simp only [resolve?, hpolicy]
      split
      case isTrue => rfl
      case isFalse => exact hnamed _
    · exact h.listedTags_eq h'.toCoherent (h.map_gist_at?_eq h' hdistinct hdistinct' hgist)

end Index

end WikiNotes
