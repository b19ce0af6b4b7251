import WikiNotes.Proofs.Index.Links
import WikiNotes.Proofs.Note.Tag
import WikiNotes.Proofs.Vault.OwnName

/-! # Looking up listed tags

The listing of the tags shows for every tag the visible notes that carry it, in the order of their
places (`Index.Coherent.notes_eq`).  A tag that is looked up is made canonical first, and a listed
tag is canonical already only if it neither starts with `#` nor starts or ends with a blank.  So
looking it up gives its notes exactly if that is so or another tag is on the same notes
(`Vault.Reachable.notesWithTag_listed_iff`).  Tags in the text of a note are of that kind
(`NamingPolicy.isTagChar_of_canonicalTag?`); those that the front matter names need not be. -/

namespace WikiNotes

/-! ### Tags in a text -/

namespace Tag

open Text

/-- Lower case leaves the characters of tags among themselves. -/
theorem isTagChar_of_mem_lowerAt {before rest : List Char} {c d : Char}
    (h : d ∈ lowerAt before c rest) (hc : isTagChar c = true) : isTagChar d = true := by
  have hlow := lt_of_isTagChar hc
  have hsigma : c ≠ 'Σ' := by
    rintro rfl
    exact absurd hlow (by decide)
  rw [lowerAt, if_neg hsigma, lowerChar, if_pos hlow, List.mem_singleton] at h
  exact h ▸ (isTagChar_sound hc).1

end Tag

namespace NamingPolicy

variable {policy : NamingPolicy} {raw tag : String}

/-- The canonical form of a tag that was written in a text consists of characters of tags. -/
theorem isTagChar_of_canonicalTag? (hraw : ∀ c ∈ raw.toList, Tag.isTagChar c = true)
    (h : policy.canonicalTag? raw = some tag) : ∀ c ∈ tag.toList, Tag.isTagChar c = true := by
  obtain ⟨-, htag⟩ := canonicalTag?_eq_some_iff.mp h
  intro d hd
  rw [htag, foldCase] at hd
  split at hd
  case isTrue => exact hraw d (mem_of_mem_bareTag hd)
  case isFalse =>
    obtain ⟨before, c, rest, hc, hlower⟩ := Text.exists_of_mem_lowerAfter hd
    exact Tag.isTagChar_of_mem_lowerAt hlower (hraw c (mem_of_mem_bareTag hc))

/-- A canonical tag that consists of characters of tags is canonical already. -/
theorem canonicalTag?_of_isTagChar (h : policy.canonicalTag? raw = some tag)
    (htag : ∀ c ∈ tag.toList, Tag.isTagChar c = true) : policy.canonicalTag? tag = some tag := by
  refine (canonicalTag?_eq_self_iff h).mpr ⟨Text.trim_eq_self_iff.mpr ?_, fun hhash => ?_⟩
  · refine Text.stripWhile_eq_self_iff.mpr ⟨fun c hc => ?_, fun c hc => ?_⟩
    · exact (Tag.isTagChar_sound (htag c (List.mem_of_head? hc))).2.1
    · exact (Tag.isTagChar_sound (htag c (List.mem_of_getLast? hc))).2.1
  · exact (Tag.isTagChar_sound (htag '#' (List.mem_of_head? hhash))).2.2 rfl

end NamingPolicy

/-! ### The notes of a tag -/

namespace Index

variable {index : Index} {r : Record} {tag : String}

/-- The members of a tag are the visible notes that carry it, in the order of their places. -/
theorem Coherent.entries_membersOf (h : index.Coherent) (tag : String) :
    (index.tags.membersOf tag).entries =
      (index.sortedRecords.filter (tag ∈ ·.tags)).map fun r => (r.place, r.path) := by
  have hascending : Ascending
      ((index.sortedRecords.filter (tag ∈ ·.tags)).map fun r => (r.place, r.path)) := by
    have hnodes := h.nodes_ascending
    rw [graph_nodes] at hnodes
    exact List.pairwise_map.mpr (hnodes.filter _)
  refine SortedMap.entries_eq_of_mem_iff hascending fun ⟨place, path⟩ => ?_
  rw [← SortedMap.find?_eq_some_iff, h.tag_members]
  simp only [Option.map_eq_some_iff, Option.filter_eq_some_iff, List.mem_map, List.mem_filter,
    decide_eq_true_eq, h.mem_sortedRecords_iff, Prod.mk.injEq]
  constructor
  · rintro ⟨r, ⟨hat, htag⟩, rfl⟩
    obtain rfl := h.place_eq hat
    exact ⟨r, ⟨hat, htag⟩, rfl, rfl⟩
  · rintro ⟨r, ⟨hat, htag⟩, rfl, rfl⟩
    exact ⟨r, ⟨hat, htag⟩, rfl⟩

theorem Coherent.notes_eq (h : index.Coherent) (tag : String) :
    index.tags.notes tag = (index.sortedRecords.filter (tag ∈ ·.tags)).map Record.path := by
  rw [TagTable.notes, SortedMap.values, h.entries_membersOf, List.map_map]
  rfl

/-- Two tags have the same notes exactly if every visible note carries both or none. -/
theorem Coherent.notes_eq_iff (h : index.Coherent) {tag tag' : String} :
    index.tags.notes tag = index.tags.notes tag' ↔
      ∀ r ∈ index.sortedRecords, tag ∈ r.tags ↔ tag' ∈ r.tags := by
  have hcarries {tag : String} {r : Record} (hr : r ∈ index.sortedRecords) :
      tag ∈ r.tags ↔ r.path ∈ index.tags.notes tag := by
    rw [h.notes_eq, List.mem_map]
    constructor
    · exact fun htag => ⟨r, List.mem_filter.mpr ⟨hr, decide_eq_true htag⟩, rfl⟩
    · rintro ⟨s, hs, hpath⟩
      obtain ⟨hs, htag⟩ := List.mem_filter.mp hs
      -- At one place there is one note.
      have hat := h.mem_sortedRecords_iff.mp hs
      rw [show s.place = r.place from congrArg Path.location hpath,
        h.mem_sortedRecords_iff.mp hr] at hat
      exact Option.some.inj hat ▸ of_decide_eq_true htag
  constructor
  · intro hnotes r hr
    rw [hcarries hr, hcarries hr, hnotes]
  · intro hsame
    rw [h.notes_eq, h.notes_eq]
    refine congrArg (List.map Record.path) (List.filter_congr fun r hr => ?_)
    exact decide_eq_decide.mpr (hsame r hr)

/-- A listed tag is on some visible note, and is listed with the notes that it is on. -/
theorem Coherent.listed (h : index.Coherent) {info : TagInfo} (hinfo : info ∈ index.tags.all) :
    info.notes = index.tags.notes info.name ∧ info.count = info.notes.length ∧
      ∃ r ∈ index.sortedRecords, info.name ∈ r.tags := by
  obtain ⟨hname, hnotes, hcount⟩ := TagTable.mem_all_iff.mp hinfo
  refine ⟨hnotes, hcount, ?_⟩
  obtain ⟨place, path, hmember⟩ := (TagTable.Occupied.mem_keys_iff h.tags_occupied).mp hname
  rw [h.tag_members, Option.map_eq_some_iff] at hmember
  obtain ⟨r, hr, -⟩ := hmember
  obtain ⟨hat, htag⟩ := Option.filter_eq_some_iff.mp hr
  exact ⟨r, h.mem_sortedRecords_iff.mpr (h.place_eq hat ▸ hat), of_decide_eq_true htag⟩

end Index

/-! ### Looking up a listed tag -/

namespace Vault

variable {seen : Surroundings → Prop} {vault : Vault}

/-- The tags of a visible note are the canonical forms of tags that were read. -/
theorem Reachable.exists_raw (h : vault.Reachable seen) {r : Record} (hr : r ∈ vault.documents)
    {tag : String} (htag : tag ∈ r.tags) :
    ∃ raw, vault.settings.policy.canonicalTag? raw = some tag := by
  have hmem : r ∈ vault.index.records := mem_sortBy.mp hr
  obtain ⟨-, content, hread⟩ :=
    h.every_wasRead.of_mem_records h.settled.consistent.toCoherent hmem
  rw [← hread] at htag
  obtain ⟨raw, -, hraw⟩ := List.mem_filterMap.mp (SortedSet.mem_keys_ofList.mp htag)
  exact ⟨raw, hraw⟩

/-- A tag is listed with all visible notes that carry it, in the order of their places.  Looking it
    up gives these notes exactly if its canonical form is on the same notes, and that is the tag
    itself exactly if it neither starts nor ends with a blank and does not start with `#`.  A tag
    that can be written in a text is always found. -/
theorem Reachable.notesWithTag_listed_iff (h : vault.Reachable seen) {info : TagInfo}
    (hinfo : info ∈ vault.index.tags.all) :
    info.notes = (vault.documents.filter (info.name ∈ ·.tags)).map Record.path ∧
    info.count = info.notes.length ∧
    (vault.notesWithTag info.name = info.notes ↔
      ∃ tag, vault.settings.policy.canonicalTag? info.name = some tag ∧
        ∀ r ∈ vault.documents, tag ∈ r.tags ↔ info.name ∈ r.tags) ∧
    (vault.settings.policy.canonicalTag? info.name = some info.name ↔
      Text.trim info.name = info.name ∧ info.name.toList.head? ≠ some '#') ∧
    (∀ code cs, ∀ raw ∈ Tag.outside code cs,
      vault.settings.policy.canonicalTag? raw = some info.name →
        vault.notesWithTag info.name = info.notes) := by
  have hcoherent := h.settled.consistent.toCoherent
  have hpolicy : vault.index.policy = vault.settings.policy :=
    congrArg Settings.policy h.settled.index_settings
  obtain ⟨hnotes, hcount, r, hr, htag⟩ := hcoherent.listed hinfo
  obtain ⟨raw, hraw⟩ := h.exists_raw hr htag
  have hcarried : info.notes = (vault.documents.filter (info.name ∈ ·.tags)).map Record.path :=
    hnotes.trans (hcoherent.notes_eq info.name)
  have hne : info.notes ≠ [] := by
    rw [hcarried]
    exact List.ne_nil_of_mem (List.mem_map_of_mem (List.mem_filter.mpr ⟨hr, decide_eq_true htag⟩))
  have hfound (tag : String)
      (hcanonical : vault.settings.policy.canonicalTag? info.name = some tag) :
      vault.notesWithTag info.name = info.notes ↔
        ∀ r ∈ vault.documents, tag ∈ r.tags ↔ info.name ∈ r.tags := by
    rw [notesWithTag, hpolicy, hcanonical, hnotes]
    exact hcoherent.notes_eq_iff
  refine ⟨hcarried, hcount, ?_, NamingPolicy.canonicalTag?_eq_self_iff hraw,
    fun code cs inline hinline hname => ?_⟩
  · cases hcanonical : vault.settings.policy.canonicalTag? info.name with
    | some tag =>
      rw [hfound tag hcanonical]
      simp
    | none =>
      have hnothing : vault.notesWithTag info.name = [] := by
        rw [notesWithTag, hpolicy, hcanonical]
      rw [hnothing]
      exact iff_of_false hne.symm nofun
  · have hchars := Tag.isTagChar_of_mem_outside hinline
    have hplain := NamingPolicy.isTagChar_of_canonicalTag? hchars hname
    have hself := NamingPolicy.canonicalTag?_of_isTagChar hraw hplain
    exact (hfound info.name hself).mpr fun _ _ => Iff.rfl

/-- Under a policy that minds case a tag from the front matter with a blank in it is found, beside a
    nested one from the text. -/
theorem notesWithTag_listed_iff_blank :
    let m : Memory :=
      ({} : Memory).write ⟨"/v/a.md"⟩ (.text "---\ntags: [\"#Big Tag\"]\n---\n#area/work")
    let s : Surroundings := ⟨m.fileSystem, fun _ => none, fun _ => false, "now"⟩
    let vault := new s { root := some ⟨"/v"⟩, policy := { caseSensitive := true } }
    let info : TagInfo := ⟨"Big Tag", 1, [⟨"/v/a.md"⟩]⟩
    vault.Reachable (fun _ => True) ∧ info ∈ vault.index.tags.all ∧
      vault.notesWithTag "Big Tag" = [⟨"/v/a.md"⟩] := by
  intro m s vault info
  have hvault : vault.Reachable (fun _ => True) := .new trivial _
  have hinfo : info ∈ vault.index.tags.all := by decide +kernel
  obtain ⟨-, -, hlookup, hcanonical, -⟩ := hvault.notesWithTag_listed_iff hinfo
  have hself : vault.settings.policy.canonicalTag? "Big Tag" = some "Big Tag" :=
    hcanonical.mpr (by decide +kernel)
  exact ⟨hvault, hinfo, hlookup.mpr ⟨_, hself, fun _ _ => Iff.rfl⟩⟩

/-- A tag from the front matter that is left with a `#` is listed with its note and not found. -/
theorem notesWithTag_misses_listed :
    let m : Memory := ({} : Memory).write ⟨"/v/a.md"⟩ (.text "---\ntags: [\"##a\"]\n---\n")
    let s : Surroundings := ⟨m.fileSystem, fun _ => none, fun _ => false, "now"⟩
    let vault := new s { root := some ⟨"/v"⟩ }
    vault.Reachable (fun _ => True) ∧ vault.index.tags.all = [⟨"#a", 1, [⟨"/v/a.md"⟩]⟩] ∧
      vault.notesWithTag "#a" = [] := by
  intro m s vault
  exact ⟨.new trivial _, by decide +kernel⟩

end Vault

end WikiNotes
