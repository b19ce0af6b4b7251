import WikiNotes.Proofs.Index.Update
import WikiNotes.Proofs.Storage.Memory

/-! # Indexes that mirror a file system

An index mirrors a file system (`Mirrors`) if it tracks the notes that are there and nothing else.
The index that is built from a legible memory mirrors it (`mirrors_build`), and so does one that is
told of every deletion (`Mirrors.delete`) and of every file that is written (`mirrors_written`).

All indexes that mirror one file system with the same settings track the same
(`Mirrors.gistAt?_eq`). -/

namespace WikiNotes

namespace Index

/-- An index tracks the notes of a file system and nothing else. -/
def Mirrors (files : FileSystem) (index : Index) : Prop :=
  ∀ path : Path,
    index.gistAt? path.location = (noteAt? files index.settings path).map Record.gist

variable {index : Index} {m : Memory} {settings : Settings}

/-! ### Notes of a memory -/

/-- A note is an eligible file. -/
theorem noteAt?_eq_some {path : Path} {r : Record}
    (h : noteAt? m.fileSystem settings path = some r) :
    settings.root.any (isEligible · path) = true ∧ m.files.contains path.location = true := by
  cases hread : m.readText path with
  | error error => exact nomatch h.symm.trans (noteAt?_of_not_readable hread)
  | ok content =>
    rw [noteAt?] at h
    split at h
    case isFalse => cases h
    case isTrue heligible => exact ⟨heligible, Memory.contains_of_readText_ok hread⟩

theorem noteAt?_of_no_file {path : Path} (h : m.files.contains path.location = false) :
    noteAt? m.fileSystem settings path = none :=
  Option.eq_none_iff_forall_ne_some.mpr fun _ hsome =>
    nomatch h.symm.trans (noteAt?_eq_some hsome).2

theorem noteAt?_eq_of_readText_eq {m' : Memory} {path : Path}
    (h : m'.readText path = m.readText path) :
    noteAt? m'.fileSystem settings path = noteAt? m.fileSystem settings path := by
  have hread : m'.fileSystem.readText path = m.fileSystem.readText path := h
  rw [noteAt?, noteAt?, Record.read, Record.read, hread]

/-- What is tracked by a mirror is at a file. -/
theorem Mirrors.contains (h : index.Mirrors m.fileSystem) {path : Path}
    (hne : index.gistAt? path.location ≠ none) : m.files.contains path.location = true := by
  cases hfile : m.files.contains path.location with
  | true => rfl
  | false =>
    rw [h path, noteAt?_of_no_file hfile] at hne
    exact absurd rfl hne

theorem Mirrors.gistAt?_of_ineligible {files : FileSystem} (h : index.Mirrors files) {path : Path}
    (heligible : index.root.any (isEligible · path) = false) :
    index.gistAt? path.location = none := by
  have hroot : index.settings.root.any (isEligible · path) = false := heligible
  rw [h path, noteAt?_of_ineligible hroot, Option.map_none]

/-- What is tracked by a mirror is a note of the files. -/
theorem Mirrors.exists_noteAt? {files : FileSystem} (hmirrors : index.Mirrors files)
    (h : index.Coherent) {place : Location} {r : Record} (hr : index.tracked? place = some r) :
    ∃ path r', path.location = place ∧ noteAt? files index.settings path = some r' ∧
      r'.gist = r.gist := by
  obtain rfl := h.tracked?_place hr
  have hgist : index.gistAt? r.path.location = some r.gist := gistAt?_of_tracked? hr
  rw [hmirrors r.path] at hgist
  obtain ⟨r', hnote, hsame⟩ := Option.map_eq_some_iff.mp hgist
  exact ⟨r.path, r', rfl, hnote, hsame⟩

/-! ### Building -/

/-- An index that is built from a legible memory mirrors it. -/
theorem mirrors_build (h : m.Legible) (time : String) (root : Option Path)
    (policy : NamingPolicy) : (build m.fileSystem time root policy).Mirrors m.fileSystem := by
  intro path
  rw [settings_build]
  cases root with
  | none => rfl
  | some root =>
    have hinserted := (consistent_empty (some root) policy).gistAt?_insertReadable h.lawful
      (scan m.fileSystem root).notes path
    refine hinserted.trans ?_
    rw [noteAt?, Option.any_some]
    by_cases hfound : ∃ found ∈ (scan m.fileSystem root).notes, found.location = path.location
    · obtain ⟨found, hmem, hplace⟩ := hfound
      have heligible : isEligible root path = true := by
        rw [← isEligible_congr hplace]
        exact isEligible_of_mem_scan h.lawful.listsInside (isEligibleDirectory_self root) hmem
      rw [if_pos ⟨found, hmem, hplace⟩, if_pos heligible]
      exact Option.or_none
    · -- A scan finds every eligible file, so what it does not find is no note.
      rw [if_neg hfound]
      cases hnote : noteAt? m.fileSystem ⟨some root, policy⟩ path with
      | none =>
        rw [noteAt?, Option.any_some] at hnote
        rw [hnote]
        rfl
      | some r =>
        obtain ⟨heligible, hfile⟩ := noteAt?_eq_some hnote
        exact absurd (h.exists_mem_scan heligible hfile) hfound

/-! ### Deleting -/

/-- Where a note is tracked by the mirror of a tree nothing is tracked beneath it. -/
theorem Mirrors.gistAt?_beneath (hmirrors : index.Mirrors m.fileSystem) (h : m.IsTree)
    {path p : Path} (htracked : index.gistAt? path.location ≠ none)
    (hbelow : path.location <+: p.location) (hne : p.location ≠ path.location) :
    index.gistAt? p.location = none := by
  have hgone : m.files.contains p.location = false :=
    h.no_file_beneath (hmirrors.contains htracked) hbelow hne
  rw [hmirrors p, noteAt?_of_no_file hgone, Option.map_none]

/-- The mirror of a tree still mirrors it after what was deleted is discarded. -/
theorem Mirrors.delete (hmirrors : index.Mirrors m.fileSystem) (hindex : index.Consistent)
    (h : m.IsTree) (path : Path) : (index.discard path).1.Mirrors (m.delete path).fileSystem := by
  intro p
  rw [settings_discard, hindex.gistAt?_discard_of_leaf (hmirrors.gistAt?_beneath h)]
  split
  case isTrue hbelow =>
    have hgone : (m.delete path).files.contains p.location = false := by
      rw [← Bool.not_eq_true, Memory.contains_files_delete]
      exact fun hkept => hkept.2 hbelow
    rw [noteAt?_of_no_file hgone, Option.map_none]
  case isFalse hbelow =>
    rw [noteAt?_eq_of_readText_eq (Memory.readText_delete_of_not_under hbelow)]
    exact hmirrors p

/-- Without a file of a tree nothing but the note there is missing. -/
theorem Mirrors.others (hmirrors : index.Mirrors m.fileSystem) (h : m.IsTree) {path p : Path}
    (hfile : m.files.contains path.location = true) (hne : p.location ≠ path.location) :
    index.gistAt? p.location =
      (noteAt? (m.delete path).fileSystem index.settings p).map Record.gist := by
  by_cases hbelow : path.location <+: p.location
  · have hgone : m.files.contains p.location = false := h.no_file_beneath hfile hbelow hne
    have hgone' : (m.delete path).files.contains p.location = false := by
      rw [← Bool.not_eq_true, Memory.contains_files_delete, hgone]
      simp
    rw [hmirrors p, noteAt?_of_no_file hgone, noteAt?_of_no_file hgone']
  · rw [hmirrors p, noteAt?_eq_of_readText_eq (Memory.readText_delete_of_not_under hbelow)]

/-! ### Writing -/

/-- Inserting what is read at a path completes a mirror of all other notes. -/
theorem mirrors_insert {files : FileSystem} (hfiles : files.Lawful) (hindex : index.Consistent)
    {path : Path} {r : Record} (heligible : index.root.any (isEligible · path) = true)
    (hread : Record.read files index.policy path = .ok r)
    (hothers : ∀ p : Path, p.location ≠ path.location →
      index.gistAt? p.location = (noteAt? files index.settings p).map Record.gist) :
    (index.insert r).1.Mirrors files := by
  intro p
  rw [settings_insert, hindex.gistAt?_insert, Record.place_of_read_ok hread]
  split
  case isTrue hplace => exact (map_gist_noteAt?_of_read hfiles heligible hread hplace).symm
  case isFalse hplace => exact hothers p hplace

/-- Discarding a file of a tree that cannot be read completes a mirror of all other notes. -/
theorem mirrors_discard (h : m.IsTree) (hindex : index.Consistent) {path : Path}
    {error : ReadError} (hfile : m.files.contains path.location = true)
    (herror : m.readText path = .error error)
    (hothers : ∀ p : Path, p.location ≠ path.location →
      index.gistAt? p.location = (noteAt? m.fileSystem index.settings p).map Record.gist) :
    (index.discard path).1.Mirrors m.fileSystem := by
  intro p
  rw [settings_discard, hindex.gistAt?_discard]
  split
  case isFalse hkept => exact hothers p fun hplace => hkept (.inl hplace)
  case isTrue hgone =>
    by_cases hplace : p.location = path.location
    · rw [noteAt?_of_not_readable ((Memory.readText_congr hplace).trans herror), Option.map_none]
    · have hbelow := List.isPrefixOf_iff_prefix.mp (hgone.resolve_left hplace).2
      rw [noteAt?_of_no_file (h.no_file_beneath hfile hbelow hplace), Option.map_none]

/-- A file that is no note of the root is ignored. -/
theorem apply_of_ineligible {change : Change} (hkind : change.kind ≠ .deleted)
    (hfile : m.files.contains change.path.location = true)
    (heligible : index.root.any (isEligible · change.path) = false) :
    index.apply m.fileSystem change = (index, false) := by
  have hunder : index.refreshUnder m.fileSystem change.path = (index, false) := by
    have hlist : (m.fileSystem.listDirectory change.path).toOption = none :=
      Memory.listDirectory_of_file hfile
    simp [refreshUnder, hlist]
  have hrefresh : index.refresh m.fileSystem change.path = (index, false) :=
    refresh_of_ineligible heligible
  rw [apply]
  split
  case h_1 hdeleted => exact absurd hdeleted hkind
  all_goals split <;> assumption

/-- A file that is a note of the root is refreshed. -/
theorem apply_of_eligible (files : FileSystem) {change : Change} (hkind : change.kind ≠ .deleted)
    (heligible : index.root.any (isEligible · change.path) = true) :
    hasNoteExtension change.path = true ∧
      index.apply files change = index.refresh files change.path := by
  obtain ⟨root, -, heligible⟩ := (Option.any_eq_true _ _).mp heligible
  have hnote := (isEligible_iff.mp heligible).1
  refine ⟨hnote, ?_⟩
  rw [apply]
  split
  case h_1 hdeleted => exact absurd hdeleted hkind
  all_goals rw [if_pos hnote]

/-- The mirror of all other notes mirrors a legible memory after it was told that a file was
    written. -/
theorem mirrors_written (h : m.Legible) (hindex : index.Consistent) {change : Change}
    (hkind : change.kind ≠ .deleted) (hfile : m.files.contains change.path.location = true)
    (hself : index.root.any (isEligible · change.path) = false →
      index.gistAt? change.path.location = none)
    (hothers : ∀ p : Path, p.location ≠ change.path.location →
      index.gistAt? p.location = (noteAt? m.fileSystem index.settings p).map Record.gist) :
    (index.apply m.fileSystem change).1.Mirrors m.fileSystem := by
  cases heligible : index.root.any (isEligible · change.path) with
  | false =>
    rw [apply_of_ineligible hkind hfile heligible]
    intro p
    by_cases hplace : p.location = change.path.location
    · rw [hplace, hself heligible, noteAt?_of_ineligible, Option.map_none]
      exact (any_isEligible_congr hplace _).trans heligible
    · exact hothers p hplace
  | true =>
    obtain ⟨hnote, happly⟩ := apply_of_eligible m.fileSystem hkind heligible
    rw [happly]
    rcases h.readable hfile hnote with ⟨content, hcontent⟩ | ⟨error, herror, hnotFound⟩
    · have hread : Record.read m.fileSystem index.policy change.path =
          .ok (Record.ofContent index.policy change.path content) :=
        congrArg (Except.map _) hcontent
      rw [refresh_of_ok heligible hread]
      exact mirrors_insert h.lawful hindex heligible hread hothers
    · have hread : Record.read m.fileSystem index.policy change.path = .error error :=
        congrArg (Except.map _) herror
      rw [refresh_of_error heligible hread, if_pos hnotFound]
      exact mirrors_discard h.toIsTree hindex hfile herror hothers

/-! ### Agreeing -/

/-- Indexes with the same settings that mirror one file system track the same. -/
theorem Mirrors.gistAt?_eq {files : FileSystem} {other : Index} (hmirrors : index.Mirrors files)
    (hmirrors' : other.Mirrors files) (h : index.Coherent) (h' : other.Coherent)
    (hsettings : index.settings = other.settings) (place : Location) :
    index.gistAt? place = other.gistAt? place :=
  gistAt?_eq_of_paths h h' (fun path => by rw [hmirrors path, hmirrors' path, hsettings]) place

end Index

end WikiNotes
