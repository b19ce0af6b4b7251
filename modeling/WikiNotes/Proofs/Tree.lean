import WikiNotes.Proofs.Storage.Memory

/-! # File systems that are trees

A file system is a tree (`FileSystem.IsTree`) if what is listed in it is either a file or a
directory.  No note that a scan finds then lies beneath another one (`IsTree.apart_scan`), which is
what keeps updates of several notes from getting in each other's way.

It is open (`FileSystem.IsOpen`) if every directory that is listed can be listed itself and every
note can be read.  What a scan finds beneath a directory is found by a scan of that directory as
well (`FileSystem.LawfulListing.exists_mem_scan_beneath`). -/

namespace WikiNotes

/-- None of several paths lies beneath another one. -/
def Path.Apart (paths : List Path) : Prop :=
  ∀ p ∈ paths, ∀ q ∈ paths, p.location <+: q.location → p.location = q.location

namespace FileSystem

variable {files : FileSystem}

/-- A file system in which no path is both that of a file and that of a directory. -/
structure IsTree (files : FileSystem) : Prop extends Lawful files where
  /-- Of a name a directory lists either a file or a directory. -/
  kind_eq {dir : Path} {entries : List Entry} : files.listDirectory dir = .ok entries →
    ∀ entry ∈ entries, ∀ entry' ∈ entries, entry.name = entry'.name → entry.kind = entry'.kind
  /-- What can be listed is no text. -/
  readText_directory {dir : Path} {entries : List Entry} :
    files.listDirectory dir = .ok entries → ∃ error, files.readText dir = .error error

/-- A file system in which every directory can be listed and every note can be read. -/
structure IsOpen (files : FileSystem) : Prop where
  /-- Every directory that is listed can be listed itself. -/
  listable {dir : Path} {entries : List Entry} : files.listDirectory dir = .ok entries →
    ∀ entry ∈ entries, entry.kind = .directory →
      ∃ inner, files.listDirectory entry.path = .ok inner
  /-- Every note that is listed can be read. -/
  readable {dir : Path} {entries : List Entry} : files.listDirectory dir = .ok entries →
    ∀ entry ∈ entries, entry.kind = .file → hasNoteExtension entry.path = true →
      ∃ content, files.readText entry.path = .ok content

/-! ### Notes apart -/

/-- What is found in a directory is also found when the directory is spelled in another way. -/
theorem LawfulListing.exists_mem_scanFrom_congr (h : files.LawfulListing) {depth : Nat}
    {dir dir' path : Path} (hplace : dir.location = dir'.location)
    (hfound : path ∈ (scanFrom files depth dir).notes) :
    ∃ path' ∈ (scanFrom files depth dir').notes, path'.location = path.location := by
  have hmem := List.mem_map_of_mem (f := Path.location) hfound
  rw [locations_scanFrom_congr h hplace] at hmem
  exact List.mem_map.mp hmem

/-- What is found through an entry begins with the place of the entry. -/
theorem LawfulListing.prefix_of_mem_scanEntry (h : files.LawfulListing) {depth : Nat}
    {entry : Entry} {path : Path}
    (hfound : path ∈ (scanEntry (scanFrom files depth) entry).notes) :
    entry.path.location <+: path.location := by
  obtain ⟨-, hfound⟩ := mem_scanEntry.mp hfound
  cases hkind : entry.kind with
  | file =>
    rw [hkind] at hfound
    obtain ⟨-, rfl⟩ := hfound
    exact List.prefix_rfl
  | directory =>
    rw [hkind] at hfound
    obtain ⟨beneath, hbeneath, -⟩ := beneath_of_mem_scanFrom h.listsInside hfound
    exact ⟨beneath, hbeneath.symm⟩

/-- No note that is found lies beneath another one. -/
theorem IsTree.apart_scanFrom (h : files.IsTree) (depth : Nat) (dir : Path) :
    Path.Apart (scanFrom files depth dir).notes := by
  induction depth generalizing dir with
  | zero => exact fun p hp => absurd hp mem_scanFrom_zero
  | succ depth ih =>
    intro p hp q hq hbelow
    obtain ⟨entries, hlist, entry, hentry, hp⟩ := mem_scanFrom_succ.mp hp
    obtain ⟨entries', hlist', entry', hentry', hq⟩ := mem_scanFrom_succ.mp hq
    obtain rfl := Except.ok.inj (hlist.symm.trans hlist')
    -- Both notes are found through entries of one name, hence of one kind.
    have hplace := h.entry_location hlist entry hentry
    have hplace' := h.entry_location hlist entry' hentry'
    have hname : entry.name = entry'.name := by
      have hle := (h.prefix_of_mem_scanEntry hp).trans hbelow
      have hle' := h.prefix_of_mem_scanEntry hq
      have heq : entry.path.location = entry'.path.location :=
        (List.prefix_of_prefix_length_le hle hle' (by simp [hplace, hplace'])).eq_of_length
          (by simp [hplace, hplace'])
      rw [hplace, hplace'] at heq
      simpa using heq
    have hkind := h.kind_eq hlist entry hentry entry' hentry' hname
    have hentries : entry.path.location = entry'.path.location := by rw [hplace, hplace', hname]
    obtain ⟨-, hp⟩ := mem_scanEntry.mp hp
    obtain ⟨-, hq⟩ := mem_scanEntry.mp hq
    rw [← hkind] at hq
    cases hfile : entry.kind with
    | file =>
      rw [hfile] at hp hq
      rw [hp.2, hq.2, hentries]
    | directory =>
      rw [hfile] at hp hq
      obtain ⟨q', hq', hqplace⟩ := h.exists_mem_scanFrom_congr hentries.symm hq
      rw [← hqplace] at hbelow ⊢
      exact ih entry.path p hp q' hq' hbelow

theorem IsTree.apart_scan (h : files.IsTree) (dir : Path) :
    Path.Apart (scan files dir).notes := by
  intro p hp q hq
  exact h.apart_scanFrom files.depth dir p (mem_scan.mp hp) q (mem_scan.mp hq)

/-! ### Notes beneath a directory -/

/-- What is found is found with a greater depth as well. -/
theorem mem_scanFrom_mono {depth depth' : Nat} (hle : depth ≤ depth') {dir path : Path}
    (hfound : path ∈ (scanFrom files depth dir).notes) :
    path ∈ (scanFrom files depth' dir).notes := by
  induction depth generalizing depth' dir with
  | zero => exact absurd hfound mem_scanFrom_zero
  | succ depth ih =>
    obtain ⟨entries, hlist, entry, hentry, hfound⟩ := mem_scanFrom_succ.mp hfound
    obtain ⟨hshown, hfound⟩ := mem_scanEntry.mp hfound
    cases depth' with
    | zero => exact absurd hle (Nat.not_succ_le_zero _)
    | succ depth' =>
      refine mem_scanFrom_succ.mpr ⟨entries, hlist, entry, hentry, mem_scanEntry.mpr ⟨hshown, ?_⟩⟩
      cases hkind : entry.kind with
      | file =>
        rw [hkind] at hfound
        exact hfound
      | directory =>
        rw [hkind] at hfound
        exact ih (Nat.le_of_succ_le_succ hle) hfound

/-- What is found beneath a place is found in the directory at that place. -/
theorem LawfulListing.exists_mem_scanFrom_beneath (h : files.LawfulListing) {depth : Nat}
    {base dir path : Path} {front : Location} (hdir : dir.location = base.location ++ front)
    (hfound : path ∈ (scanFrom files depth base).notes) (hbelow : dir.location <+: path.location)
    (hne : path.location ≠ dir.location) :
    ∃ path' ∈ (scanFrom files depth dir).notes, path'.location = path.location := by
  -- Every component on the way from the base to the directory takes one level of the walk.
  induction front generalizing depth base with
  | nil =>
    rw [List.append_nil] at hdir
    exact h.exists_mem_scanFrom_congr hdir.symm hfound
  | cons component front ih =>
    cases depth with
    | zero => exact absurd hfound mem_scanFrom_zero
    | succ depth =>
      obtain ⟨entries, hlist, entry, hentry, hfound⟩ := mem_scanFrom_succ.mp hfound
      have hplace := h.entry_location hlist entry hentry
      have hcomponent : component = .name entry.name := by
        obtain ⟨rest, hrest⟩ := h.prefix_of_mem_scanEntry hfound
        obtain ⟨rest', hrest'⟩ := hbelow
        rw [hplace, List.append_assoc, List.singleton_append] at hrest
        rw [hdir, List.append_assoc, List.cons_append, ← hrest, List.append_cancel_left_eq,
          List.cons.injEq] at hrest'
        exact hrest'.1
      have hinner : dir.location = entry.path.location ++ front := by
        rw [hdir, hplace, hcomponent, List.append_assoc, List.singleton_append]
      obtain ⟨-, hfound⟩ := mem_scanEntry.mp hfound
      cases hkind : entry.kind with
      | file =>
        -- A file would have to be the directory itself.
        rw [hkind] at hfound
        obtain ⟨-, rfl⟩ := hfound
        have hle : entry.path.location <+: dir.location := ⟨front, hinner.symm⟩
        have heq : entry.path.location = dir.location :=
          hle.eq_of_length_le hbelow.length_le
        exact absurd heq hne
      | directory =>
        rw [hkind] at hfound
        obtain ⟨path', hpath', hsame⟩ := ih hinner hfound
        exact ⟨path', mem_scanFrom_mono (Nat.le_succ depth) hpath', hsame⟩

/-- What a scan finds beneath a directory is found by a scan of the directory. -/
theorem LawfulListing.exists_mem_scan_beneath (h : files.LawfulListing) {base dir path : Path}
    (hdir : base.location <+: dir.location) (hfound : path ∈ (scan files base).notes)
    (hbelow : dir.location <+: path.location) (hne : path.location ≠ dir.location) :
    ∃ path' ∈ (scan files dir).notes, path'.location = path.location := by
  obtain ⟨front, hfront⟩ := hdir
  obtain ⟨path', hpath', hsame⟩ :=
    h.exists_mem_scanFrom_beneath hfront.symm (mem_scan.mp hfound) hbelow hne
  exact ⟨path', mem_scan.mpr hpath', hsame⟩

/-- What is found in an open file system can be read. -/
theorem IsOpen.readable_of_mem_scanFrom (h : files.IsOpen) {depth : Nat} {dir path : Path}
    (hfound : path ∈ (scanFrom files depth dir).notes) :
    ∃ content, files.readText path = .ok content := by
  induction depth generalizing dir with
  | zero => exact absurd hfound mem_scanFrom_zero
  | succ depth ih =>
    obtain ⟨entries, hlist, entry, hentry, hfound⟩ := mem_scanFrom_succ.mp hfound
    obtain ⟨-, hfound⟩ := mem_scanEntry.mp hfound
    cases hkind : entry.kind with
    | file =>
      rw [hkind] at hfound
      obtain ⟨hnote, rfl⟩ := hfound
      exact h.readable hlist entry hentry hkind hnote
    | directory =>
      rw [hkind] at hfound
      exact ih hfound

end FileSystem

/-! ### Trees in memory -/

namespace Memory

variable {m : Memory}

/-- A tree in memory is a tree as a file system. -/
theorem IsTree.fileSystem (h : m.IsTree) : m.fileSystem.IsTree where
  toLawful := h.lawful
  kind_eq hlist entry hentry entry' hentry' hname := by
    rw [listDirectory_eq_ok hlist, List.mem_map] at hentry hentry'
    obtain ⟨name, -, rfl⟩ := hentry
    obtain ⟨name', -, rfl⟩ := hentry'
    obtain rfl : name = name' := hname
    rfl
  readText_directory {dir entries} hlist := by
    -- What can be listed is a directory, and a directory is no file.
    obtain ⟨-, hfile, -⟩ := exists_listDirectory_iff.mp ⟨entries, hlist⟩
    cases hread : m.readText dir with
    | error error => exact ⟨error, hread⟩
    | ok content => exact nomatch hfile.symm.trans (contains_of_readText_ok hread)

/-- A plain tree in memory is open. -/
theorem IsPlain.isOpen (h : m.IsPlain) : m.fileSystem.IsOpen where
  listable {dir entries} hlist entry hentry hkind := by
    have htree := h.legible.toIsTree
    rw [listDirectory_eq_ok hlist, List.mem_map] at hentry
    obtain ⟨name, hname, rfl⟩ := hentry
    have hplace := htree.location_entryOf hname
    have hnofile : m.files.contains (dir.location ++ [.name name]) = false := by
      cases hfile : m.files.contains (dir.location ++ [.name name]) with
      | false => rfl
      | true => simp [entryOf, hfile] at hkind
    -- What lies at the place of the entry, or beneath it, makes it a directory.
    obtain ⟨rest, hmem⟩ := mem_childNames.mp hname
    refine h.legible.listable ?_
    rw [hplace]
    cases rest with
    | nil =>
      rcases mem_places.mp hmem with hfile | hdirectory
      · exact absurd (hnofile.symm.trans hfile) Bool.false_ne_true
      · exact hasDirectory_iff.mpr (.inr hdirectory)
    | cons component rest =>
      refine hasDirectory_iff.mpr (.inl ⟨component :: rest, List.cons_ne_nil _ _, ?_⟩)
      rwa [List.append_assoc, List.singleton_append]
  readable {dir entries} hlist entry hentry hkind _ := by
    have htree := h.legible.toIsTree
    rw [listDirectory_eq_ok hlist, List.mem_map] at hentry
    obtain ⟨name, hname, rfl⟩ := hentry
    have hfile : m.files.contains (m.entryOf dir name).path.location = true := by
      rw [htree.location_entryOf hname]
      cases hfile : m.files.contains (dir.location ++ [.name name]) with
      | true => rfl
      | false => simp [entryOf, hfile] at hkind
    obtain ⟨content, hcontent⟩ := SortedMap.contains_eq_true_iff.mp hfile
    obtain ⟨-, -, htext, hfailures⟩ := h
    cases content with
    | binary => exact absurd rfl (htext _ (SortedMap.mem_values.mpr ⟨_, hcontent⟩))
    | text content => exact ⟨content, by simp [fileSystem, readText, hfailures, hcontent]⟩

end Memory

end WikiNotes
