import WikiNotes.Proofs.Scan
import WikiNotes.Storage.Memory

/-! # Trees of files in memory

A memory may hold any files at any places.  It is a tree (`Memory.IsTree`) if its places are those
of paths and nothing lies beneath a file, and it is legible (`Memory.Legible`) if its directories
can be listed and its notes can be read or are not found.

A tree is a lawful file system, and a scan of it finds every note to which only directories that
can be listed lead (`IsTree.exists_mem_scanFrom`). -/

namespace WikiNotes

namespace Memory

variable {m : Memory}

/-! ### Places -/

theorem mem_places {place : Location} :
    place ∈ m.places ↔ m.files.contains place = true ∨ m.directories.contains place = true := by
  simp only [places, List.mem_append, SortedMap.mem_keys, SortedMap.contains_eq_true_iff]

theorem hasDirectory_iff {place : Location} :
    m.hasDirectory place = true ↔
      (∃ beneath, beneath ≠ [] ∧ place ++ beneath ∈ m.places) ∨
        m.directories.contains place = true := by
  simp only [hasDirectory, List.any_eq_true, Bool.and_eq_true, List.isPrefixOf_iff_prefix,
    Bool.or_eq_true, bne_iff_ne]
  constructor
  · rintro ⟨_, hmem, ⟨rest, rfl⟩, hne | hdir⟩
    · exact .inl ⟨rest, fun hnil => hne (by simp [hnil]), hmem⟩
    · exact .inr hdir
  · rintro (⟨beneath, hne, hmem⟩ | hdir)
    · exact ⟨_, hmem, List.prefix_append .., .inl (by simpa using hne)⟩
    · exact ⟨place, mem_places.mpr (.inr hdir), List.prefix_rfl, .inr hdir⟩

theorem mem_childNames {place : Location} {text : String} :
    text ∈ m.childNames place ↔ ∃ rest, place ++ .name text :: rest ∈ m.places := by
  simp only [childNames, SortedSet.mem_keys_ofList, List.mem_filterMap]
  constructor
  · rintro ⟨other, hmem, hname⟩
    split at hname
    case isFalse => exact nomatch hname
    case isTrue hbelow =>
      obtain ⟨rest, rfl⟩ := List.isPrefixOf_iff_prefix.mp hbelow
      rw [List.drop_left] at hname
      split at hname
      case h_1 text' rest' =>
        obtain rfl := Option.some.inj hname
        exact ⟨rest', hmem⟩
      case h_2 => exact nomatch hname
  · rintro ⟨rest, hmem⟩
    refine ⟨_, hmem, ?_⟩
    rw [if_pos (List.isPrefixOf_iff_prefix.mpr (List.prefix_append ..)), List.drop_left]

theorem length_le_height {place : Location} (h : place ∈ m.places) : place.length ≤ m.height := by
  -- A maximum taken from any start bounds that start as well.
  have hfold (ns : List Nat) (start : Nat) :
      start ≤ ns.foldl max start ∧ ∀ n ∈ ns, n ≤ ns.foldl max start := by
    induction ns generalizing start with
    | nil => simp
    | cons n rest ih =>
      obtain ⟨hstart, hrest⟩ := ih (max start n)
      simp only [List.foldl_cons, List.mem_cons, forall_eq_or_imp]
      exact ⟨by omega, by omega, hrest⟩
  exact (hfold _ 0).2 _ (List.mem_map_of_mem h)

/-! ### Reading and listing -/

theorem readText_congr {p q : Path} (h : p.location = q.location) :
    m.readText p = m.readText q := by
  rw [readText, readText, h]

/-- Only a file can be read. -/
theorem contains_of_readText_ok {path : Path} {content : String}
    (h : m.readText path = .ok content) : m.files.contains path.location = true := by
  simp only [readText] at h
  split at h
  case h_1 => exact nomatch h
  case h_2 =>
    split at h
    case h_1 hfile => exact SortedMap.contains_eq_true_iff.mpr ⟨_, hfile⟩
    case h_2 => exact nomatch h
    case h_3 => exact nomatch h

/-- An entry of a directory as it is listed. -/
def entryOf (m : Memory) (dir : Path) (name : String) : Entry where
  name := name
  path := dir.join ⟨name⟩
  kind := if m.files.contains (dir.location ++ [.name name]) then .file else .directory

/-- A directory is listed by the names of what lies in it. -/
theorem listDirectory_eq_ok {dir : Path} {entries : List Entry}
    (h : m.listDirectory dir = .ok entries) :
    entries = (m.childNames dir.location).map (m.entryOf dir) := by
  simp only [listDirectory] at h
  split at h
  case h_1 => exact nomatch h
  case h_2 =>
    split at h
    case isTrue => exact nomatch h
    case isFalse =>
      split at h
      case isTrue => exact (Except.ok.inj h).symm
      case isFalse => exact nomatch h

/-- A file is not listed. -/
theorem listDirectory_of_file {dir : Path} (h : m.files.contains dir.location = true) :
    (m.listDirectory dir).toOption = none := by
  simp only [listDirectory, h, if_true]
  split <;> rfl

/-- A directory can be listed if it is one and no failure is set for it. -/
theorem exists_listDirectory_iff {dir : Path} :
    (∃ entries, m.listDirectory dir = .ok entries) ↔ m.failures.find? dir.location = none ∧
      m.files.contains dir.location = false ∧ m.hasDirectory dir.location = true := by
  rw [listDirectory]
  cases m.failures.find? dir.location with
  | some error => simp
  | none =>
    cases m.files.contains dir.location with
    | true => simp
    | false => cases m.hasDirectory dir.location <;> simp

/-! ### Writing and deleting -/

theorem readText_write_of_ne {path p : Path} (content : FileContent)
    (h : p.location ≠ path.location) : (m.write path content).readText p = m.readText p := by
  simp only [readText, write, SortedMap.find?_insert_eq, if_neg h]

theorem contains_files_write (m : Memory) (path : Path) (content : FileContent) :
    (m.write path content).files.contains path.location = true := by
  simp [SortedMap.contains, write, SortedMap.find?_insert_eq]

theorem contains_files_delete {path : Path} {place : Location} :
    (m.delete path).files.contains place = true ↔
      m.files.contains place = true ∧ ¬ path.location <+: place := by
  simp only [SortedMap.contains_eq_true_iff, delete, SortedMap.find?_filter,
    Option.filter_eq_some_iff, Bool.not_eq_true', ← Bool.not_eq_true, List.isPrefixOf_iff_prefix,
    exists_and_right]

theorem contains_directories_delete {path : Path} {place : Location} :
    (m.delete path).directories.contains place = true ↔
      m.directories.contains place = true ∧ ¬ path.location <+: place := by
  simp only [SortedMap.contains_eq_true_iff, delete, SortedMap.find?_filter,
    Option.filter_eq_some_iff, Bool.not_eq_true', ← Bool.not_eq_true, List.isPrefixOf_iff_prefix,
    exists_and_right]

theorem mem_places_delete {path : Path} {place : Location} :
    place ∈ (m.delete path).places ↔ place ∈ m.places ∧ ¬ path.location <+: place := by
  rw [mem_places, mem_places, contains_files_delete, contains_directories_delete, or_and_right]

/-- Everything that a deletion leaves was there before. -/
theorem hasDirectory_of_delete {path : Path} {place : Location}
    (h : (m.delete path).hasDirectory place = true) : m.hasDirectory place = true := by
  simp only [hasDirectory_iff, mem_places_delete, contains_directories_delete] at h ⊢
  rcases h with ⟨beneath, hne, hmem, -⟩ | ⟨hdir, -⟩
  · exact .inl ⟨beneath, hne, hmem⟩
  · exact .inr hdir

theorem readText_delete_of_not_under {path p : Path} (h : ¬ path.location <+: p.location) :
    (m.delete path).readText p = m.readText p := by
  have hfind : (m.delete path).files.find? p.location = m.files.find? p.location := by
    have hkept : (!path.location.isPrefixOf p.location) = true := by
      rwa [Bool.not_eq_true', ← Bool.not_eq_true, List.isPrefixOf_iff_prefix]
    simp only [delete, SortedMap.find?_filter, hkept]
    cases m.files.find? p.location <;> rfl
  simp only [readText, hfind]
  rfl

/-! ### Trees -/

/-- Every place is that of a path, and nothing lies beneath a file. -/
structure IsTree (m : Memory) : Prop where
  /-- Every place is that of a path. -/
  spelled {place : Location} : place ∈ m.places → ∃ path : Path, path.location = place
  /-- A file is no directory. -/
  file_leaf {place : Location} : m.files.contains place = true → m.hasDirectory place = false

/-- A tree whose directories can be listed and whose notes can be read or are not found. -/
structure Legible (m : Memory) : Prop extends IsTree m where
  /-- Every directory can be listed. -/
  listable {dir : Path} : m.hasDirectory dir.location = true →
    ∃ entries, m.listDirectory dir = .ok entries
  /-- Every note can be read or is not found. -/
  readable {path : Path} : m.files.contains path.location = true → hasNoteExtension path = true →
    (∃ content, m.readText path = .ok content) ∨
      ∃ error, m.readText path = .error error ∧ error.kind = .notFound

/-- A tree in which all files are text and nothing is set to fail, as a check of its entries. -/
def IsPlain (m : Memory) : Prop :=
  (∀ place ∈ m.places, (Path.ofLocation place).location = place) ∧
    (∀ place ∈ m.files.keys, m.hasDirectory place = false) ∧
    (∀ content ∈ m.files.values, content ≠ .binary) ∧ m.failures = .empty

instance (m : Memory) : Decidable m.IsPlain := inferInstanceAs (Decidable (_ ∧ _ ∧ _ ∧ _))

theorem IsPlain.legible (h : m.IsPlain) : m.Legible := by
  obtain ⟨hspelled, hleaf, htext, hfailures⟩ := h
  have hfile {place : Location} (hplace : m.files.contains place = true) :
      m.hasDirectory place = false :=
    hleaf place (SortedMap.mem_keys.mpr (SortedMap.contains_eq_true_iff.mp hplace))
  refine ⟨⟨fun hmem => ⟨_, hspelled _ hmem⟩, hfile⟩, fun {dir} hdir => ?_, fun {path} hnote _ => ?_⟩
  · refine exists_listDirectory_iff.mpr ⟨by rw [hfailures]; rfl, ?_, hdir⟩
    rw [← Bool.not_eq_true]
    exact fun hplace => nomatch hdir.symm.trans (hfile hplace)
  · obtain ⟨content, hcontent⟩ := SortedMap.contains_eq_true_iff.mp hnote
    cases content with
    | binary => exact absurd rfl (htext _ (SortedMap.mem_values.mpr ⟨_, hcontent⟩))
    | text content => exact .inl ⟨content, by simp [readText, hfailures, hcontent]⟩

/-- Nothing lies beneath a file. -/
theorem IsTree.not_mem_beneath (h : m.IsTree) {place beneath : Location}
    (hfile : m.files.contains place = true) (hne : beneath ≠ []) :
    place ++ beneath ∉ m.places := fun hmem => by
  have hdir : m.hasDirectory place = true := hasDirectory_iff.mpr (.inl ⟨beneath, hne, hmem⟩)
  rw [h.file_leaf hfile] at hdir
  exact nomatch hdir

theorem IsTree.no_file_beneath (h : m.IsTree) {base place : Location}
    (hfile : m.files.contains base = true) (hbelow : base <+: place) (hne : place ≠ base) :
    m.files.contains place = false := by
  obtain ⟨beneath, rfl⟩ := hbelow
  rw [← Bool.not_eq_true]
  intro hplace
  exact h.not_mem_beneath hfile (by simpa using hne) (mem_places.mpr (.inl hplace))

theorem IsTree.isEntryName (h : m.IsTree) {place : Location} {text : String}
    (hmem : place ∈ m.places) (hname : .name text ∈ place) : IsEntryName text := by
  obtain ⟨path, rfl⟩ := h.spelled hmem
  exact Path.isEntryName_of_mem_location hname

theorem IsTree.isEntryName_of_mem_childNames (h : m.IsTree) {place : Location} {name : String}
    (hname : name ∈ m.childNames place) : IsEntryName name := by
  obtain ⟨rest, hmem⟩ := mem_childNames.mp hname
  exact h.isEntryName hmem (by simp)

theorem IsTree.location_entryOf (h : m.IsTree) {dir : Path} {name : String}
    (hname : name ∈ m.childNames dir.location) :
    (m.entryOf dir name).path.location = dir.location ++ [.name name] :=
  Path.location_join dir (h.isEntryName_of_mem_childNames hname)

/-- The path of whatever is listed in a tree is that of its directory joined with its name. -/
theorem IsTree.joinsNames (h : m.IsTree) : m.fileSystem.JoinsNames := by
  intro dir entries hlist entry hentry
  rw [listDirectory_eq_ok hlist, List.mem_map] at hentry
  obtain ⟨name, hname, rfl⟩ := hentry
  exact ⟨h.isEntryName_of_mem_childNames hname, rfl⟩

/-- What cannot be read is still a tree. -/
theorem IsTree.fail (h : m.IsTree) (path : Path) (error : ReadError) : (m.fail path error).IsTree :=
  ⟨h.spelled, h.file_leaf⟩

/-- Deleting leaves a tree. -/
theorem IsTree.delete (h : m.IsTree) (path : Path) : (m.delete path).IsTree where
  spelled hmem := h.spelled (mem_places_delete.mp hmem).1
  file_leaf {place} hfile := by
    have hleaf := h.file_leaf (contains_files_delete.mp hfile).1
    cases hdir : (m.delete path).hasDirectory place with
    | false => rfl
    | true => exact nomatch hleaf.symm.trans (hasDirectory_of_delete hdir)

/-- Deleting leaves what can be read. -/
theorem Legible.delete (h : m.Legible) (path : Path) : (m.delete path).Legible where
  toIsTree := h.toIsTree.delete path
  listable {dir} hdir := by
    obtain ⟨hopen, hfile, -⟩ :=
      exists_listDirectory_iff.mp (h.listable (hasDirectory_of_delete hdir))
    refine exists_listDirectory_iff.mpr ⟨hopen, ?_, hdir⟩
    rw [← Bool.not_eq_true, contains_files_delete, hfile]
    simp
  readable {p} hfile hnote := by
    obtain ⟨hfile, hkept⟩ := contains_files_delete.mp hfile
    rw [readText_delete_of_not_under hkept]
    exact h.readable hfile hnote

/-- A tree in memory is a lawful file system. -/
theorem IsTree.lawful (h : m.IsTree) : m.fileSystem.Lawful where
  readText_congr := readText_congr
  entries?_congr {p q} hplace := by
    simp only [FileSystem.entries?, fileSystem, listDirectory, hplace]
    cases m.failures.find? q.location with
    | some error => rfl
    | none =>
      cases m.files.contains q.location with
      | true => rfl
      | false => cases m.hasDirectory q.location <;> simp [Except.toOption, Function.comp_def]
  entry_location := h.joinsNames.listsInside _ _

/-- A scan finds every note to which only directories that can be listed lead, if it may go deep
    enough. -/
theorem IsTree.exists_mem_scanFrom (h : m.IsTree) {depth : Nat} {dir path : Path}
    {beneath : Location} (hplace : path.location = dir.location ++ beneath)
    (hfile : m.files.contains path.location = true) (hnote : hasNoteExtension path = true)
    (hne : beneath ≠ []) (hshown : beneath.all isShown = true) (hdepth : beneath.length ≤ depth)
    (hopen : ∀ front back, beneath = front ++ back → back ≠ [] →
      ∀ between : Path, between.location = dir.location ++ front →
        ∃ entries, m.listDirectory between = .ok entries) :
    ∃ found ∈ (scanFrom m.fileSystem depth dir).notes, found.location = path.location := by
  -- Every component on the way down takes up one level of the depth.
  induction beneath generalizing depth dir with
  | nil => exact absurd rfl hne
  | cons component rest ih =>
    cases depth with
    | zero => exact absurd hdepth (Nat.not_succ_le_zero _)
    | succ depth =>
      rw [List.all_cons, Bool.and_eq_true] at hshown
      cases component with
      | root => exact nomatch hshown.1
      | current => exact nomatch hshown.1
      | parent => exact nomatch hshown.1
      | name text =>
        obtain ⟨entries, hlist⟩ := hopen [] _ rfl hne dir (by simp)
        have hmem : path.location ∈ m.places := mem_places.mpr (.inl hfile)
        have hchild : text ∈ m.childNames dir.location :=
          mem_childNames.mpr ⟨rest, hplace ▸ hmem⟩
        have hentry := h.location_entryOf hchild
        have hlisted : m.entryOf dir text ∈ entries := by
          rw [listDirectory_eq_ok hlist]
          exact List.mem_map_of_mem hchild
        have hstep (found : Path)
            (hfound : found ∈
              (scanEntry (scanFrom m.fileSystem depth) (m.entryOf dir text)).notes) :
            found ∈ (scanFrom m.fileSystem (depth + 1) dir).notes :=
          mem_scanFrom_succ.mpr ⟨entries, hlist, _, hlisted, hfound⟩
        cases rest with
        | nil =>
          -- The entry is the note itself.
          have hsame : (m.entryOf dir text).path.location = path.location := by rw [hentry, hplace]
          have hkind : (m.entryOf dir text).kind = .file := by
            rw [entryOf, if_pos (hplace ▸ hfile)]
          refine ⟨_, hstep _ (mem_scanEntry.mpr ⟨hshown.1, ?_⟩), hsame⟩
          rw [hkind]
          exact ⟨(hasNoteExtension_congr hsame).trans hnote, rfl⟩
        | cons next rest =>
          -- The note lies beneath the entry, which is no file for that reason.
          have hkind : (m.entryOf dir text).kind = .directory := by
            rw [entryOf, if_neg]
            intro hfile'
            refine h.not_mem_beneath hfile' (List.cons_ne_nil next rest) ?_
            rwa [List.append_assoc, List.singleton_append, ← hplace]
          have hplace' : path.location = (m.entryOf dir text).path.location ++ next :: rest := by
            rw [hplace, hentry, List.append_assoc, List.singleton_append]
          obtain ⟨found, hfound, hsame⟩ := ih hplace' (List.cons_ne_nil next rest) hshown.2
            (Nat.le_of_succ_le_succ hdepth) fun front back hsplit hback between hbetween =>
              hopen (.name text :: front) back (by rw [hsplit, List.cons_append]) hback between
                (by rw [hbetween, hentry, List.append_assoc, List.singleton_append])
          refine ⟨found, hstep _ (mem_scanEntry.mpr ⟨hshown.1, ?_⟩), hsame⟩
          rw [hkind]
          exact hfound

/-- A scan of the root of a legible memory finds every eligible note. -/
theorem Legible.exists_mem_scan (h : m.Legible) {root path : Path}
    (heligible : isEligible root path = true) (hfile : m.files.contains path.location = true) :
    ∃ found ∈ (scan m.fileSystem root).notes, found.location = path.location := by
  obtain ⟨hnote, beneath, hplace, hne, hshown⟩ := isEligible_iff.mp heligible
  have hmem : path.location ∈ m.places := mem_places.mpr (.inl hfile)
  -- No place lies deeper than the memory is high.
  have hdepth : beneath.length ≤ m.fileSystem.depth := by
    have hheight := length_le_height hmem
    rw [hplace, List.length_append] at hheight
    simp only [fileSystem]
    omega
  simp only [mem_scan]
  refine h.exists_mem_scanFrom hplace hfile hnote hne hshown hdepth
    fun front back hsplit hback between hbetween => h.listable (hasDirectory_iff.mpr (.inl ?_))
  exact ⟨back, hback, by rw [hbetween, List.append_assoc, ← hsplit, ← hplace]; exact hmem⟩

end Memory

end WikiNotes
