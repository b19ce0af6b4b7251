import Mathlib.Logic.Relation
import WikiNotes.Proofs.Storage.Memory

/-! # The directories that a scan comes to

A scan goes from a directory into the shown directories that it lists (`FileSystem.Reaches`).  In a
finite tree (`FileSystem.IsFiniteTree`) it can be told from a path whether the directory there is
reached: everything above it can be listed and nothing on the way is hidden
(`IsFiniteTree.exists_reaches_iff`). -/

namespace WikiNotes

/-! ### Entries -/

/-- Whether an entry is a directory that is not hidden. -/
def Entry.isShownDirectory (entry : Entry) : Bool :=
  !isHiddenName entry.name && entry.kind == .directory

/-- Whether an entry is a note that is not hidden. -/
def Entry.isShownNote (entry : Entry) : Bool :=
  !isHiddenName entry.name && entry.kind == .file && hasNoteExtension entry.path

theorem Entry.isShownDirectory_iff {entry : Entry} :
    entry.isShownDirectory = true ↔
      isShown (.name entry.name) = true ∧ entry.kind = .directory := by
  simp [isShownDirectory, isShown]

theorem Entry.isShownNote_iff {entry : Entry} :
    entry.isShownNote = true ↔
      isShown (.name entry.name) = true ∧ entry.kind = .file ∧
        hasNoteExtension entry.path = true := by
  simp [isShownNote, isShown, and_assoc]

namespace FileSystem

/-- The shown directories right in a directory. -/
def subdirectories (files : FileSystem) (dir : Path) : List Path :=
  match files.listDirectory dir with
  | .error _ => []
  | .ok entries => (entries.filter Entry.isShownDirectory).map Entry.path

theorem mem_subdirectories {files : FileSystem} {dir inner : Path} :
    inner ∈ files.subdirectories dir ↔ ∃ entries, files.listDirectory dir = .ok entries ∧
      ∃ entry ∈ entries, isShown (.name entry.name) = true ∧ entry.kind = .directory ∧
        entry.path = inner := by
  rw [subdirectories]
  cases files.listDirectory dir with
  | error error => simp
  | ok entries => simp [Entry.isShownDirectory_iff, and_assoc]

/-! ### Trees -/

/-- A directory can be listed. -/
def Listable (files : FileSystem) (dir : Path) : Prop :=
  ∃ entries, files.listDirectory dir = .ok entries

/-- A directory lists what is at the place of a path, as a file or as a directory. -/
def Holds (files : FileSystem) (kind : EntryKind) (path : Path) : Prop :=
  ∃ dir entries, files.listDirectory dir = .ok entries ∧
    ∃ entry ∈ entries, entry.kind = kind ∧ entry.path.location = path.location

/-- The root and every directory between it and a path can be listed. -/
def OpenTo (files : FileSystem) (root path : Path) : Prop :=
  ∀ dir : Path, root.location <+: dir.location → dir.location <+: path.location →
    dir.location ≠ path.location → files.Listable dir

/-- So many shown directories lie one inside another beneath a directory. -/
def Nests (files : FileSystem) : Nat → Path → Prop
  | 0, _ => True
  | n + 1, dir => ∃ inner ∈ files.subdirectories dir, Nests files n inner

/-- A file system in which directories form a finite tree.  Any of them may fail to be listed. -/
structure IsFiniteTree (files : FileSystem) : Prop extends LawfulListing files where
  /-- A directory lists a name once. -/
  names_nodup {dir : Path} {entries : List Entry} :
    files.listDirectory dir = .ok entries → (entries.map Entry.name).Nodup
  /-- A directory that can be listed is listed as one where it lies. -/
  listed {dir inner : Path} {entries : List Entry} {name : String} :
    files.listDirectory dir = .ok entries → files.Listable inner →
      inner.location = dir.location ++ [.name name] →
        ∃ entry ∈ entries, entry.name = name ∧ entry.kind = .directory
  /-- Fewer directories lie one inside another than the depth says. -/
  bounded (dir : Path) : ¬ files.Nests files.depth dir

variable {files : FileSystem} {root dir inner path target : Path} {entries : List Entry}

theorem Holds.congr {kind : EntryKind} (h : files.Holds kind path)
    (hplace : path.location = target.location) : files.Holds kind target := by
  obtain ⟨dir, entries, hlist, entry, hentry, hkind, hsame⟩ := h
  exact ⟨dir, entries, hlist, entry, hentry, hkind, hsame.trans hplace⟩

theorem LawfulListing.listable_congr (h : files.LawfulListing) {p q : Path}
    (hplace : p.location = q.location) : files.Listable p ↔ files.Listable q := by
  have hentries := h.entries?_congr hplace
  simp only [entries?] at hentries
  rw [Listable, Listable]
  cases hp : files.listDirectory p <;> cases hq : files.listDirectory q <;>
    simp [hp, hq, Except.toOption] at hentries ⊢

/-- What a directory lists it lists however it is spelled. -/
theorem LawfulListing.exists_entry_congr (h : files.LawfulListing) {p q : Path}
    {entries entries' : List Entry} (hplace : p.location = q.location)
    (hp : files.listDirectory p = .ok entries) (hq : files.listDirectory q = .ok entries')
    {entry : Entry} (hentry : entry ∈ entries) :
    ∃ entry' ∈ entries', entry'.name = entry.name ∧ entry'.kind = entry.kind := by
  have hentries := h.entries?_congr hplace
  simp only [entries?, hp, hq, Except.toOption, Option.map_some, Option.some.injEq] at hentries
  have hmem := List.mem_map_of_mem (f := fun entry => (entry.name, entry.kind)) hentry
  rw [hentries, List.mem_map] at hmem
  obtain ⟨entry', hentry', hsame⟩ := hmem
  exact ⟨entry', hentry', Prod.mk.inj hsame⟩

/-- What lies right in a directory that can be listed is held if the directory lists it. -/
theorem LawfulListing.holds_iff (h : files.LawfulListing) {name : String} {kind : EntryKind}
    (hlist : files.listDirectory dir = .ok entries)
    (hplace : path.location = dir.location ++ [.name name]) :
    files.Holds kind path ↔ ∃ entry ∈ entries, entry.name = name ∧ entry.kind = kind := by
  constructor
  · rintro ⟨holder, entries', hlist', entry', hentry', hkind, hsame⟩
    rw [h.entry_location hlist' entry' hentry', hplace, List.append_singleton_inj,
      Component.name.injEq] at hsame
    obtain ⟨entry, hentry, hname, hkind'⟩ :=
      h.exists_entry_congr hsame.1 hlist' hlist hentry'
    exact ⟨entry, hentry, hname.trans hsame.2, hkind'.trans hkind⟩
  · rintro ⟨entry, hentry, rfl, hkind⟩
    exact ⟨dir, entries, hlist, entry, hentry, hkind,
      (h.entry_location hlist entry hentry).trans hplace.symm⟩

/-- What is open as far as a directory that can be listed is open to what lies right in it. -/
theorem LawfulListing.openTo_inside (h : files.LawfulListing) {component : Component}
    (hopen : files.OpenTo root dir) (hlist : files.Listable dir)
    (hplace : path.location = dir.location ++ [component]) : files.OpenTo root path := by
  intro between hle hge hne
  -- A place above one right in the directory is that of the directory or above it.
  have habove : between.location <+: dir.location := by
    refine List.prefix_of_prefix_length_le hge ⟨_, hplace.symm⟩ ?_
    have hlength : between.location.length ≠ path.location.length :=
      fun heq => hne (hge.eq_of_length heq)
    have hle' := hge.length_le
    rw [hplace, List.length_append, List.length_singleton] at hlength hle'
    omega
  by_cases hsame : between.location = dir.location
  · exact (h.listable_congr hsame).mpr hlist
  · exact hopen between hle habove hsame

/-- What is open to a path is open to whatever lies above the path. -/
theorem OpenTo.of_above (hopen : files.OpenTo root path) (habove : dir.location <+: path.location) :
    files.OpenTo root dir := fun between hle hge hne =>
  hopen between hle (hge.trans habove) fun heq =>
    hne (hge.eq_of_length_le (heq ▸ habove.length_le))

/-! ### Reaching directories -/

/-- A directory is reached from another one by going into shown directories. -/
def Reaches (files : FileSystem) : Path → Path → Prop :=
  Relation.ReflTransGen fun dir inner => inner ∈ files.subdirectories dir

theorem LawfulListing.location_of_mem_subdirectories (h : files.LawfulListing)
    (hinner : inner ∈ files.subdirectories dir) :
    ∃ name, inner.location = dir.location ++ [.name name] ∧ isShown (.name name) = true := by
  obtain ⟨entries, hlist, entry, hentry, hshown, -, rfl⟩ := mem_subdirectories.mp hinner
  exact ⟨entry.name, h.entry_location hlist entry hentry, hshown⟩

/-- What is reached lies at or beneath the start, nothing on the way is hidden and everything above
    it can be listed. -/
theorem LawfulListing.reaches_sound (h : files.LawfulListing) (hreach : files.Reaches root target) :
    isEligibleDirectory root target = true ∧ files.OpenTo root target ∧
      (target = root ∨ files.Holds .directory target) := by
  induction hreach with
  | refl =>
    refine ⟨isEligibleDirectory_self root, fun between hle hge hne => ?_, .inl rfl⟩
    exact absurd (hge.eq_of_length_le hle.length_le) hne
  | @tail dir target _ hinner ih =>
    obtain ⟨heligible, hopen, -⟩ := ih
    obtain ⟨beneath, hbeneath, hall⟩ := isEligibleDirectory_iff.mp heligible
    obtain ⟨name, hplace, hshown⟩ := h.location_of_mem_subdirectories hinner
    obtain ⟨entries, hlist, entry, hentry, -, hkind, rfl⟩ := mem_subdirectories.mp hinner
    refine ⟨isEligibleDirectory_iff.mpr ⟨beneath ++ [.name name], ?_, by simp [hall, hshown]⟩,
      h.openTo_inside hopen ⟨entries, hlist⟩ hplace,
      .inr ⟨dir, entries, hlist, entry, hentry, hkind, rfl⟩⟩
    rw [hplace, hbeneath, List.append_assoc]

theorem LawfulListing.prefix_of_reaches (h : files.LawfulListing)
    (hreach : files.Reaches dir target) : dir.location <+: target.location := by
  obtain ⟨beneath, hbeneath, -⟩ := isEligibleDirectory_iff.mp (h.reaches_sound hreach).1
  exact ⟨beneath, hbeneath.symm⟩

/-- A directory that is there is reached if nothing on the way is hidden and everything above it can
    be listed. -/
theorem IsFiniteTree.exists_reaches (h : files.IsFiniteTree) {beneath : Location}
    (hbeneath : target.location = dir.location ++ beneath) (hshown : beneath.all isShown = true)
    (hopen : files.OpenTo dir target)
    (hthere : beneath = [] ∨ files.Holds .directory target ∨ files.Listable target) :
    ∃ found, files.Reaches dir found ∧ found.location = target.location := by
  induction beneath generalizing dir with
  | nil => exact ⟨dir, .refl, by simp [hbeneath]⟩
  | cons component rest ih =>
    rw [List.all_cons, Bool.and_eq_true] at hshown
    cases component with
    | root => exact nomatch hshown.1
    | current => exact nomatch hshown.1
    | parent => exact nomatch hshown.1
    | name text =>
      obtain ⟨entries, hlist⟩ := hopen dir List.prefix_rfl ⟨_, hbeneath.symm⟩
        (by simp [hbeneath])
      -- The directory lists the next one, because that can be listed or is held somewhere.
      have hnext : ∃ entry ∈ entries, entry.name = text ∧ entry.kind = .directory := by
        cases rest with
        | nil =>
          obtain hnil | hholds | hlistable := hthere
          · exact nomatch hnil
          · exact (h.holds_iff hlist hbeneath).mp hholds
          · exact h.listed hlist hlistable hbeneath
        | cons next rest =>
          have hentryName : IsEntryName text :=
            Path.isEntryName_of_mem_location (p := target) (by simp [hbeneath])
          have hplace := Path.location_join dir hentryName
          refine h.listed hlist (hopen (dir.join ⟨text⟩) ?_ ?_ ?_) hplace
          · simp [hplace]
          · exact ⟨next :: rest, by simp [hplace, hbeneath]⟩
          · simp [hplace, hbeneath]
      obtain ⟨entry, hentry, rfl, hkind⟩ := hnext
      have hplace := h.entry_location hlist entry hentry
      have hopen' : files.OpenTo entry.path target := fun between hle =>
        hopen between ((hplace ▸ List.prefix_append ..).trans hle)
      obtain ⟨found, hfound, hsame⟩ := ih (by simp [hbeneath, hplace])
        hshown.2 hopen' (.inr (hthere.resolve_left (List.cons_ne_nil _ _)))
      have hinner : entry.path ∈ files.subdirectories dir :=
        mem_subdirectories.mpr ⟨entries, hlist, entry, hentry, hshown.1, hkind, rfl⟩
      exact ⟨found, .head hinner hfound, hsame⟩

/-- A directory is reached from a root exactly if it is there, nothing on the way to it is hidden
    and everything above it can be listed. -/
theorem IsFiniteTree.exists_reaches_iff (h : files.IsFiniteTree) :
    (∃ found, files.Reaches root found ∧ found.location = target.location) ↔
      (target.location = root.location ∨ files.Holds .directory target) ∧
        isEligibleDirectory root target = true ∧ files.OpenTo root target := by
  constructor
  · rintro ⟨found, hreach, hsame⟩
    obtain ⟨heligible, hopen, hthere⟩ := h.reaches_sound hreach
    refine ⟨?_, isEligibleDirectory_congr hsame ▸ heligible,
      hopen.of_above (hsame ▸ List.prefix_rfl)⟩
    rcases hthere with rfl | hholds
    · exact .inl hsame.symm
    · exact .inr (hholds.congr hsame)
  · rintro ⟨hthere, heligible, hopen⟩
    obtain ⟨beneath, hbeneath, hall⟩ := isEligibleDirectory_iff.mp heligible
    refine h.exists_reaches hbeneath hall hopen ?_
    rcases hthere with hroot | hholds
    · exact .inl (by simpa [hroot] using hbeneath)
    · exact .inr (.inl hholds)

end FileSystem

/-! ### Trees in memory -/

namespace Memory

variable {m : Memory}

theorem listDirectory_ok {dir : Path} {entries : List Entry}
    (hlist : m.fileSystem.listDirectory dir = .ok entries) {entry : Entry} :
    entry ∈ entries ↔ ∃ name ∈ m.childNames dir.location, m.entryOf dir name = entry := by
  rw [listDirectory_eq_ok hlist, List.mem_map]

/-- No directory of a tree lies deeper than the longest of its places. -/
theorem IsTree.nests_height (h : m.IsTree) {n : Nat} {dir : Path}
    (hnests : m.fileSystem.Nests (n + 1) dir) : dir.location.length + (n + 1) ≤ m.height := by
  induction n generalizing dir with
  | zero =>
    obtain ⟨inner, hinner, -⟩ := hnests
    obtain ⟨entries, hlist, entry, hentry, -, -, -⟩ := FileSystem.mem_subdirectories.mp hinner
    obtain ⟨name, hname, -⟩ := (listDirectory_ok hlist).mp hentry
    obtain ⟨rest, hmem⟩ := mem_childNames.mp hname
    have hheight := length_le_height hmem
    simp only [List.length_append, List.length_cons] at hheight
    omega
  | succ n ih =>
    obtain ⟨inner, hinner, hnests⟩ := hnests
    obtain ⟨name, hplace, -⟩ := h.lawful.location_of_mem_subdirectories hinner
    have hheight := ih hnests
    rw [hplace, List.length_append, List.length_singleton] at hheight
    omega

/-- A tree in memory is finite, whatever of it cannot be read. -/
theorem IsTree.isFiniteTree (h : m.IsTree) : m.fileSystem.IsFiniteTree where
  toLawfulListing := h.lawful.toLawfulListing
  names_nodup {dir entries} hlist := by
    rw [listDirectory_eq_ok hlist, List.map_map]
    have hnames : (m.childNames dir.location).Nodup :=
      (SortedMap.keys_ascending _).imp fun hlt heq => by
        rw [heq, Std.ReflOrd.compare_self] at hlt
        exact nomatch hlt
    exact (List.map_id _).symm ▸ hnames
  listed {dir inner entries name} hlist hinner hplace := by
    obtain ⟨-, hfile, hdirectory⟩ := exists_listDirectory_iff.mp hinner
    rw [hplace] at hfile hdirectory
    have hname : name ∈ m.childNames dir.location := by
      rcases hasDirectory_iff.mp hdirectory with ⟨beneath, -, hmem⟩ | hmade
      · exact mem_childNames.mpr ⟨beneath, by simpa using hmem⟩
      · exact mem_childNames.mpr ⟨[], mem_places.mpr (.inr hmade)⟩
    exact ⟨_, (listDirectory_ok hlist).mpr ⟨name, hname, rfl⟩, rfl, by simp [entryOf, hfile]⟩
  bounded dir hnests := by
    have hheight := h.nests_height (n := m.height) hnests
    omega

end Memory

end WikiNotes
