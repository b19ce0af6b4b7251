import WikiNotes.Proofs.Path
import WikiNotes.Proofs.SortedMap
import WikiNotes.Scan

/-! # What is eligible and what a scan finds

`isEligible` looks at a path from its end, `scan` comes to it from the root.  Both are told here by
the components beneath the root: `isEligible_iff` and `isEligibleDirectory_iff` for the test,
`mem_scanFrom_succ` and `beneath_of_mem_scanFrom` for the walk.  A scan of an eligible directory
finds nothing but eligible notes (`isEligible_of_mem_scan`).

`FileSystem.LawfulListing` is what is taken for granted about listing directories: the spelling of a
path plays no part, and a directory lists what lies right in it (`FileSystem.ListsInside`).  It does
so if the path of an entry is that of the directory joined with a name (`FileSystem.JoinsNames`).
Where notes are read too, their spelling is to play no part either (`FileSystem.Lawful`). -/

namespace WikiNotes

/-- The names and kinds of what is listed in a directory, if it can be listed. -/
def FileSystem.entries? (files : FileSystem) (dir : Path) : Option (List (String × EntryKind)) :=
  (files.listDirectory dir).toOption.map (·.map fun entry => (entry.name, entry.kind))

/-- Whatever is listed in a directory is at the place right beneath it that its name says. -/
def FileSystem.ListsInside (files : FileSystem) : Prop :=
  ∀ (dir : Path) (entries : List Entry), files.listDirectory dir = .ok entries →
    ∀ entry ∈ entries, entry.path.location = dir.location ++ [.name entry.name]

/-- Whatever is listed in a directory has a name, and its path is that of the directory joined with
    the name. -/
def FileSystem.JoinsNames (files : FileSystem) : Prop :=
  ∀ (dir : Path) (entries : List Entry), files.listDirectory dir = .ok entries →
    ∀ entry ∈ entries, IsEntryName entry.name ∧ entry.path = dir.join ⟨entry.name⟩

theorem FileSystem.JoinsNames.listsInside {files : FileSystem} (h : files.JoinsNames) :
    files.ListsInside := by
  intro dir entries hlist entry hentry
  obtain ⟨hname, hpath⟩ := h dir entries hlist entry hentry
  rw [hpath, Path.location_join dir hname]

/-- A file system in which listing goes by places, and which lists what lies right in a
    directory. -/
structure FileSystem.LawfulListing (files : FileSystem) : Prop where
  /-- The spelling of a path makes no difference to what is listed. -/
  entries?_congr {p q : Path} : p.location = q.location → files.entries? p = files.entries? q
  /-- An entry is at the place right beneath its directory that it names. -/
  entry_location {dir : Path} {entries : List Entry} : files.listDirectory dir = .ok entries →
    ∀ entry ∈ entries, entry.path.location = dir.location ++ [.name entry.name]

/-- A file system in which listing and reading go by places. -/
structure FileSystem.Lawful (files : FileSystem) : Prop extends LawfulListing files where
  /-- The spelling of a path makes no difference to what is read. -/
  readText_congr {p q : Path} : p.location = q.location → files.readText p = files.readText q

theorem FileSystem.LawfulListing.listsInside {files : FileSystem} (h : files.LawfulListing) :
    files.ListsInside := fun _ _ => h.entry_location

/-! ### Eligible paths -/

theorem hasNoteExtension_congr {p q : Path} (h : p.location = q.location) :
    hasNoteExtension p = hasNoteExtension q := by
  rw [hasNoteExtension, hasNoteExtension, Path.extension?_congr h]

theorem shownBeneath?_congr {root p q : Path} (h : p.location = q.location) :
    shownBeneath? root p = shownBeneath? root q := by
  rw [shownBeneath?, shownBeneath?, Path.isUnder_congr h, h]

theorem isEligible_congr {root p q : Path} (h : p.location = q.location) :
    isEligible root p = isEligible root q := by
  rw [isEligible, isEligible, shownBeneath?_congr h, hasNoteExtension_congr h]

theorem isEligibleDirectory_congr {root p q : Path} (h : p.location = q.location) :
    isEligibleDirectory root p = isEligibleDirectory root q := by
  rw [isEligibleDirectory, isEligibleDirectory, shownBeneath?_congr h]

theorem shownBeneath?_eq_some_iff {root p : Path} {beneath : Location} :
    shownBeneath? root p = some beneath ↔
      p.location = root.location ++ beneath ∧ beneath.all isShown = true := by
  rw [shownBeneath?]
  split
  case isTrue hunder =>
    obtain ⟨rest, hrest⟩ := Path.isUnder_iff.mp hunder
    simp only [hrest, List.drop_left, List.append_cancel_left_eq]
    split
    case isTrue hshown => grind
    case isFalse hhidden => grind
  case isFalse houtside =>
    have hnot : p.location ≠ root.location ++ beneath := fun h =>
      houtside (Path.isUnder_iff.mpr ⟨beneath, h⟩)
    simp [hnot]

/-- A path is that of a directory of a root if nothing beneath the root is hidden on it. -/
theorem isEligibleDirectory_iff {root dir : Path} :
    isEligibleDirectory root dir = true ↔
      ∃ beneath, dir.location = root.location ++ beneath ∧ beneath.all isShown = true := by
  simp only [isEligibleDirectory, Option.isSome_iff_exists, shownBeneath?_eq_some_iff]

/-- A path is that of a note of a root if it has the extension and leads beneath the root without
    anything hidden on it. -/
theorem isEligible_iff {root path : Path} :
    isEligible root path = true ↔ hasNoteExtension path = true ∧
      ∃ beneath, path.location = root.location ++ beneath ∧ beneath ≠ [] ∧
        beneath.all isShown = true := by
  simp only [isEligible, Bool.and_eq_true, Option.any_eq_true, shownBeneath?_eq_some_iff,
    Bool.not_eq_true', List.isEmpty_eq_false_iff]
  grind

theorem isEligibleDirectory_self (root : Path) : isEligibleDirectory root root = true :=
  isEligibleDirectory_iff.mpr ⟨[], by simp⟩

/-! ### What is found -/

/-- An entry that is shown adds itself if it is a note, and what is in it if it is a directory. -/
theorem mem_scanEntry {inDirectory : Path → ScanReport} {entry : Entry} {path : Path} :
    path ∈ (scanEntry inDirectory entry).notes ↔ isShown (.name entry.name) = true ∧
      match entry.kind with
      | .directory => path ∈ (inDirectory entry.path).notes
      | .file => hasNoteExtension entry.path = true ∧ path = entry.path := by
  simp only [scanEntry, isShown]
  cases hhidden : isHiddenName entry.name with
  | true => simp [ScanReport.empty]
  | false =>
    cases entry.kind with
    | directory => simp
    | file => cases hnote : hasNoteExtension entry.path <;> simp [ScanReport.empty]

theorem mem_scanFrom_zero {files : FileSystem} {dir path : Path} :
    ¬ path ∈ (scanFrom files 0 dir).notes := by
  simp [scanFrom, ScanReport.empty]

/-- What is found in a directory is what its entries add. -/
theorem notes_scanFrom_of_ok {files : FileSystem} {depth : Nat} {dir : Path} {entries : List Entry}
    (hlist : files.listDirectory dir = .ok entries) :
    (scanFrom files (depth + 1) dir).notes =
      entries.flatMap fun entry => (scanEntry (scanFrom files depth) entry).notes := by
  simp only [scanFrom, hlist]
  clear hlist
  induction entries with
  | nil => rfl
  | cons entry rest ih =>
    rw [List.foldr_cons, List.flatMap_cons, ← ih]
    rfl

theorem mem_scanFrom_succ {files : FileSystem} {depth : Nat} {dir path : Path} :
    path ∈ (scanFrom files (depth + 1) dir).notes ↔
      ∃ entries, files.listDirectory dir = .ok entries ∧
        ∃ entry ∈ entries, path ∈ (scanEntry (scanFrom files depth) entry).notes := by
  cases hlist : files.listDirectory dir with
  | error error => simp [scanFrom, hlist]
  | ok entries => simp [notes_scanFrom_of_ok hlist]

theorem mem_scan {files : FileSystem} {dir path : Path} :
    path ∈ (scan files dir).notes ↔ path ∈ (scanFrom files files.depth dir).notes :=
  mem_sortBy

/-- What is found has the extension of a note. -/
theorem hasNoteExtension_of_mem_scanFrom {files : FileSystem} {depth : Nat} {dir path : Path}
    (hfound : path ∈ (scanFrom files depth dir).notes) : hasNoteExtension path = true := by
  induction depth generalizing dir with
  | zero => exact absurd hfound mem_scanFrom_zero
  | succ depth ih =>
    obtain ⟨-, -, entry, -, hfound⟩ := mem_scanFrom_succ.mp hfound
    obtain ⟨-, hfound⟩ := mem_scanEntry.mp hfound
    cases hkind : entry.kind with
    | file =>
      rw [hkind] at hfound
      obtain ⟨hnote, rfl⟩ := hfound
      exact hnote
    | directory =>
      rw [hkind] at hfound
      exact ih hfound

/-- What is found in a directory lies beneath it, with nothing hidden in between. -/
theorem beneath_of_mem_scanFrom {files : FileSystem} (h : files.ListsInside) {depth : Nat}
    {dir path : Path} (hfound : path ∈ (scanFrom files depth dir).notes) :
    ∃ beneath, path.location = dir.location ++ beneath ∧ beneath ≠ [] ∧
      beneath.all isShown = true := by
  induction depth generalizing dir with
  | zero => exact absurd hfound mem_scanFrom_zero
  | succ depth ih =>
    obtain ⟨entries, hlist, entry, hentry, hfound⟩ := mem_scanFrom_succ.mp hfound
    have hplace := h dir entries hlist entry hentry
    obtain ⟨hshown, hfound⟩ := mem_scanEntry.mp hfound
    cases hkind : entry.kind with
    | file =>
      rw [hkind] at hfound
      obtain ⟨-, rfl⟩ := hfound
      exact ⟨[.name entry.name], hplace, by simp, by simpa using hshown⟩
    | directory =>
      rw [hkind] at hfound
      obtain ⟨beneath, hbeneath, -, hall⟩ := ih hfound
      refine ⟨.name entry.name :: beneath, ?_, by simp, by simp [hshown, hall]⟩
      rw [hbeneath, hplace, List.append_assoc, List.singleton_append]

/-- What a scan of an eligible directory finds is eligible. -/
theorem isEligible_of_mem_scan {files : FileSystem} (h : files.ListsInside) {root dir path : Path}
    (hdir : isEligibleDirectory root dir = true) (hfound : path ∈ (scan files dir).notes) :
    isEligible root path = true := by
  obtain ⟨front, hfront, hshown⟩ := isEligibleDirectory_iff.mp hdir
  have hnote := hasNoteExtension_of_mem_scanFrom (mem_scan.mp hfound)
  obtain ⟨beneath, hbeneath, hne, hall⟩ := beneath_of_mem_scanFrom h (mem_scan.mp hfound)
  refine isEligible_iff.mpr ⟨hnote, front ++ beneath, ?_, by simp [hne], by simp [hshown, hall]⟩
  rw [hbeneath, hfront, List.append_assoc]

/-! ### The spelling of a directory -/

theorem flatMap_eq_of_map_eq {α β γ : Type} {f : α → β} {g : α → List γ} {as bs : List α}
    (hmap : as.map f = bs.map f) (h : ∀ a ∈ as, ∀ b ∈ bs, f a = f b → g a = g b) :
    as.flatMap g = bs.flatMap g := by
  induction as generalizing bs with
  | nil =>
    obtain rfl := List.map_eq_nil_iff.mp hmap.symm
    rfl
  | cons a as ih =>
    cases bs with
    | nil => exact nomatch hmap
    | cons b bs =>
      rw [List.map_cons, List.map_cons, List.cons.injEq] at hmap
      rw [List.flatMap_cons, List.flatMap_cons,
        h a (List.mem_cons_self ..) b (List.mem_cons_self ..) hmap.1,
        ih hmap.2 fun a' ha b' hb =>
          h a' (List.mem_cons_of_mem _ ha) b' (List.mem_cons_of_mem _ hb)]

/-- The same places are found in a directory however it is spelled. -/
theorem locations_scanFrom_congr {files : FileSystem} (h : files.LawfulListing) {depth : Nat}
    {p q : Path} (hplace : p.location = q.location) :
    (scanFrom files depth p).notes.map Path.location =
      (scanFrom files depth q).notes.map Path.location := by
  induction depth generalizing p q with
  | zero => rfl
  | succ depth ih =>
    have hentries := h.entries?_congr hplace
    simp only [FileSystem.entries?] at hentries
    cases hp : files.listDirectory p with
    | error error =>
      cases hq : files.listDirectory q with
      | error error' => simp [scanFrom, hp, hq]
      | ok entries => simp [hp, hq, Except.toOption] at hentries
    | ok entries =>
      cases hq : files.listDirectory q with
      | error error' => simp [hp, hq, Except.toOption] at hentries
      | ok entries' =>
        simp only [hp, hq, Except.toOption, Option.map_some, Option.some.injEq] at hentries
        rw [notes_scanFrom_of_ok hp, notes_scanFrom_of_ok hq, List.map_flatMap, List.map_flatMap]
        refine flatMap_eq_of_map_eq hentries fun entry hentry entry' hentry' hsame => ?_
        obtain ⟨hname, hkind⟩ := Prod.mk.inj hsame
        have hlocation : entry.path.location = entry'.path.location := by
          rw [h.entry_location hp entry hentry, h.entry_location hq entry' hentry', hplace, hname]
        simp only [scanEntry, hname, hkind, hasNoteExtension_congr hlocation]
        split
        case isTrue => rfl
        case isFalse =>
          cases entry'.kind with
          | directory => exact ih hlocation
          | file => cases hasNoteExtension entry'.path <;> simp [ScanReport.empty, hlocation]

theorem locations_scan_congr {files : FileSystem} (h : files.LawfulListing) {p q : Path}
    (hplace : p.location = q.location) :
    (scan files p).notes.map Path.location = (scan files q).notes.map Path.location := by
  have hsorted (notes : List Path) :
      (sortBy Path.order notes).map Path.location = sortBy compare (notes.map Path.location) :=
    map_sortBy (fun _ _ => rfl) notes
  simp only [scan, ScanReport.sorted, hsorted, locations_scanFrom_congr h hplace]

end WikiNotes
