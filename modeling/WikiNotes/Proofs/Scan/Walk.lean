import Mathlib.Logic.Function.Iterate
import WikiNotes.Proofs.Scan.Reach

/-! # What a scan of a finite tree finds

A scan is defined from the root down, with a bound on the depth.  Here it is told by the directories
that are reached: each of them adds a report of its own (`ownReport`), and a scan is all of these
reports together (`scanFrom_perm`).

In a finite tree the bound cuts nothing off.  So whoever goes through the directories with a list of
those yet to be looked at (`Walk`), without a bound, comes to an end with the report of the scan
(`IsFiniteTree.exists_walk_ends`), and what a scan finds can be told from paths
(`IsFiniteTree.exists_mem_scan_iff`, `IsFiniteTree.exists_mem_issues_scan_iff`). -/

namespace WikiNotes

/-! ### Reports -/

instance : Std.TransCmp fun p q : ScanIssue => p.path.order q.path :=
  inferInstanceAs (Std.TransCmp (compareOn fun issue : ScanIssue => issue.path.location))

namespace ScanReport

/-- Two reports tell the same, each in an order of its own. -/
structure Perm (a b : ScanReport) : Prop where
  notes : a.notes.Perm b.notes
  issues : a.issues.Perm b.issues

/-- Several reports taken together. -/
def concat (reports : List ScanReport) : ScanReport := reports.foldr append empty

variable {a a' b b' c : ScanReport} {reports reports' : List ScanReport}

theorem Perm.refl (a : ScanReport) : a.Perm a := ⟨.refl _, .refl _⟩

theorem Perm.symm (h : a.Perm b) : b.Perm a := ⟨h.notes.symm, h.issues.symm⟩

theorem Perm.trans (h : a.Perm b) (h' : b.Perm c) : a.Perm c :=
  ⟨h.notes.trans h'.notes, h.issues.trans h'.issues⟩

theorem Perm.append (h : a.Perm a') (h' : b.Perm b') : (a.append b).Perm (a'.append b') :=
  ⟨h.notes.append h'.notes, h.issues.append h'.issues⟩

theorem perm_append_left_comm (a b c : ScanReport) :
    (a.append (b.append c)).Perm (b.append (a.append c)) :=
  ⟨List.perm_append_comm_assoc .., List.perm_append_comm_assoc ..⟩

theorem append_assoc (a b c : ScanReport) : (a.append b).append c = a.append (b.append c) := by
  simp [ScanReport.append]

@[simp] theorem append_empty (a : ScanReport) : a.append empty = a := by
  simp [ScanReport.append, empty]

@[simp] theorem empty_append (a : ScanReport) : empty.append a = a := rfl

@[simp] theorem concat_nil : concat [] = empty := rfl

@[simp] theorem concat_cons (a : ScanReport) (reports : List ScanReport) :
    concat (a :: reports) = a.append (concat reports) := rfl

theorem notes_concat (reports : List ScanReport) :
    (concat reports).notes = reports.flatMap notes := by
  induction reports with
  | nil => rfl
  | cons a reports ih => rw [concat_cons, List.flatMap_cons, ← ih, ScanReport.append]

theorem issues_concat (reports : List ScanReport) :
    (concat reports).issues = reports.flatMap issues := by
  induction reports with
  | nil => rfl
  | cons a reports ih => rw [concat_cons, List.flatMap_cons, ← ih, ScanReport.append]

theorem concat_append (reports reports' : List ScanReport) :
    concat (reports ++ reports') = (concat reports).append (concat reports') := by
  induction reports with
  | nil => rfl
  | cons a reports ih => rw [List.cons_append, concat_cons, ih, concat_cons, append_assoc]

theorem perm_concat (h : reports.Perm reports') : (concat reports).Perm (concat reports') := by
  refine ⟨?_, ?_⟩
  · rw [notes_concat, notes_concat]
    exact h.flatMap_right _
  · rw [issues_concat, issues_concat]
    exact h.flatMap_right _

/-- Reports that tell the same tell it in the same order once they are sorted, if each place occurs
    once. -/
theorem Perm.sorted_eq (h : a.Perm b)
    (hnotes : a.notes.Pairwise fun p q => p.location ≠ q.location)
    (hissues : a.issues.Pairwise fun p q => p.path.location ≠ q.path.location) :
    a.sorted = b.sorted := by
  rw [ScanReport.sorted, ScanReport.sorted,
    sortBy_eq_of_perm h.notes (hnotes.imp fun hne heq => hne (Path.order_eq_eq_iff.mp heq)),
    sortBy_eq_of_perm h.issues (hissues.imp fun hne heq => hne (Path.order_eq_eq_iff.mp heq))]

end ScanReport

namespace FileSystem

variable {files : FileSystem} {root dir path : Path} {depth : Nat} {entries : List Entry}

/-! ### What every directory adds -/

/-- What a directory itself adds to a scan: its notes, or that it cannot be listed. -/
def ownReport (files : FileSystem) (dir : Path) : ScanReport :=
  match files.listDirectory dir with
  | .error error => ⟨[], [⟨dir, error.message⟩]⟩
  | .ok entries => ⟨(entries.filter Entry.isShownNote).map Entry.path, []⟩

/-- A directory and the shown directories beneath it, as far as a depth goes. -/
def directoriesFrom (files : FileSystem) : (depth : Nat) → Path → List Path
  | 0, _ => []
  | depth + 1, dir => dir :: (files.subdirectories dir).flatMap (directoriesFrom files depth)

/-- What the entries of a directory add is what its notes and its directories add. -/
theorem foldr_scanEntry_perm (inDirectory : Path → ScanReport) (entries : List Entry) :
    (entries.foldr (fun entry report => (scanEntry inDirectory entry).append report) .empty).Perm
      (ScanReport.append ⟨(entries.filter Entry.isShownNote).map Entry.path, []⟩
        (.concat (((entries.filter Entry.isShownDirectory).map Entry.path).map inDirectory))) := by
  induction entries with
  | nil => exact .refl _
  | cons entry rest ih =>
    rw [List.foldr_cons, scanEntry]
    cases hhidden : isHiddenName entry.name with
    | true =>
      simpa [List.filter_cons, Entry.isShownNote, Entry.isShownDirectory, hhidden] using ih
    | false =>
      cases hkind : entry.kind with
      | directory =>
        -- What is in the directory moves behind the notes of the entries that follow.
        have hmoved := ((ScanReport.Perm.refl (inDirectory entry.path)).append ih).trans
          (ScanReport.perm_append_left_comm ..)
        simpa [List.filter_cons, Entry.isShownNote, Entry.isShownDirectory, hhidden, hkind]
          using hmoved
      | file =>
        cases hnote : hasNoteExtension entry.path with
        | true =>
          have hcons := (ScanReport.Perm.refl ⟨[entry.path], []⟩).append ih
          simpa [List.filter_cons, Entry.isShownNote, Entry.isShownDirectory, hhidden, hkind, hnote,
            ScanReport.append] using hcons
        | false =>
          simpa [List.filter_cons, Entry.isShownNote, Entry.isShownDirectory, hhidden, hkind, hnote]
            using ih

theorem scanFrom_succ_perm (depth : Nat) (dir : Path) :
    (scanFrom files (depth + 1) dir).Perm ((files.ownReport dir).append
      (.concat ((files.subdirectories dir).map (scanFrom files depth)))) := by
  simp only [scanFrom, ownReport, subdirectories]
  cases files.listDirectory dir with
  | error error => exact .refl _
  | ok entries => exact foldr_scanEntry_perm _ entries

/-- A scan is what all directories add to which it comes. -/
theorem scanFrom_perm (depth : Nat) (dir : Path) :
    (scanFrom files depth dir).Perm
      (.concat ((files.directoriesFrom depth dir).map files.ownReport)) := by
  induction depth generalizing dir with
  | zero => exact .refl _
  | succ depth ih =>
    have hinners (inners : List Path) : (ScanReport.concat (inners.map (scanFrom files depth))).Perm
        (.concat ((inners.flatMap (files.directoriesFrom depth)).map files.ownReport)) := by
      induction inners with
      | nil => exact .refl _
      | cons inner rest ihRest =>
        rw [List.flatMap_cons, List.map_append, ScanReport.concat_append]
        exact (ih inner).append ihRest
    exact (scanFrom_succ_perm depth dir).trans ((ScanReport.Perm.refl _).append (hinners _))

/-! ### The directories that are reached -/

theorem reaches_of_mem_directoriesFrom {target : Path}
    (h : target ∈ files.directoriesFrom depth dir) : files.Reaches dir target := by
  induction depth generalizing dir with
  | zero => exact nomatch h
  | succ depth ih =>
    rw [directoriesFrom, List.mem_cons, List.mem_flatMap] at h
    rcases h with rfl | ⟨inner, hinner, h⟩
    · exact .refl
    · exact .head hinner (ih h)

/-- A depth that is greater than directories nest leaves none of them out. -/
theorem mem_directoriesFrom_of_reaches {target : Path} (h : files.Reaches dir target)
    (hdepth : ¬ files.Nests depth dir) : target ∈ files.directoriesFrom depth dir := by
  induction h using Relation.ReflTransGen.head_induction_on generalizing depth with
  | refl =>
    cases depth with
    | zero => exact absurd trivial hdepth
    | succ depth => exact List.mem_cons_self ..
  | head hinner _ ih =>
    cases depth with
    | zero => exact absurd trivial hdepth
    | succ depth =>
      refine List.mem_cons_of_mem _ (List.mem_flatMap.mpr ⟨_, hinner, ih fun hnests => ?_⟩)
      exact hdepth ⟨_, hinner, hnests⟩

theorem IsFiniteTree.mem_directoriesFrom (h : files.IsFiniteTree) {target : Path} :
    target ∈ files.directoriesFrom files.depth dir ↔ files.Reaches dir target :=
  ⟨reaches_of_mem_directoriesFrom, fun hreach =>
    mem_directoriesFrom_of_reaches hreach (h.bounded dir)⟩

/-- What is listed right in one directory lies at different places. -/
theorem IsFiniteTree.pairwise_locations (h : files.IsFiniteTree)
    (hlist : files.listDirectory dir = .ok entries) (p : Entry → Bool) :
    ((entries.filter p).map Entry.path).Pairwise fun a b => a.location ≠ b.location := by
  refine List.pairwise_map.mpr (List.Pairwise.filter p ?_)
  refine (List.pairwise_map.mp (h.names_nodup hlist)).imp_of_mem fun {a b} ha hb hname => ?_
  rw [h.entry_location hlist a ha, h.entry_location hlist b hb]
  simpa using hname

/-- No directory is come to twice. -/
theorem IsFiniteTree.pairwise_directoriesFrom (h : files.IsFiniteTree) (depth : Nat) (dir : Path) :
    (files.directoriesFrom depth dir).Pairwise fun a b => a.location ≠ b.location := by
  induction depth generalizing dir with
  | zero => exact List.Pairwise.nil
  | succ depth ih =>
    have hbelow {inner target : Path} (hmem : target ∈ files.directoriesFrom depth inner) :
        inner.location <+: target.location :=
      h.prefix_of_reaches (reaches_of_mem_directoriesFrom hmem)
    refine List.pairwise_cons.mpr ⟨fun target htarget hsame => ?_,
      List.pairwise_flatMap.mpr ⟨fun inner _ => ih inner, ?_⟩⟩
    · -- What lies beneath the directory has a longer place.
      obtain ⟨inner, hinner, htarget⟩ := List.mem_flatMap.mp htarget
      obtain ⟨name, hplace, -⟩ := h.location_of_mem_subdirectories hinner
      have hlength := (hbelow htarget).length_le
      rw [hplace, ← hsame, List.length_append, List.length_singleton] at hlength
      omega
    · have hinners : (files.subdirectories dir).Pairwise fun a b => a.location ≠ b.location := by
        rw [subdirectories]
        cases hlist : files.listDirectory dir with
        | error error => exact List.Pairwise.nil
        | ok entries => exact h.pairwise_locations hlist _
      -- What lies beneath different directories of one length cannot be at one place.
      refine hinners.imp_of_mem fun {a b} ha hb hne x hx y hy hsame => hne ?_
      obtain ⟨name, haplace, -⟩ := h.location_of_mem_subdirectories ha
      obtain ⟨name', hbplace, -⟩ := h.location_of_mem_subdirectories hb
      have hlength : a.location.length = b.location.length := by simp [haplace, hbplace]
      have hle : a.location <+: b.location :=
        List.prefix_of_prefix_length_le (hbelow hx) (hsame ▸ hbelow hy) (Nat.le_of_eq hlength)
      exact hle.eq_of_length hlength

/-! ### The places that a report tells -/

theorem mem_notes_ownReport :
    path ∈ (files.ownReport dir).notes ↔ ∃ entries, files.listDirectory dir = .ok entries ∧
      ∃ entry ∈ entries, isShown (.name entry.name) = true ∧ entry.kind = .file ∧
        hasNoteExtension entry.path = true ∧ entry.path = path := by
  rw [ownReport]
  cases files.listDirectory dir with
  | error error => simp
  | ok entries => simp [Entry.isShownNote_iff, and_assoc]

theorem mem_issues_ownReport {issue : ScanIssue} :
    issue ∈ (files.ownReport dir).issues ↔
      ∃ error, files.listDirectory dir = .error error ∧ issue = ⟨dir, error.message⟩ := by
  rw [ownReport]
  cases files.listDirectory dir with
  | error error => simp
  | ok entries => simp

theorem LawfulListing.location_of_mem_ownReport (h : files.LawfulListing)
    (hpath : path ∈ (files.ownReport dir).notes) :
    ∃ name, path.location = dir.location ++ [.name name] := by
  obtain ⟨entries, hlist, entry, hentry, -, -, -, rfl⟩ := mem_notes_ownReport.mp hpath
  exact ⟨entry.name, h.entry_location hlist entry hentry⟩

/-- No note is found twice. -/
theorem IsFiniteTree.pairwise_notes (h : files.IsFiniteTree) (depth : Nat) (dir : Path) :
    (scanFrom files depth dir).notes.Pairwise fun p q => p.location ≠ q.location := by
  refine ((scanFrom_perm depth dir).notes.pairwise_iff fun hne => hne.symm).mpr ?_
  rw [ScanReport.notes_concat, List.flatMap_map]
  refine List.pairwise_flatMap.mpr ⟨fun dir _ => ?_, ?_⟩
  · rw [ownReport]
    cases hlist : files.listDirectory dir with
    | error error => exact List.Pairwise.nil
    | ok entries => exact h.pairwise_locations hlist _
  · refine (h.pairwise_directoriesFrom depth dir).imp fun hne p hp q hq hsame => hne ?_
    obtain ⟨name, hplace⟩ := h.location_of_mem_ownReport hp
    obtain ⟨name', hplace'⟩ := h.location_of_mem_ownReport hq
    exact (List.append_singleton_inj.mp (hplace.symm.trans (hsame.trans hplace'))).1

/-- No directory is an issue twice. -/
theorem IsFiniteTree.pairwise_issues (h : files.IsFiniteTree) (depth : Nat) (dir : Path) :
    (scanFrom files depth dir).issues.Pairwise fun p q => p.path.location ≠ q.path.location := by
  refine ((scanFrom_perm depth dir).issues.pairwise_iff fun hne => hne.symm).mpr ?_
  rw [ScanReport.issues_concat, List.flatMap_map]
  refine List.pairwise_flatMap.mpr ⟨fun dir _ => ?_, ?_⟩
  · rw [ownReport]
    cases files.listDirectory dir with
    | error error => exact List.pairwise_singleton ..
    | ok entries => exact List.Pairwise.nil
  · refine (h.pairwise_directoriesFrom depth dir).imp fun hne p hp q hq => ?_
    obtain ⟨-, -, rfl⟩ := mem_issues_ownReport.mp hp
    obtain ⟨-, -, rfl⟩ := mem_issues_ownReport.mp hq
    exact hne

/-! ### What a scan finds -/

/-- The notes that a scan finds are those right in the directories that are reached. -/
theorem IsFiniteTree.mem_notes_scan_iff (h : files.IsFiniteTree) :
    path ∈ (scan files root).notes ↔
      ∃ dir, files.Reaches root dir ∧ path ∈ (files.ownReport dir).notes := by
  simp only [mem_scan, (scanFrom_perm files.depth root).notes.mem_iff, ScanReport.notes_concat,
    List.flatMap_map, List.mem_flatMap, h.mem_directoriesFrom]

/-- The issues of a scan are the directories that are reached and cannot be listed. -/
theorem IsFiniteTree.mem_issues_scan_iff (h : files.IsFiniteTree) {issue : ScanIssue} :
    issue ∈ (scan files root).issues ↔ files.Reaches root issue.path ∧
      ∃ error, files.listDirectory issue.path = .error error ∧ issue.message = error.message := by
  have hmem : issue ∈ (scan files root).issues ↔
      issue ∈ (scanFrom files files.depth root).issues := mem_sortBy
  rw [hmem, (scanFrom_perm files.depth root).issues.mem_iff, ScanReport.issues_concat,
    List.flatMap_map, List.mem_flatMap]
  simp only [h.mem_directoriesFrom, mem_issues_ownReport]
  constructor
  · rintro ⟨dir, hreach, error, herror, rfl⟩
    exact ⟨hreach, error, herror, rfl⟩
  · rintro ⟨hreach, error, herror, hmessage⟩
    exact ⟨issue.path, hreach, error, herror, by rw [← hmessage]⟩

/-- A note is found exactly if it is there, its path is that of a note, and the root and every
    directory between them can be listed. -/
theorem IsFiniteTree.exists_mem_scan_iff (h : files.IsFiniteTree) :
    (∃ found ∈ (scan files root).notes, found.location = path.location) ↔
      files.Holds .file path ∧ isEligible root path = true ∧ files.OpenTo root path := by
  simp only [h.mem_notes_scan_iff]
  constructor
  · rintro ⟨found, ⟨dir, hreach, hfound⟩, hsame⟩
    obtain ⟨entries, hlist, entry, hentry, hshown, hkind, hnote, rfl⟩ :=
      mem_notes_ownReport.mp hfound
    obtain ⟨heligible, hopen, -⟩ := h.reaches_sound hreach
    obtain ⟨beneath, hbeneath, hall⟩ := isEligibleDirectory_iff.mp heligible
    have hplace := h.entry_location hlist entry hentry
    refine ⟨⟨dir, entries, hlist, entry, hentry, hkind, hsame⟩, isEligible_iff.mpr
      ⟨hasNoteExtension_congr hsame ▸ hnote, beneath ++ [.name entry.name], ?_, by simp,
        by simp [hall, hshown]⟩, h.openTo_inside hopen ⟨entries, hlist⟩ (hsame ▸ hplace)⟩
    rw [← hsame, hplace, hbeneath, List.append_assoc]
  · rintro ⟨⟨dir, entries, hlist, entry, hentry, hkind, hsame⟩, heligible, hopen⟩
    obtain ⟨hnote, beneath, hbeneath, hne, hall⟩ := isEligible_iff.mp heligible
    have hplace := h.entry_location hlist entry hentry
    -- The directory that holds the note is reached, perhaps in another spelling.
    obtain ⟨front, last, rfl⟩ := List.eq_nil_or_concat beneath |>.resolve_left hne
    rw [List.concat_eq_append] at hbeneath hall
    rw [List.all_append, Bool.and_eq_true] at hall
    have hfront : dir.location = root.location ++ front ∧ .name entry.name = last := by
      rw [hplace, hbeneath, ← List.append_assoc] at hsame
      exact List.append_singleton_inj.mp hsame
    obtain ⟨found, hreach, hfound⟩ := h.exists_reaches hfront.1 hall.1
      (hopen.of_above (hsame ▸ hplace ▸ List.prefix_append ..)) (.inr (.inr ⟨entries, hlist⟩))
    obtain ⟨entries', hlist'⟩ := (h.listable_congr hfound).mpr ⟨entries, hlist⟩
    obtain ⟨entry', hentry', hname, hkind'⟩ :=
      h.exists_entry_congr hfound.symm hlist hlist' hentry
    have hsame' : entry'.path.location = path.location := by
      rw [h.entry_location hlist' entry' hentry', hfound, hname, ← hplace, hsame]
    refine ⟨entry'.path, ⟨found, hreach, mem_notes_ownReport.mpr ⟨entries', hlist', entry',
      hentry', ?_, hkind'.trans hkind, hasNoteExtension_congr hsame' ▸ hnote, rfl⟩⟩, hsame'⟩
    simpa [hname, hfront.2] using hall.2

/-- A directory is an issue exactly if it is there and cannot be listed, nothing on the way to it is
    hidden and everything above it can be listed. -/
theorem IsFiniteTree.exists_mem_issues_scan_iff (h : files.IsFiniteTree) :
    (∃ issue ∈ (scan files root).issues, issue.path.location = dir.location) ↔
      (dir.location = root.location ∨ files.Holds .directory dir) ∧
        isEligibleDirectory root dir = true ∧ files.OpenTo root dir ∧ ¬ files.Listable dir := by
  have hfails {dir : Path} : ¬ files.Listable dir ↔
      ∃ error, files.listDirectory dir = .error error := by
    rw [Listable]
    cases files.listDirectory dir <;> simp
  simp only [h.mem_issues_scan_iff]
  constructor
  · rintro ⟨issue, ⟨hreach, error, herror, -⟩, hsame⟩
    obtain ⟨hthere, heligible, hopen⟩ := h.exists_reaches_iff.mp ⟨_, hreach, hsame⟩
    exact ⟨hthere, heligible, hopen,
      mt (h.listable_congr hsame).mpr (hfails.mpr ⟨error, herror⟩)⟩
  · rintro ⟨hthere, heligible, hopen, hclosed⟩
    obtain ⟨found, hreach, hsame⟩ := h.exists_reaches_iff.mpr ⟨hthere, heligible, hopen⟩
    obtain ⟨error, herror⟩ := hfails.mp (mt (h.listable_congr hsame).mp hclosed)
    exact ⟨⟨found, error.message⟩, ⟨hreach, error, herror, rfl⟩, hsame⟩

end FileSystem

/-! ### Going through the directories -/

/-- A way through directories: those yet to be looked at, the last of them first, and what was
    found. -/
structure Walk where
  pending : List Path
  report : ScanReport

namespace Walk

/-- The way that begins with a directory. -/
def start (dir : Path) : Walk := ⟨[dir], .empty⟩

/-- Look at an entry: a shown directory is to be looked at next, a shown note is found. -/
def visit (walk : Walk) (entry : Entry) : Walk :=
  if isHiddenName entry.name then walk
  else
    match entry.kind with
    | .directory => { walk with pending := entry.path :: walk.pending }
    | .file =>
      if hasNoteExtension entry.path then
        { walk with report := walk.report.append ⟨[entry.path], []⟩ }
      else walk

/-- Look at the next directory. -/
def step (files : FileSystem) : Walk → Walk
  | ⟨[], report⟩ => ⟨[], report⟩
  | ⟨dir :: pending, report⟩ =>
    match files.listDirectory dir with
    | .error error => ⟨pending, report.append ⟨[], [⟨dir, error.message⟩]⟩⟩
    | .ok entries => entries.foldl visit ⟨pending, report⟩

variable {files : FileSystem}

/-- Looking at entries finds the notes among them and leaves the directories, the last one first. -/
theorem foldl_visit (entries : List Entry) (pending : List Path) (report : ScanReport) :
    entries.foldl visit ⟨pending, report⟩ =
      ⟨((entries.filter Entry.isShownDirectory).map Entry.path).reverse ++ pending,
        report.append ⟨(entries.filter Entry.isShownNote).map Entry.path, []⟩⟩ := by
  induction entries generalizing pending report with
  | nil => simp [ScanReport.append]
  | cons entry rest ih =>
    rw [List.foldl_cons, visit]
    cases hhidden : isHiddenName entry.name with
    | true => simp [ih, Entry.isShownNote, Entry.isShownDirectory, hhidden]
    | false =>
      cases hkind : entry.kind with
      | directory =>
        simp [ih, Entry.isShownNote, Entry.isShownDirectory, hhidden, hkind]
      | file =>
        cases hnote : hasNoteExtension entry.path <;>
          simp [ih, Entry.isShownNote, Entry.isShownDirectory, hhidden, hkind,
            hnote, ScanReport.append]

/-- A directory that is looked at adds its own report and leaves the directories in it. -/
theorem step_cons (dir : Path) (pending : List Path) (report : ScanReport) :
    step files ⟨dir :: pending, report⟩ = ⟨(files.subdirectories dir).reverse ++ pending,
      report.append (files.ownReport dir)⟩ := by
  simp only [step, FileSystem.subdirectories, FileSystem.ownReport]
  cases files.listDirectory dir with
  | error error => rfl
  | ok entries => exact foldl_visit entries pending report

/-- After some steps the first of the pending directories are done, with everything beneath them. -/
theorem exists_steps {depth : Nat} {dirs : List Path}
    (hdepth : ∀ dir ∈ dirs, ¬ files.Nests depth dir) (pending : List Path) (report : ScanReport) :
    ∃ steps report', (step files)^[steps] ⟨dirs ++ pending, report⟩ = ⟨pending, report'⟩ ∧
      report'.Perm (report.append
        (.concat ((dirs.flatMap (files.directoriesFrom depth)).map files.ownReport))) := by
  induction depth generalizing dirs pending report with
  | zero =>
    cases dirs with
    | nil => exact ⟨0, report, rfl, by simp [ScanReport.Perm.refl]⟩
    | cons dir dirs => exact absurd trivial (hdepth dir (List.mem_cons_self ..))
  | succ depth ih =>
    induction dirs generalizing report with
    | nil => exact ⟨0, report, rfl, by simp [ScanReport.Perm.refl]⟩
    | cons dir dirs ihDirs =>
      -- One step for the directory, then those for what is in it, then those for the others.
      have hinner : ∀ inner ∈ (files.subdirectories dir).reverse, ¬ files.Nests depth inner :=
        fun inner hinner hnests => hdepth dir (List.mem_cons_self ..)
          ⟨inner, List.mem_reverse.mp hinner, hnests⟩
      obtain ⟨n, inside, hinside, hinsidePerm⟩ :=
        ih hinner (dirs ++ pending) (report.append (files.ownReport dir))
      obtain ⟨m, rest, hrest, hrestPerm⟩ :=
        ihDirs (fun dir hdir => hdepth dir (List.mem_cons_of_mem _ hdir)) inside
      refine ⟨m + (n + 1), rest, ?_, hrestPerm.trans ?_⟩
      · rw [Function.iterate_add_apply, Function.iterate_succ_apply, List.cons_append, step_cons,
          hinside, hrest]
      · have hreverse : (((files.subdirectories dir).reverse.flatMap
            (files.directoriesFrom depth)).map files.ownReport).Perm
            (((files.subdirectories dir).flatMap (files.directoriesFrom depth)).map
              files.ownReport) :=
          ((List.reverse_perm _).flatMap_right _).map _
        have hthis := (hinsidePerm.trans
          ((ScanReport.Perm.refl _).append (ScanReport.perm_concat hreverse))).append (.refl
            (.concat ((dirs.flatMap (files.directoriesFrom (depth + 1))).map files.ownReport)))
        simpa [FileSystem.directoriesFrom, ScanReport.append_assoc, ScanReport.concat_append]
          using hthis

end Walk

namespace FileSystem

variable {files : FileSystem} {root dir path : Path}

/-- Going through the directories of a finite tree comes to an end, with what a scan reports. -/
theorem IsFiniteTree.exists_walk_ends (h : files.IsFiniteTree) (root : Path) :
    ∃ steps, ((Walk.step files)^[steps] (.start root)).pending = [] ∧
      ((Walk.step files)^[steps] (.start root)).report.sorted = scan files root := by
  obtain ⟨steps, report, hsteps, hperm⟩ := @Walk.exists_steps files files.depth [root]
    (by simpa using h.bounded root) [] .empty
  have hscan : (scanFrom files files.depth root).Perm report := by
    refine (scanFrom_perm files.depth root).trans ?_
    simpa using hperm.symm
  refine ⟨steps, congrArg Walk.pending hsteps, ?_⟩
  rw [Walk.start, ← List.append_nil [root], hsteps]
  exact (hscan.sorted_eq (h.pairwise_notes _ root) (h.pairwise_issues _ root)).symm

/-- In a finite tree a scan comes to an end.  Its notes are in strict order and are those whose
    paths are those of notes of the root and to which only directories lead that can be listed.  Its
    issues are in strict order and are the directories that cannot be listed to which only
    directories lead that are shown and can be listed, each with the failure to list it. -/
theorem IsFiniteTree.scan_exact (h : files.IsFiniteTree) (root : Path) :
    (∃ steps, ((Walk.step files)^[steps] (.start root)).pending = [] ∧
      ((Walk.step files)^[steps] (.start root)).report.sorted = scan files root) ∧
    (scan files root).notes.Pairwise (fun p q => p.order q = .lt) ∧
    (∀ path : Path, (∃ found ∈ (scan files root).notes, found.location = path.location) ↔
      files.Holds .file path ∧ isEligible root path = true ∧ files.OpenTo root path) ∧
    (scan files root).issues.Pairwise (fun a b => a.path.order b.path = .lt) ∧
    (∀ dir : Path, (∃ issue ∈ (scan files root).issues, issue.path.location = dir.location) ↔
      (dir.location = root.location ∨ files.Holds .directory dir) ∧
        isEligibleDirectory root dir = true ∧ files.OpenTo root dir ∧ ¬ files.Listable dir) ∧
    ∀ issue ∈ (scan files root).issues, ∃ error,
      files.listDirectory issue.path = .error error ∧ issue.message = error.message := by
  refine ⟨h.exists_walk_ends root, pairwise_lt_sortBy ?_, fun path => h.exists_mem_scan_iff,
    pairwise_lt_sortBy ?_, fun dir => h.exists_mem_issues_scan_iff,
    fun issue hissue => (h.mem_issues_scan_iff.mp hissue).2⟩
  · exact (h.pairwise_notes _ root).imp fun hne heq => hne (Path.order_eq_eq_iff.mp heq)
  · exact (h.pairwise_issues _ root).imp fun hne heq => hne (Path.order_eq_eq_iff.mp heq)

/-- In a tree with hidden entries, a directory that is named like a note and one that cannot be
    listed, the notes of all others are found and the one that cannot be listed is an issue. -/
theorem scan_exact_partly_listable :
    let m : Memory := (((({} : Memory).write ⟨"/v/b.md/Inner.md"⟩ (.text "")).write
      ⟨"/v/.hidden/Secret.md"⟩ (.text "")).write ⟨"/v/closed/Lost.md"⟩ (.text "")).write
      ⟨"/v/a/deep/Last.markdown"⟩ (.text "")
    let files := (m.fail ⟨"/v/closed"⟩ ⟨.permissionDenied, "denied"⟩).fileSystem
    files.IsFiniteTree ∧
      (∃ steps, ((Walk.step files)^[steps] (.start ⟨"/v"⟩)).pending = [] ∧
        ((Walk.step files)^[steps] (.start ⟨"/v"⟩)).report.sorted =
          ⟨[⟨"/v/a/deep/Last.markdown"⟩, ⟨"/v/b.md/Inner.md"⟩], [⟨⟨"/v/closed"⟩, "denied"⟩]⟩) ∧
      files.OpenTo ⟨"/v"⟩ ⟨"/v/b.md/Inner.md"⟩ ∧ ¬ files.Listable ⟨"/v/closed"⟩ := by
  intro m files
  have hplain : m.IsPlain := by decide +kernel
  have htree : files.IsFiniteTree :=
    (hplain.legible.toIsTree.fail ⟨"/v/closed"⟩ ⟨.permissionDenied, "denied"⟩).isFiniteTree
  have hscan : scan files ⟨"/v"⟩ =
      ⟨[⟨"/v/a/deep/Last.markdown"⟩, ⟨"/v/b.md/Inner.md"⟩], [⟨⟨"/v/closed"⟩, "denied"⟩]⟩ := by
    decide +kernel
  obtain ⟨hends, -, hnotes, -, hissues, -⟩ := htree.scan_exact ⟨"/v"⟩
  rw [hscan] at hends hnotes hissues
  exact ⟨htree, hends, ((hnotes ⟨"/v/b.md/Inner.md"⟩).mp (by simp)).2.2,
    ((hissues ⟨"/v/closed"⟩).mp (by simp)).2.2.2⟩

end FileSystem

end WikiNotes
