import WikiNotes.Proofs.Index.Effect
import WikiNotes.Proofs.Tree
import WikiNotes.Proofs.Vault.Reachable

/-! # Directories that appear

When a directory appears, the one change that reports it should bring everything in it into the
index (`Index.CompleteBeneath`).  It does if the name of the directory does not have the extension
of a note (`Index.Consistent.completeBeneath_apply`).  One that does is taken for a note, though a
scan goes by what is listed and finds the notes in it: what is beneath it is then tracked as far as
it was before, if it is not discarded even (`Vault.handleChange_added_complete_iff`). -/

namespace WikiNotes

namespace Index

variable {index : Index} {files : FileSystem} {root dir : Path}

/-- What a scan of the root finds beneath a directory is tracked as it can be read now. -/
def CompleteBeneath (files : FileSystem) (root dir : Path) (index : Index) : Prop :=
  ∀ path ∈ (scan files root).notes, dir.location <+: path.location →
    ∃ r, Record.read files index.policy path = .ok r ∧ index.gistAt? path.location = some r.gist

/-- A path is given up when it is refreshed if it is that of a note which is not found and not
    visible: everything beneath it is discarded then. -/
def GivesUp (files : FileSystem) (root dir : Path) (index : Index) : Prop :=
  isEligible root dir = true ∧ index.at? dir.location = none ∧
    ∃ error, files.readText dir = .error error ∧ error.kind = .notFound

/-! ### Notes beneath a directory -/

section Beneath

variable (hfiles : files.IsTree) (hopen : files.IsOpen)

include hopen in
/-- What a scan finds in an open file system is a note that can be read. -/
theorem exists_read_of_mem_scan (policy : NamingPolicy) {path : Path}
    (hfound : path ∈ (scan files dir).notes) : ∃ r, Record.read files policy path = .ok r := by
  obtain ⟨content, hcontent⟩ := hopen.readable_of_mem_scanFrom (mem_scan.mp hfound)
  exact ⟨Record.ofContent policy path content, by rw [Record.read, hcontent]; rfl⟩

include hfiles hopen in
/-- A directory is at no place at which a scan finds a note. -/
theorem ne_directory_of_mem_scan {path : Path} {entries : List Entry}
    (hlist : files.listDirectory dir = .ok entries) (hfound : path ∈ (scan files root).notes) :
    path.location ≠ dir.location := by
  intro heq
  obtain ⟨content, hcontent⟩ := hopen.readable_of_mem_scanFrom (mem_scan.mp hfound)
  obtain ⟨error, herror⟩ := hfiles.readText_directory hlist
  rw [hfiles.readText_congr heq, herror] at hcontent
  exact nomatch hcontent

end Beneath

/-! ### Adding a directory -/

section Apply

variable (h : index.Consistent) (hroot : index.root = some root) (hfiles : files.IsTree)
  {entries : List Entry} (hlist : files.listDirectory dir = .ok entries)

include h hfiles in
/-- Of several paths that can all be read every note is tracked when they are refreshed. -/
theorem Consistent.gistAt?_refreshEach_of_readable {paths : List Path}
    (hread : ∀ path ∈ paths, ∃ content, files.readText path = .ok content) {path : Path}
    (hpath : ∃ found ∈ paths, found.location = path.location) {r : Record}
    (hnote : noteAt? files index.settings path = some r) :
    (index.refreshEach files paths).1.gistAt? path.location = some r.gist := by
  refine h.gistAt?_refreshEach_of_note hfiles.toLawful hpath (fun above habove hmissing => ?_) hnote
  obtain ⟨content, hcontent⟩ := hread above habove
  obtain ⟨-, error, herror, -⟩ := hmissing
  exact nomatch hcontent.symm.trans herror

include h hroot hfiles hlist in
/-- When a directory without the extension of a note is added, everything beneath it is tracked. -/
theorem Consistent.completeBeneath_apply (hopen : files.IsOpen)
    (hdir : isEligibleDirectory root dir = true) (hext : hasNoteExtension dir = false) :
    (index.apply files ⟨.added, dir⟩).1.CompleteBeneath files root dir := by
  intro path hfound hbelow
  have hkind : (⟨.added, dir⟩ : Change).kind ≠ .deleted := nofun
  have hsettings : index.settings.root = some root := hroot
  have hpolicy : (index.apply files ⟨.added, dir⟩).1.policy = index.policy :=
    congrArg Settings.policy (settings_apply index files _)
  have hrereads : Change.rereads files index.settings ⟨.added, dir⟩ = (scan files dir).notes := by
    rw [Change.rereads_of_not_deleted hkind]
    simp [hext, hsettings, hdir, hlist, Except.toOption]
  obtain ⟨r, hread⟩ := exists_read_of_mem_scan hopen index.policy hfound
  have hnote : noteAt? files index.settings path = some r := by
    have heligible := isEligible_of_mem_scan hfiles.toLawful.listsInside
      (isEligibleDirectory_self root) hfound
    have hpolicy : index.settings.policy = index.policy := rfl
    rw [noteAt?, hsettings, Option.any_some, if_pos heligible, hpolicy, hread]
    rfl
  -- The scan of the directory comes upon the note too.
  obtain ⟨beneath, hbeneath, -⟩ := isEligibleDirectory_iff.mp hdir
  have hscanned : ∃ found ∈ (scan files dir).notes, found.location = path.location :=
    hfiles.toLawful.exists_mem_scan_beneath ⟨beneath, hbeneath.symm⟩ hfound hbelow
      (ne_directory_of_mem_scan hfiles hopen hlist hfound)
  refine ⟨r, by rw [hpolicy, hread], ?_⟩
  rw [apply_of_not_deleted hkind, hrereads]
  exact h.gistAt?_refreshEach_of_readable hfiles
    (fun p hp => hopen.readable_of_mem_scanFrom (mem_scan.mp hp)) hscanned hnote

include h hfiles in
/-- Adding a directory with the extension of a note amounts to refreshing its path. -/
theorem Consistent.gistAt?_apply_directory (hext : hasNoteExtension dir = true) (path : Path) :
    (index.apply files ⟨.added, dir⟩).1.gistAt? path.location =
      (index.refreshEffect files path.location dir).act
        ((noteAt? files index.settings path).map Record.gist) (index.gistAt? path.location) := by
  have hkind : (⟨.added, dir⟩ : Change).kind ≠ .deleted := nofun
  have hrereads : Change.rereads files index.settings ⟨.added, dir⟩ = [dir] := by
    rw [Change.rereads_of_not_deleted hkind, if_pos hext]
  rw [apply_of_not_deleted hkind, hrereads]
  exact h.gistAt?_refresh hfiles.toLawful dir path

include hroot in
/-- Beneath a path that is given up nothing is tracked any more. -/
theorem refreshEffect_of_givesUp (hgiven : index.GivesUp files root dir) {place : Location}
    (hbelow : dir.location <+: place) : index.refreshEffect files place dir = .drop := by
  obtain ⟨heligible, hvisible, error, herror, hgone⟩ := hgiven
  rw [refreshEffect, hroot, Option.any_some, if_pos heligible, herror]
  simp only [hgone, if_true]
  rw [discardEffect, if_pos (.inr ⟨hvisible, hbelow⟩)]

include hroot hfiles hlist in
/-- Beneath a directory that is not given up everything stays. -/
theorem refreshEffect_of_not_givesUp (hgiven : ¬ index.GivesUp files root dir) {place : Location}
    (hne : place ≠ dir.location) : index.refreshEffect files place dir = .keep := by
  obtain ⟨error, herror⟩ := hfiles.readText_directory hlist
  rw [refreshEffect, hroot, Option.any_some, herror]
  split
  case isFalse => rfl
  case isTrue heligible =>
    by_cases hgone : error.kind = .notFound
    · -- The note that is visible at the path is all that goes.
      have hvisible : index.at? dir.location ≠ none := fun hnone =>
        hgiven ⟨heligible, hnone, error, herror, hgone⟩
      simp [hgone, discardEffect, hne, hvisible]
    · simp [hgone]

include h hroot hfiles hlist in
/-- When a directory with the extension of a note is added, what is tracked beneath it stays, unless
    the path is given up. -/
theorem Consistent.completeBeneath_apply_iff (hopen : files.IsOpen)
    (hext : hasNoteExtension dir = true) :
    (index.apply files ⟨.added, dir⟩).1.CompleteBeneath files root dir ↔
      index.CompleteBeneath files root dir ∧ ¬ index.GivesUp files root dir ∨
        ∀ path ∈ (scan files root).notes, ¬ dir.location <+: path.location := by
  have hpolicy : (index.apply files ⟨.added, dir⟩).1.policy = index.policy :=
    congrArg Settings.policy (settings_apply index files _)
  -- Where a scan finds nothing beneath the directory there is nothing to be tracked.
  have hnothing {index : Index}
      (hnone : ∀ path ∈ (scan files root).notes, ¬ dir.location <+: path.location) :
      index.CompleteBeneath files root dir := fun path hfound hbelow =>
    absurd hbelow (hnone path hfound)
  by_cases hgiven : index.GivesUp files root dir
  · refine ⟨fun hcomplete => .inr fun path hfound hbelow => ?_, ?_⟩
    · obtain ⟨r, -, hr⟩ := hcomplete path hfound hbelow
      rw [h.gistAt?_apply_directory hfiles hext, refreshEffect_of_givesUp hroot hgiven hbelow] at hr
      cases hr
    · rintro (⟨-, hnot⟩ | hnone)
      · exact absurd hgiven hnot
      · exact hnothing hnone
  · have hsame : (index.apply files ⟨.added, dir⟩).1.CompleteBeneath files root dir ↔
        index.CompleteBeneath files root dir := by
      refine forall₃_congr fun path hfound hbelow => ?_
      have hne := ne_directory_of_mem_scan hfiles hopen hlist hfound
      rw [hpolicy, h.gistAt?_apply_directory hfiles hext,
        refreshEffect_of_not_givesUp hroot hfiles hlist hgiven hne]
      rfl
    rw [hsame]
    refine ⟨fun hcomplete => .inl ⟨hcomplete, hgiven⟩, ?_⟩
    rintro (⟨hcomplete, -⟩ | hnone)
    · exact hcomplete
    · exact hnothing hnone

end Apply

end Index

namespace Vault

variable {s : Surroundings} {vault : Vault}

/-- When a directory of a tree in which everything can be read is reported as added, everything
    beneath it is tracked if its name does not have the extension of a note.  If it has, then only
    if everything was tracked before and the path is not given up, or if there is nothing. -/
theorem handleChange_added_complete_iff {seen : Surroundings → Prop}
    (hvault : vault.Reachable seen) {root dir : Path} (hroot : vault.settings.root = some root)
    (hfiles : s.files.IsTree) (hopen : s.files.IsOpen)
    (hdir : isEligibleDirectory root dir = true) {entries : List Entry}
    (hlist : s.files.listDirectory dir = .ok entries) :
    (vault.handleChange s ⟨.added, dir⟩).index.CompleteBeneath s.files root dir ↔
      hasNoteExtension dir = false ∨
        (vault.index.CompleteBeneath s.files root dir ∧
          ¬ vault.index.GivesUp s.files root dir) ∨
        ∀ path ∈ (scan s.files root).notes, ¬ dir.location <+: path.location := by
  have h := hvault.settled
  have hindex : (vault.handleChange s ⟨.added, dir⟩).index =
      (vault.index.apply s.files ⟨.added, dir⟩).1 := index_handleChanges h.idle [⟨.added, dir⟩]
  have hindexRoot : vault.index.root = some root :=
    (congrArg Settings.root h.index_settings).trans hroot
  rw [hindex]
  cases hext : hasNoteExtension dir with
  | false =>
    have hcomplete :=
      h.consistent.completeBeneath_apply hindexRoot hfiles hlist hopen hdir hext
    exact iff_of_true hcomplete (.inl rfl)
  | true =>
    rw [h.consistent.completeBeneath_apply_iff hindexRoot hfiles hlist hopen hext]
    simp

/-- A directory with two notes of one name, one of them in a directory of its own, appears. -/
theorem handleChange_added_complete_iff_nested :
    let m : Memory := (({} : Memory).write ⟨"/v/d/a.md"⟩ (.text "#x")).write ⟨"/v/d/e/a.md"⟩
      (.text "y")
    let seeing (m : Memory) : Surroundings := ⟨m.fileSystem, fun _ => none, fun _ => false, "now"⟩
    let vault := new (seeing {}) { root := some ⟨"/v"⟩ }
    vault.Reachable (fun _ => True) ∧ m.fileSystem.IsTree ∧ m.fileSystem.IsOpen ∧
      isEligibleDirectory ⟨"/v"⟩ ⟨"/v/d"⟩ = true ∧
      (vault.handleChange (seeing m) ⟨.added, ⟨"/v/d"⟩⟩).index.CompleteBeneath m.fileSystem ⟨"/v"⟩
        ⟨"/v/d"⟩ := by
  intro m seeing vault
  have hvault : vault.Reachable (fun _ => True) := .new trivial _
  have hplain : m.IsPlain := by decide +kernel
  have hfiles : m.fileSystem.IsTree := hplain.legible.toIsTree.fileSystem
  have hdir : isEligibleDirectory ⟨"/v"⟩ ⟨"/v/d"⟩ = true := by decide +kernel
  have hlistable : ∃ entries, m.listDirectory ⟨"/v/d"⟩ = .ok entries :=
    hplain.legible.listable (by decide +kernel)
  obtain ⟨entries, hlist⟩ := hlistable
  have hext : hasNoteExtension ⟨"/v/d"⟩ = false := by decide +kernel
  refine ⟨hvault, hfiles, hplain.isOpen, hdir, ?_⟩
  exact (handleChange_added_complete_iff (s := seeing m) hvault rfl hfiles hplain.isOpen hdir
    hlist).mpr (.inl hext)

/-- The note in a directory with the extension of a note is found by a scan, but it is not tracked
    when the directory appears. -/
theorem handleChange_added_misses_note :
    let m : Memory := ({} : Memory).write ⟨"/v/d.md/x.md"⟩ (.text "x")
    let seeing (m : Memory) : Surroundings := ⟨m.fileSystem, fun _ => none, fun _ => false, "now"⟩
    let vault := new (seeing {}) { root := some ⟨"/v"⟩ }
    vault.Reachable (fun _ => True) ∧ m.fileSystem.IsTree ∧ m.fileSystem.IsOpen ∧
      isEligibleDirectory ⟨"/v"⟩ ⟨"/v/d.md"⟩ = true ∧
      (∃ entries, m.fileSystem.listDirectory ⟨"/v/d.md"⟩ = .ok entries) ∧
      ¬ (vault.handleChange (seeing m) ⟨.added, ⟨"/v/d.md"⟩⟩).index.CompleteBeneath m.fileSystem
        ⟨"/v"⟩ ⟨"/v/d.md"⟩ := by
  intro m seeing vault
  have hplain : m.IsPlain := by decide +kernel
  have hlistable : ∃ entries, m.listDirectory ⟨"/v/d.md"⟩ = .ok entries :=
    hplain.legible.listable (by decide +kernel)
  refine ⟨.new trivial _, hplain.legible.toIsTree.fileSystem, hplain.isOpen, by decide +kernel,
    hlistable, fun hcomplete => ?_⟩
  have hfound : ⟨"/v/d.md/x.md"⟩ ∈ (scan m.fileSystem ⟨"/v"⟩).notes := by decide +kernel
  obtain ⟨r, -, htracked⟩ := hcomplete ⟨"/v/d.md/x.md"⟩ hfound
    (List.isPrefixOf_iff_prefix.mp (by decide +kernel))
  have hnone : (vault.handleChange (seeing m) ⟨.added, ⟨"/v/d.md"⟩⟩).index.gistAt?
      (Path.location ⟨"/v/d.md/x.md"⟩) = none := by decide +kernel
  exact nomatch hnone.symm.trans htracked

end Vault

end WikiNotes
