import WikiNotes.Proofs.Storage.Memory
import WikiNotes.Proofs.Vault.Reachable

/-! # Notes that fit the settings

A note comes into the index of a vault in one of three ways: the scan that an index is built from
finds it, a change is about its path, or a change is about a directory that a scan then finds it
in.  A scan goes by the names and kinds of entries and a change by the components of its path, but
all of them admit only what is eligible under the settings (`Record.WellFormed`).  New settings
have the index built from scratch, so no note is left that fits the old ones only
(`Vault.Reachable.index_well_formed`). -/

namespace WikiNotes

/-- A record fits settings: it is that of a note of the root, shown under the stem of its path and
    kept under the canonical form of the stem. -/
structure Record.WellFormed (settings : Settings) (r : Record) : Prop where
  /-- There is a root, and the path is that of a note of it. -/
  eligible : ∃ root, settings.root = some root ∧ isEligible root r.path = true
  displayName_eq : r.displayName = r.path.stem
  name_eq : r.name = settings.policy.canonicalName r.path.stem

namespace Index

/-- What is read at an eligible path fits the settings. -/
theorem readsOnly_wellFormed (settings : Settings) :
    ReadsOnly (Record.WellFormed settings) settings := by
  intro path content heligible
  obtain ⟨root, hroot, hnote⟩ := (Option.any_eq_true ..).mp heligible
  exact ⟨⟨root, hroot, hnote⟩, rfl, rfl⟩

/-- What an index tracks that is built from scratch fits the settings that it is built under. -/
theorem every_wellFormed_build {files : FileSystem} (hfiles : files.JoinsNames) (time : String)
    (settings : Settings) :
    (Index.build files time settings.root settings.policy).Every (Record.WellFormed settings) := by
  refine .build (fun root hroot path hpath content => ?_) time
  have heligible : isEligible root path = true :=
    isEligible_of_mem_scan hfiles.listsInside (isEligibleDirectory_self root) hpath
  exact ⟨⟨root, hroot, heligible⟩, rfl, rfl⟩

end Index

namespace Vault

variable {vault : Vault}

/-- The index of a reachable vault has its settings, and all that it tracks fits them; without a
    root it tracks nothing. -/
theorem Reachable.index_well_formed (h : vault.Reachable fun s => s.files.JoinsNames) :
    vault.index.root = vault.settings.root ∧ vault.index.policy = vault.settings.policy ∧
      (∀ place r, vault.index.tracked? place = some r → r.WellFormed vault.settings) ∧
      (vault.settings.root = none → ∀ place, vault.index.tracked? place = none) := by
  have hsettings := h.settled.index_settings
  have hevery : vault.index.Every (Record.WellFormed vault.settings) :=
    h.every (fun s hs settings => Index.every_wellFormed_build hs s.time settings)
      Index.readsOnly_wellFormed
  refine ⟨congrArg Settings.root hsettings, congrArg Settings.policy hsettings, hevery,
    fun hroot place => ?_⟩
  refine Option.eq_none_iff_forall_ne_some.mpr fun r hr => ?_
  obtain ⟨root, hsome, -⟩ := (hevery place r hr).eligible
  exact nomatch hroot.symm.trans hsome

/-- A directory with a hidden one in it appears in an empty vault, and then blanks become hyphens:
    its note is kept under the new name. -/
theorem index_well_formed_hyphen :
    let m : Memory :=
      (({} : Memory).write ⟨"/v/d/New Note.md"⟩ (.text "y")).write ⟨"/v/d/.h/z.md"⟩ (.text "z")
    let seeing (m : Memory) : Surroundings := ⟨m.fileSystem, fun _ => none, fun _ => false, "now"⟩
    let first := new (seeing {}) { root := some ⟨"/v"⟩ }
    let second := first.handleChanges (seeing m) [⟨.added, ⟨"/v/d"⟩⟩]
    let vault := second.applySettings (seeing m)
      { root := some ⟨"/v"⟩, policy := { spaces := .hyphen } }
    let r := Record.ofContent vault.settings.policy ⟨"/v/d/New Note.md"⟩ "y"
    vault.Reachable (fun s => s.files.JoinsNames) ∧ vault.documents = [r] ∧
      r.WellFormed vault.settings ∧ r.name = "new-note" := by
  intro m seeing first second vault r
  have hnothing : ({} : Memory).IsPlain := by decide
  have hm : m.IsPlain := by decide +kernel
  have hfirst : first.Reachable (fun s => s.files.JoinsNames) :=
    .new hnothing.legible.toIsTree.joinsNames _
  have hsecond : second.Reachable (fun s => s.files.JoinsNames) :=
    .handleChanges hm.legible.toIsTree.joinsNames hfirst _
  have hvault : vault.Reachable (fun s => s.files.JoinsNames) :=
    .applySettings hm.legible.toIsTree.joinsNames hsecond _
  have hkept : vault.documents = [r] ∧ vault.index.tracked? r.place = some r ∧
      r.name = "new-note" := by
    decide +kernel
  obtain ⟨hdocuments, htracked, hname⟩ := hkept
  obtain ⟨-, -, hfits, -⟩ := hvault.index_well_formed
  exact ⟨hvault, hdocuments, hfits _ _ htracked, hname⟩

end Vault

end WikiNotes
