import WikiNotes.Proofs.Index.Every
import WikiNotes.Proofs.Index.Links
import WikiNotes.Proofs.Naming
import WikiNotes.Proofs.Vault.Reachable
import WikiNotes.Storage.Memory

/-! # Notes and their own names

A note is kept under the canonical form of its name as it stands, blanks at the ends included, while
a name that is looked up is trimmed first.  So a note is found by the name that is shown of it
exactly if that name neither starts nor ends with a blank, and by its canonical name exactly if
that is so or blanks become hyphens (`Reachable.finds_own_names_iff`). -/

namespace WikiNotes

namespace Index

variable {index : Index} {r : Record}

/-- A target leads to a visible note exactly if the trimmed target has its canonical name. -/
theorem Coherent.resolve?_eq_some_iff_of_name (h : index.Coherent) (hr : r ∈ index.records)
    (hne : r.name ≠ "") (target : String) :
    index.resolve? target = some r ↔
      index.policy.canonicalName (Text.trim target) = r.name := by
  by_cases hempty : Text.trim target = ""
  · have hname : index.policy.canonicalName (Text.trim target) = "" :=
      NamingPolicy.canonicalName_eq_empty_iff.mpr hempty
    rw [hname, resolve?, hempty]
    exact iff_of_false (Option.some_ne_none r).symm (Ne.symm hne)
  · have hsome : (Text.trim target).isEmpty = false := by simpa using hempty
    have hlookup : index.resolve? target =
        index.named? (index.policy.canonicalName (Text.trim target)) := by
      simp [resolve?, hsome]
    rw [hlookup]
    constructor
    · exact fun hfound => (h.name_eq hfound).symm
    · intro hname
      rw [hname]
      exact h.mem_records.mp hr

end Index

theorem Path.stem_ne_empty {path : Path} (h : hasNoteExtension path = true) : path.stem ≠ "" := by
  rw [hasNoteExtension, Option.any_eq_true] at h
  obtain ⟨extension, hextension, -⟩ := h
  rw [extension?, Option.bind_eq_some_iff] at hextension
  obtain ⟨name, hname, hcut⟩ := hextension
  rw [stem, hname]
  simp only [cutExtension] at hcut ⊢
  -- A name that is cut has something in front of the dot.
  split at hcut
  case isTrue => cases hcut
  case isFalse hproper =>
    rw [if_neg hproper]
    rw [Bool.or_eq_true, not_or] at hproper
    simpa using hproper.2

namespace Vault

variable {s : Surroundings} {vault : Vault}

/-- Whatever a reachable vault tracks was read under its naming policy. -/
theorem Reachable.every_wasRead {seen : Surroundings → Prop} (h : Reachable seen vault) :
    vault.index.Every (Record.WasRead vault.settings.policy) :=
  h.every (P := fun settings => Record.WasRead settings.policy)
    (fun s _ settings => Index.every_wasRead_build s.files s.time settings.root settings.policy)
    Index.readsOnly_wasRead

/-- The name that is shown of a note is that of its file. -/
theorem Reachable.displayName_eq {seen : Surroundings → Prop} (h : Reachable seen vault) {r : Record}
    (hr : r ∈ vault.index.records) : r.displayName = r.path.stem := by
  obtain ⟨-, content, hread⟩ :=
    h.every_wasRead.of_mem_records h.settled.consistent.toCoherent hr
  rw [← hread]
  rfl

/-! ### Looking up own names -/

/-- A target leads to a visible note, both as that of a link and as a name that is looked up. -/
def Finds (vault : Vault) (target : String) (r : Record) : Prop :=
  (vault.index.resolve? target).map Record.path = some r.path ∧ vault.findByName? target = some r

/-- The name under which a note is kept is the canonical form of the one that is shown of it. -/
theorem Reachable.name_eq {seen : Surroundings → Prop} (h : Reachable seen vault) {r : Record}
    (hr : r ∈ vault.index.records) :
    r.name = vault.settings.policy.canonicalName r.displayName ∧ r.name ≠ "" := by
  obtain ⟨hextension, content, hread⟩ :=
    h.every_wasRead.of_mem_records h.settled.consistent.toCoherent hr
  have hdisplay : r.displayName = r.path.stem := by rw [← hread]; rfl
  have hname : r.name = vault.settings.policy.canonicalName r.displayName := by
    rw [hdisplay, ← hread]
    rfl
  refine ⟨hname, fun hempty => Path.stem_ne_empty hextension ?_⟩
  rw [← hdisplay]
  exact NamingPolicy.canonicalName_eq_empty_iff.mp (hname.symm.trans hempty)

/-- A note is found by a target exactly if the trimmed target has the canonical form of the name
    that is shown of the note. -/
theorem Reachable.finds_iff {seen : Surroundings → Prop} (h : Reachable seen vault) {r : Record}
    (hr : r ∈ vault.documents) (target : String) :
    vault.Finds target r ↔ vault.settings.policy.canonicalName (Text.trim target) =
      vault.settings.policy.canonicalName r.displayName := by
  have hmem : r ∈ vault.index.records :=
    SortedMap.mem_values.mpr (Index.mem_sortedRecords.mp hr)
  have hpolicy : vault.index.policy = vault.settings.policy :=
    congrArg Settings.policy h.settled.index_settings
  obtain ⟨hname, hne⟩ := h.name_eq hmem
  have hresolve : vault.Finds target r ↔ vault.index.resolve? target = some r :=
    ⟨And.right, fun hfound => ⟨congrArg (Option.map Record.path) hfound, hfound⟩⟩
  rw [hresolve, h.settled.consistent.resolve?_eq_some_iff_of_name hmem hne, hpolicy, hname]

/-- A note is found by the name that is shown of it exactly if there is nothing to trim, and by its
    canonical name exactly if that is so or blanks become hyphens. -/
theorem Reachable.finds_own_names_iff {seen : Surroundings → Prop} (h : Reachable seen vault)
    {r : Record} (hr : r ∈ vault.documents) :
    (vault.Finds r.displayName r ↔ Text.trim r.displayName = r.displayName) ∧
      (vault.Finds r.name r ↔
        vault.settings.policy.spaces = .hyphen ∨ Text.trim r.displayName = r.displayName) := by
  have hmem : r ∈ vault.index.records :=
    SortedMap.mem_values.mpr (Index.mem_sortedRecords.mp hr)
  rw [h.finds_iff hr, h.finds_iff hr, (h.name_eq hmem).1]
  exact ⟨NamingPolicy.canonicalName_trim_eq_iff,
    NamingPolicy.canonicalName_trim_canonicalName_eq_iff⟩

/-- Under the hyphen rule a note whose name starts with a blank is found by its canonical name
    alone, and one with a blank and capitals within its name by both of its names. -/
theorem finds_own_names_iff_hyphen :
    let m : Memory := (({} : Memory).write ⟨"/v/ a.md"⟩ (.text "x")).write ⟨"/v/My NOTE.md"⟩
      (.text "y")
    let s : Surroundings := ⟨m.fileSystem, fun _ => none, fun _ => false, "now"⟩
    let vault := new s { root := some ⟨"/v"⟩, policy := { spaces := .hyphen } }
    let a := Record.ofContent vault.settings.policy ⟨"/v/ a.md"⟩ "x"
    let b := Record.ofContent vault.settings.policy ⟨"/v/My NOTE.md"⟩ "y"
    vault.Reachable (fun _ => True) ∧ a ∈ vault.documents ∧ b ∈ vault.documents ∧
      (¬ vault.Finds a.displayName a ∧ vault.Finds a.name a) ∧
      vault.Finds b.displayName b ∧ vault.Finds b.name b := by
  intro m s vault a b
  have hvault : vault.Reachable (fun _ => True) := .new trivial _
  have ha : a ∈ vault.documents := by decide +kernel
  have hb : b ∈ vault.documents := by decide +kernel
  obtain ⟨hshown, hcanonical⟩ := hvault.finds_own_names_iff ha
  obtain ⟨hshown', hcanonical'⟩ := hvault.finds_own_names_iff hb
  have htrim : ¬ Text.trim a.displayName = a.displayName := by decide +kernel
  have htrim' : Text.trim b.displayName = b.displayName := by decide +kernel
  exact ⟨hvault, ha, hb, ⟨mt hshown.mp htrim, hcanonical.mpr (.inl rfl)⟩, hshown'.mpr htrim',
    hcanonical'.mpr (.inl rfl)⟩

/-- A visible note whose name starts with a blank is found by neither of its names. -/
theorem not_finds_own_names :
    let m : Memory := ({} : Memory).write ⟨"/v/ a.md"⟩ (.text "x")
    let s : Surroundings := ⟨m.fileSystem, fun _ => none, fun _ => false, "now"⟩
    let vault := new s { root := some ⟨"/v"⟩ }
    let r := Record.ofContent {} ⟨"/v/ a.md"⟩ "x"
    vault.Reachable (fun _ => True) ∧ r ∈ vault.documents ∧
      vault.index.resolve? r.displayName = none ∧ vault.findByName? r.displayName = none ∧
      vault.index.resolve? r.name = none ∧ vault.findByName? r.name = none := by
  intro m s vault r
  exact ⟨.new trivial _, by decide +kernel⟩

end Vault

end WikiNotes
