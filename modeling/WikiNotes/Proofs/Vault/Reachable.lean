import WikiNotes.Proofs.Vault.Batch

/-! # Vaults that can be reached

A vault is reached by making it and by any operations on it, each in surroundings of its own
(`Vault.Reachable`).  Between its operations a vault has nothing to do, and its index is consistent,
has the settings of the vault and tracks nothing but notes (`Vault.Settled`).

What is true under any settings of the notes that a scan finds and of those that are read at
eligible paths is true under its current settings of all that a vault tracks
(`Vault.Reachable.every`). -/

namespace WikiNotes

namespace Vault

/-- A vault with nothing to do, whose index has its settings, is consistent and tracks only
    notes. -/
structure Settled (vault : Vault) : Prop where
  idle : vault.coordinator = {}
  index_settings : vault.index.settings = vault.settings
  consistent : vault.index.Consistent
  onlyNotes : vault.index.OnlyNotes

variable {s : Surroundings} {vault : Vault}

theorem settled_of_build (hidle : vault.coordinator = {}) {files : FileSystem} {time : String}
    (h : vault.index = Index.build files time vault.settings.root vault.settings.policy) :
    vault.Settled := by
  refine ⟨hidle, ?_, ?_, ?_⟩
  · rw [h, Index.settings_build]
  · rw [h]
    exact Index.consistent_build ..
  · rw [h]
    exact Index.onlyNotes_build _ _ _ _

theorem settled_new (s : Surroundings) (settings : Settings) : (new s settings).Settled := by
  obtain ⟨hidle, hsettings, hindex⟩ := new_eq s settings
  exact settled_of_build hidle (hsettings.symm ▸ hindex)

/-- A vault that builds its index from scratch is settled whatever it was like. -/
theorem settled_rebuild (h : vault.coordinator = {}) : (vault.rebuild s).Settled := by
  have hsettings : (vault.rebuild s).settings = vault.settings := settings_submit h _
  refine settled_of_build (coordinator_submit h _) (hsettings.symm ▸ index_rebuild h)

theorem Settled.applySettings (h : vault.Settled) (s : Surroundings) (settings : Settings) :
    (vault.applySettings s settings).Settled := by
  rw [Vault.applySettings]
  split
  case isTrue => exact h
  case isFalse =>
    have hidle :
        ({ vault with settings := settings.canonicalized s.canonical? } : Vault).coordinator = {} :=
      h.idle
    exact settled_rebuild hidle

theorem Settled.handleChanges (h : vault.Settled) (s : Surroundings) (changes : List Change) :
    (vault.handleChanges s changes).Settled := by
  refine ⟨coordinator_submit h.idle _, ?_, ?_, ?_⟩
  · rw [index_handleChanges h.idle, Index.settings_applyEach, h.index_settings]
    exact (settings_submit h.idle _).symm
  · rw [index_handleChanges h.idle]
    exact h.consistent.applyEach ..
  · rw [index_handleChanges h.idle]
    exact h.onlyNotes.applyEach h.consistent _ _

/-- The vaults that are reached in surroundings of a kind. -/
inductive Reachable (seen : Surroundings → Prop) : Vault → Prop where
  | new {s : Surroundings} (hs : seen s) (settings : Settings) : Reachable seen (new s settings)
  | rebuild {s : Surroundings} (hs : seen s) {vault : Vault} (h : Reachable seen vault) :
      Reachable seen (vault.rebuild s)
  | applySettings {s : Surroundings} (hs : seen s) {vault : Vault} (h : Reachable seen vault)
      (settings : Settings) : Reachable seen (vault.applySettings s settings)
  | handleChanges {s : Surroundings} (hs : seen s) {vault : Vault} (h : Reachable seen vault)
      (changes : List Change) : Reachable seen (vault.handleChanges s changes)

theorem Reachable.settled {seen : Surroundings → Prop} (h : Reachable seen vault) :
    vault.Settled := by
  induction h with
  | new _ settings => exact settled_new _ settings
  | rebuild _ _ ih => exact settled_rebuild ih.idle
  | applySettings _ _ settings ih => exact ih.applySettings _ settings
  | handleChanges _ _ changes ih => exact ih.handleChanges _ changes

/-- A property that notes have under given settings, both those of an index that is built from
    scratch and those that are read at eligible paths, is one that all notes of a reachable vault
    have under its settings. -/
theorem Reachable.every {seen : Surroundings → Prop} {P : Settings → Record → Prop}
    (hbuild : ∀ s, seen s → ∀ settings : Settings,
      (Index.build s.files s.time settings.root settings.policy).Every (P settings))
    (hreads : ∀ settings, Index.ReadsOnly (P settings) settings) (h : Reachable seen vault) :
    vault.index.Every (P vault.settings) := by
  have hrebuild {s : Surroundings} (hs : seen s) {vault : Vault} (hidle : vault.coordinator = {}) :
      (vault.rebuild s).index.Every (P (vault.rebuild s).settings) := by
    have hsettings : (vault.rebuild s).settings = vault.settings := settings_submit hidle _
    rw [index_rebuild hidle, hsettings]
    exact hbuild s hs _
  induction h with
  | @new s hs settings =>
    obtain ⟨-, hsettings, hindex⟩ := new_eq s settings
    rw [hindex, hsettings]
    exact hbuild s hs settings
  | rebuild hs hvault _ => exact hrebuild hs hvault.settled.idle
  | @applySettings s hs vault hvault settings ih =>
    rw [Vault.applySettings]
    split
    case isTrue => exact ih
    case isFalse =>
      have hidle : ({ vault with
          settings := settings.canonicalized s.canonical? } : Vault).coordinator = {} :=
        hvault.settled.idle
      exact hrebuild hs hidle
  | @handleChanges s _ vault hvault changes ih =>
    have hsettled := hvault.settled
    have hkept : (vault.handleChanges s changes).settings = vault.settings :=
      settings_submit hsettled.idle _
    rw [index_handleChanges hsettled.idle, hkept]
    refine ih.applyEach hsettled.consistent ?_ _ _
    rw [hsettled.index_settings]
    exact hreads _

/-- A settled vault that is told of changes one at a time applies all of them. -/
theorem Settled.foldl_handleChange (h : vault.Settled) (s : Surroundings)
    (changes : List Change) :
    (changes.foldl (handleChange s) vault).Settled ∧
      (changes.foldl (handleChange s) vault).index = vault.index.applyEach s.files changes := by
  induction changes generalizing vault with
  | nil => exact ⟨h, rfl⟩
  | cons change changes ih =>
    obtain ⟨hsettled, hindex⟩ := ih (h.handleChanges s [change])
    refine ⟨hsettled, hindex.trans ?_⟩
    rw [index_handleChanges h.idle]
    rfl

end Vault

end WikiNotes
