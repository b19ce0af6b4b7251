import WikiNotes.Proofs.Index.Notice
import WikiNotes.Proofs.Vault.Reachable

/-! # When a vault notifies

A vault counts the batches that were told to have changed what is visible (`generation_submit`).  In
a tree it counts a change exactly if the answers of the index are other ones afterwards, and several
changes together count at most once, and at least once if the answers are other ones
(`notifies_seen_changes`). -/

namespace WikiNotes

namespace Vault

variable {s : Surroundings} {vault : Vault}

/-! ### Batches -/

/-- A submission counts if the batch that it makes is told to have changed something. -/
theorem generation_submit (h : vault.coordinator = {}) (mutations : List Mutation) :
    (vault.submit s mutations).generation =
      if (runBatch s vault.settings vault.index (Mutation.enqueueAll [] mutations)).2 then
        vault.generation + 1
      else vault.generation := by
  rw [submit_of_idle h, generation, afterBatch]
  rcases runBatch s vault.settings vault.index (Mutation.enqueueAll [] mutations) with
    ⟨index, told⟩
  cases told <;> rfl

/-- A batch of changes that tells of nothing is not seen. -/
theorem view_runBatch_of_untold {settings : Settings} {index : Index} (h : index.Consistent)
    {changes : List Change}
    (huntold : (runBatch s settings index (changes.map .apply)).2 = false) :
    (runBatch s settings index (changes.map .apply)).1.view = index.view := by
  induction changes generalizing index with
  | nil => rfl
  | cons change changes ih =>
    rw [List.map_cons, runBatch, Bool.or_eq_false_iff] at huntold
    have hrest := ih (h.applyChange s.files change) huntold.2
    exact hrest.trans (h.view_apply_of_untold huntold.1)

/-! ### Changes -/

/-- Several changes count at most once, and they do if the answers are other ones afterwards. -/
theorem Settled.notifies_handleChanges (h : vault.Settled) (s : Surroundings)
    (changes : List Change) :
    let after := vault.handleChanges s changes
    after.generation = vault.generation + 1 ∨
      after.generation = vault.generation ∧ Index.SameAnswers after.index vault.index := by
  intro after
  have hgeneration := generation_submit (s := s) h.idle (changes.map .apply)
  have hindex := index_submit (s := s) h.idle (changes.map .apply)
  rw [Mutation.enqueueAll_apply_nil] at hgeneration hindex
  cases htold : (runBatch s vault.settings vault.index
      ((Change.latest changes).map .apply)).2 with
  | true => exact .inl (by rw [htold, if_pos rfl] at hgeneration; exact hgeneration)
  | false =>
    rw [htold, if_neg Bool.false_ne_true] at hgeneration
    refine .inr ⟨hgeneration, Index.sameAnswers_of_view_eq ?_⟩
    exact (congrArg Index.view hindex).trans (view_runBatch_of_untold h.consistent htold)

/-- In a tree a change counts exactly if other documents are listed afterwards. -/
theorem Settled.notifies_handleChange (h : vault.Settled) (hfiles : s.files.IsTree)
    (change : Change) :
    let after := vault.handleChange s change
    (after.generation = vault.generation + 1 ∧
        after.documents.map Record.gist ≠ vault.documents.map Record.gist) ∨
      after.generation = vault.generation ∧ Index.SameAnswers after.index vault.index := by
  intro after
  have hgeneration : after.generation =
      if (vault.index.apply s.files change).2 || false then vault.generation + 1
      else vault.generation := generation_submit h.idle [.apply change]
  have hindex : after.index = (vault.index.apply s.files change).1 :=
    index_submit h.idle [.apply change]
  rw [Bool.or_false] at hgeneration
  cases htold : (vault.index.apply s.files change).2 with
  | true =>
    rw [htold, if_pos rfl] at hgeneration
    refine .inl ⟨hgeneration, ?_⟩
    rw [documents, documents, hindex]
    exact h.consistent.documents_apply_of_told hfiles htold
  | false =>
    rw [htold, if_neg Bool.false_ne_true] at hgeneration
    refine .inr ⟨hgeneration, Index.sameAnswers_of_view_eq ?_⟩
    rw [hindex]
    exact h.consistent.view_apply_of_untold htold

/-! ### Settings -/

theorem generation_rebuild (h : vault.coordinator = {}) :
    (vault.rebuild s).generation = vault.generation + 1 :=
  generation_submit h [.rebuild]

/-- New settings count, and settings that say the same change nothing. -/
theorem generation_applySettings (h : vault.coordinator = {}) (settings : Settings) :
    let after := vault.applySettings s settings
    if after.settings = vault.settings then after = vault
    else after.generation = vault.generation + 1 := by
  intro after
  have hafter : after = vault.applySettings s settings := rfl
  rw [applySettings] at hafter
  cases hsame : vault.settings.same (settings.canonicalized s.canonical?) with
  | true =>
    rw [hsame, if_pos rfl] at hafter
    rw [hafter, if_pos rfl]
  | false =>
    rw [hsame, if_neg Bool.false_ne_true] at hafter
    have hidle :
        ({ vault with settings := settings.canonicalized s.canonical? } : Vault).coordinator = {} :=
      h
    have hsettings : after.settings = settings.canonicalized s.canonical? := by
      rw [hafter]
      exact settings_submit hidle _
    -- Settings that do not say the same are not equal.
    have hne : after.settings ≠ vault.settings := fun heq => by
      rw [← hsettings, heq] at hsame
      simp [Settings.same] at hsame
    rw [if_neg hne, hafter]
    exact generation_submit hidle [.rebuild]

/-! ### Notifications -/

/-- In a tree of which any part may be unreadable a change counts once if the answers are other ones
    afterwards, and not at all if they are the same.  Several changes count at most once, and not
    at all only if the answers are the same.  A rebuild and new settings count once. -/
theorem notifies_seen_changes {seen : Surroundings → Prop} (hvault : vault.Reachable seen)
    (hfiles : s.files.IsTree) :
    (∀ change, let after := vault.handleChange s change
      (¬ Index.SameAnswers after.index vault.index →
          after.generation = vault.generation + 1 ∧
            after.documents.map Record.gist ≠ vault.documents.map Record.gist) ∧
        (Index.SameAnswers after.index vault.index → after.generation = vault.generation)) ∧
      (∀ changes, let after := vault.handleChanges s changes
        after.generation = vault.generation + 1 ∨
          after.generation = vault.generation ∧ Index.SameAnswers after.index vault.index) ∧
      (vault.rebuild s).generation = vault.generation + 1 ∧
      ∀ settings, let after := vault.applySettings s settings
        if after.settings = vault.settings then after = vault
        else after.generation = vault.generation + 1 := by
  have h := hvault.settled
  refine ⟨fun change => ?_, h.notifies_handleChanges s, generation_rebuild h.idle,
    generation_applySettings h.idle⟩
  rcases h.notifies_handleChange hfiles change with ⟨hcounted, hdocuments⟩ | ⟨hkept, hsame⟩
  · refine ⟨fun _ => ⟨hcounted, hdocuments⟩, fun hsame => absurd ?_ hdocuments⟩
    exact congrArg (List.map Record.gist) hsame.documents
  · exact ⟨fun hdiffers => absurd hsame hdiffers, fun _ => hkept⟩

/-- A note that cannot be found any more gives its name back to the note that it had shadowed, which
    counts once; reading that note again does not count. -/
theorem notifies_seen_changes_shadowed :
    let m : Memory := (({} : Memory).write ⟨"/v/a.md"⟩ (.text "#x")).write ⟨"/v/d/a.md"⟩ (.text "y")
    let failing := m.fail ⟨"/v/d/a.md"⟩ ⟨.notFound, "not found"⟩
    let seeing (m : Memory) : Surroundings := ⟨m.fileSystem, fun _ => none, fun _ => false, "now"⟩
    let vault := new (seeing m) { root := some ⟨"/v"⟩ }
    vault.Reachable (fun _ => True) ∧ failing.fileSystem.IsTree ∧
      (vault.handleChange (seeing failing) ⟨.updated, ⟨"/v/d"⟩⟩).generation =
        vault.generation + 1 ∧
      (vault.handleChange (seeing failing) ⟨.updated, ⟨"/v/a.md"⟩⟩).generation =
        vault.generation := by
  intro m failing seeing vault
  have hvault : vault.Reachable (fun _ => True) := .new trivial _
  have hplain : m.IsPlain := by decide +kernel
  -- What fails to be read does not change where the files are.
  have htree : failing.IsTree := ⟨hplain.legible.spelled, hplain.legible.file_leaf⟩
  have hfiles : failing.fileSystem.IsTree := htree.fileSystem
  obtain ⟨hchange, -⟩ := notifies_seen_changes (s := seeing failing) hvault hfiles
  refine ⟨hvault, hfiles, ((hchange ⟨.updated, ⟨"/v/d"⟩⟩).1 fun hsame => ?_).1,
    (hchange ⟨.updated, ⟨"/v/a.md"⟩⟩).2 (Index.sameAnswers_of_view_eq ?_)⟩
  · have hdocuments := hsame.documents
    revert hdocuments
    decide +kernel
  · decide +kernel

end Vault

end WikiNotes
