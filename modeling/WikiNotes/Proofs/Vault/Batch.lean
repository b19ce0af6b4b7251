import WikiNotes.Proofs.Index.Every
import WikiNotes.Proofs.Vault.Coordinator
import WikiNotes.Vault.Basic

/-! # What a vault does with a batch

Between its operations a vault has nothing queued, so what is submitted to it is run as one batch
(`index_submit`).  Of several changes to one place only the last is in the batch (`Change.latest`,
`index_handleChanges`). -/

namespace WikiNotes

/-! ### The queue -/

namespace Change

/-- Whether a change is about a place. -/
def isAt (place : Location) (change : Change) : Bool := change.path.location == place

/-- The changes without those that a later one supersedes. -/
def latest : List Change → List Change
  | [] => []
  | change :: changes =>
    if changes.any (isAt change.path.location) then latest changes else change :: latest changes

end Change

/-- Of changes those stand that no later one is about the place of. -/
theorem Mutation.standing_apply (changes : List Change) :
    standing (changes.map .apply) = (Change.latest changes).map .apply := by
  induction changes with
  | nil => rfl
  | cons change changes ih =>
    have hlater : (changes.map apply).any (·.supersedes (apply change)) =
        changes.any (Change.isAt change.path.location) := by
      rw [List.any_map]
      congr 1
      funext later
      exact Bool.beq_comm
    rw [List.map_cons, standing, Change.latest, hlater, ih]
    cases changes.any (Change.isAt change.path.location) <;> rfl

/-- The changes of an empty queue are the latest ones. -/
theorem Mutation.enqueueAll_apply_nil (changes : List Change) :
    enqueueAll [] (changes.map .apply) = (Change.latest changes).map .apply := by
  rw [enqueueAll_nil, standing_apply]

/-- A coordinator that does nothing runs what is submitted to it as one batch, if it is anything. -/
theorem Coordinator.submit_idle (mutations : List Mutation) :
    ({} : Coordinator).submit mutations [] =
      ({}, ⟨if (Mutation.enqueueAll [] mutations).isEmpty then []
        else [⟨Mutation.enqueueAll [] mutations, 0⟩], false⟩) := by
  have hqueued : ({} : Coordinator).enqueueAll mutations =
      ⟨Mutation.enqueueAll [] mutations, false⟩ := rfl
  rw [submit, hqueued]
  cases Mutation.enqueueAll [] mutations <;> rfl

namespace Vault

variable {s : Surroundings} {vault : Vault}

/-! ### Submitting -/

/-- What is submitted to a vault that does nothing is run as one batch. -/
theorem submit_of_idle (h : vault.coordinator = {}) (mutations : List Mutation) :
    vault.submit s mutations = afterBatch s vault (Mutation.enqueueAll [] mutations) := by
  have hidle : { vault with coordinator := {} } = vault := by rw [← h]
  have hafter (batch : List Mutation) :
      { afterBatch s vault batch with coordinator := {} } = afterBatch s vault batch := by
    rw [afterBatch, h]
  rw [submit, h, Coordinator.submit_idle]
  cases Mutation.enqueueAll [] mutations with
  | nil => exact hidle
  | cons mutation rest => exact hafter (mutation :: rest)

theorem coordinator_submit (h : vault.coordinator = {}) (mutations : List Mutation) :
    (vault.submit s mutations).coordinator = {} := by
  rw [submit_of_idle h]
  exact h

theorem settings_submit (h : vault.coordinator = {}) (mutations : List Mutation) :
    (vault.submit s mutations).settings = vault.settings := by
  rw [submit_of_idle h]
  rfl

theorem index_submit (h : vault.coordinator = {}) (mutations : List Mutation) :
    (vault.submit s mutations).index =
      (runBatch s vault.settings vault.index (Mutation.enqueueAll [] mutations)).1 := by
  rw [submit_of_idle h]
  rfl

/-- A new vault has nothing to do, and its index was built from scratch. -/
theorem new_eq (s : Surroundings) (settings : Settings) :
    (new s settings).coordinator = {} ∧ (new s settings).settings = settings ∧
      (new s settings).index = Index.build s.files s.time settings.root settings.policy := by
  have hidle : (⟨settings, { policy := settings.policy }, {}, {}⟩ : Vault).coordinator = {} := rfl
  exact ⟨coordinator_submit hidle _, settings_submit hidle _, index_submit hidle _⟩

/-! ### Changes -/

theorem runBatch_apply (s : Surroundings) (settings : Settings) (index : Index)
    (changes : List Change) :
    (runBatch s settings index (changes.map .apply)).1 = index.applyEach s.files changes := by
  induction changes generalizing index with
  | nil => rfl
  | cons change changes ih => exact ih _

/-- A vault brings its index up to date with the latest of the changes that it is told of. -/
theorem index_handleChanges (h : vault.coordinator = {}) (changes : List Change) :
    (vault.handleChanges s changes).index =
      vault.index.applyEach s.files (Change.latest changes) := by
  rw [handleChanges, index_submit h, Mutation.enqueueAll_apply_nil, runBatch_apply]

theorem index_rebuild (h : vault.coordinator = {}) :
    (vault.rebuild s).index =
      Index.build s.files s.time vault.settings.root vault.settings.policy :=
  index_submit h [.rebuild]

end Vault

end WikiNotes
