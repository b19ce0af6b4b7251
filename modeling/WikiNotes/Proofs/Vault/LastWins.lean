import Mathlib.Data.List.Sort
import WikiNotes.Proofs.Vault.Coordinator

/-! # In a queue the last update of a path wins

Whatever is queued, a queue is the last-wins normal form of it: a rebuild at the front if there was
one, and behind it the changes since the last rebuild without those of a path that was changed again
(`Mutation.IsLastWins`).  This description fixes the queue, and a queue is its own normal form
(`Mutation.enqueueAll_lastWins`).

No update of a queue supersedes one in front of it (`Mutation.pairwise_standing`).  That is why at
most one rebuild is queued and at most one change of each path, and why nothing is lost when a queue
is queued again. -/

namespace WikiNotes.Mutation

/-! ### Nothing queued is superseded -/

theorem standing_sublist (ms : List Mutation) : (standing ms).Sublist ms := by
  induction ms with
  | nil => exact .slnil
  | cons m ms ih =>
    rw [standing]
    split
    case isTrue => exact ih.cons m
    case isFalse => exact ih.cons_cons m

/-- No update that stands supersedes one in front of it. -/
theorem pairwise_standing (ms : List Mutation) :
    (standing ms).Pairwise fun earlier later => later.supersedes earlier = false := by
  induction ms with
  | nil => exact .nil
  | cons m ms ih =>
    rw [standing]
    split
    case isTrue => exact ih
    case isFalse hlater =>
      refine List.pairwise_cons.mpr ⟨fun later hmem => ?_, ih⟩
      have hnone := List.any_eq_false.mp (Bool.not_eq_true _ ▸ hlater)
      exact Bool.not_eq_true _ ▸ hnone later ((standing_sublist ms).subset hmem)

/-- Updates of which none supersedes one in front of it all stand. -/
theorem standing_eq_self {queue : List Mutation}
    (h : queue.Pairwise fun earlier later => later.supersedes earlier = false) :
    standing queue = queue := by
  induction queue with
  | nil => rfl
  | cons m queue ih =>
    obtain ⟨hhead, hrest⟩ := List.pairwise_cons.mp h
    have hnone : queue.any (·.supersedes m) = false :=
      List.any_eq_false.mpr fun later hmem => by simp [hhead later hmem]
    rw [standing, hnone, ih hrest, if_neg Bool.false_ne_true]

/-! ### The changes that are kept -/

/-- The change that an update is; a rebuild is none. -/
def change? : Mutation → Option Change
  | rebuild => none
  | apply change => some change

/-- The change at a position is kept if neither a rebuild nor a change of the same place follows. -/
def KeptAt (ms : List Mutation) (k : Nat) (change : Change) : Prop :=
  ms[k]? = some (apply change) ∧ rebuild ∉ ms.drop (k + 1) ∧
    ∀ later, apply later ∈ ms.drop (k + 1) → later.path.location ≠ change.path.location

/-- The changes that are kept, each of them once and in the order of their positions. -/
def Keeps (ms : List Mutation) (changes : List Change) : Prop :=
  ∃ kept : List (Nat × Change), kept.Pairwise (·.1 < ·.1) ∧
    (∀ k change, (k, change) ∈ kept ↔ KeptAt ms k change) ∧ changes = kept.map Prod.snd

/-- The last-wins normal form of updates: a rebuild if there is one among them, and behind it the
    changes that are kept. -/
def IsLastWins (ms queue : List Mutation) : Prop :=
  ∃ changes, Keeps ms changes ∧
    queue = (if rebuild ∈ ms then [rebuild] else []) ++ changes.map apply

variable {ms queue queue' : List Mutation} {change : Change} {changes changes' : List Change}

@[simp] theorem change?_rebuild : rebuild.change? = none := rfl

@[simp] theorem change?_apply (change : Change) : (apply change).change? = some change := rfl

theorem change?_eq_some_iff {m : Mutation} : m.change? = some change ↔ m = apply change := by
  cases m <;> simp

theorem any_supersedes_rebuild : ms.any (·.supersedes rebuild) = true ↔ rebuild ∈ ms := by
  rw [List.any_eq_true]
  refine ⟨fun ⟨later, hmem, hlater⟩ => ?_, fun hmem => ⟨rebuild, hmem, rfl⟩⟩
  cases later with
  | rebuild => exact hmem
  | apply change => exact nomatch hlater

/-- A change is superseded by rebuilds and by changes of its own place. -/
theorem not_superseded_iff :
    (∀ later ∈ ms, later.supersedes (apply change) = false) ↔
      rebuild ∉ ms ∧ ∀ later, apply later ∈ ms → later.path.location ≠ change.path.location := by
  constructor
  · intro hnone
    refine ⟨fun hmem => Bool.noConfusion (hnone rebuild hmem), fun later hmem hplace => ?_⟩
    exact ne_of_beq_false (hnone (apply later) hmem) hplace.symm
  · rintro ⟨hrebuild, hother⟩ later hmem
    cases later with
    | rebuild => exact absurd hmem hrebuild
    | apply later => exact beq_false_of_ne (hother later hmem).symm

/-- The changes that are kept are those that stand. -/
theorem keptAt_iff {k : Nat} :
    KeptAt ms k change ↔ StandsAt ms k ∧ ms[k]? = some (apply change) := by
  rw [KeptAt, ← not_superseded_iff]
  constructor
  · exact fun ⟨hat, hnone⟩ => ⟨⟨apply change, hat, hnone⟩, hat⟩
  · rintro ⟨⟨m, hm, hnone⟩, hat⟩
    obtain rfl := Option.some.inj (hm.symm.trans hat)
    exact ⟨hat, hnone⟩

/-- The changes of a batch that gathers updates are those that are kept of them. -/
theorem keeps_of_gathers {batch : List Mutation} (h : Gathers ms batch) :
    Keeps ms (batch.filterMap change?) := by
  obtain ⟨origins, hascending, horigins, hbatch⟩ := h
  refine ⟨origins.filterMap fun k => (ms[k]?.bind change?).map (k, ·), ?_, fun k change => ?_, ?_⟩
  · -- Every entry has the position that it was made from.
    refine List.pairwise_filterMap.mpr (hascending.imp fun {i j} hlt => ?_)
    intro entry hentry entry' hentry'
    obtain ⟨_, -, rfl⟩ := Option.map_eq_some_iff.mp hentry
    obtain ⟨_, -, rfl⟩ := Option.map_eq_some_iff.mp hentry'
    exact hlt
  · rw [keptAt_iff, ← horigins, List.mem_filterMap]
    simp [Option.bind_eq_some_iff, change?_eq_some_iff]
  · have hchanges : batch.filterMap change? = (batch.map some).filterMap (·.bind change?) := by
      simp [List.filterMap_map]
    rw [hchanges, hbatch, List.filterMap_map, List.map_filterMap]
    simp [Function.comp_def]

/-- The changes that are kept are determined by the updates. -/
theorem Keeps.unique (h : Keeps ms changes) (h' : Keeps ms changes') : changes = changes' := by
  obtain ⟨kept, hascending, hkept, rfl⟩ := h
  obtain ⟨kept', hascending', hkept', rfl⟩ := h'
  have hirrefl : Std.Irrefl fun a b : Nat × Change => a.1 < b.1 := ⟨fun _ => Nat.lt_irrefl _⟩
  have hantisymm : Std.Antisymm fun a b : Nat × Change => a.1 < b.1 :=
    ⟨fun _ _ hab hba => absurd hab (Nat.lt_asymm hba)⟩
  have hsame : kept = kept' := hascending.eq_of_mem_iff hascending' fun ⟨k, change⟩ =>
    (hkept k change).trans (hkept' k change).symm
  rw [hsame]

/-! ### The normal form -/

/-- A rebuild that stands is in front of all changes that do. -/
theorem standing_eq (ms : List Mutation) :
    standing ms =
      (if rebuild ∈ ms then [rebuild] else []) ++ ((standing ms).filterMap change?).map apply := by
  induction ms with
  | nil => rfl
  | cons m ms ih =>
    rw [standing]
    cases m with
    | rebuild =>
      -- The rebuild in front stands only if no other one follows, and then it is the first one.
      by_cases hrebuild : rebuild ∈ ms
      · simpa [any_supersedes_rebuild.mpr hrebuild, hrebuild] using ih
      · have hnone := Bool.not_eq_true _ ▸ mt any_supersedes_rebuild.mp hrebuild
        simpa [hnone, hrebuild, List.filterMap_cons] using ih
    | apply change =>
      cases hlater : ms.any (·.supersedes (apply change)) with
      | true => simpa using ih
      | false =>
        -- No rebuild follows a change that stands.
        have hrebuild : rebuild ∉ ms := fun hmem =>
          List.any_eq_false.mp hlater rebuild hmem rfl
        simpa [hrebuild] using ih

/-- What stands is the last-wins normal form. -/
theorem isLastWins_standing (ms : List Mutation) : IsLastWins ms (standing ms) :=
  ⟨_, keeps_of_gathers (gathers_standing ms), standing_eq ms⟩

/-- Updates have one last-wins normal form. -/
theorem IsLastWins.unique (h : IsLastWins ms queue) (h' : IsLastWins ms queue') :
    queue = queue' := by
  obtain ⟨changes, hchanges, rfl⟩ := h
  obtain ⟨changes', hchanges', rfl⟩ := h'
  rw [hchanges.unique hchanges']

/-- A rebuild is queued once if there is any. -/
theorem IsLastWins.count_rebuild (h : IsLastWins ms queue) :
    queue.count rebuild = if rebuild ∈ ms then 1 else 0 := by
  obtain ⟨changes, -, rfl⟩ := h
  have hchanges : (changes.map apply).count rebuild = 0 := List.count_eq_zero.mpr (by simp)
  rw [List.count_append, hchanges]
  split <;> simp

/-- If no update supersedes one in front of it the places of the changes are distinct. -/
theorem pairwise_changes
    (h : queue.Pairwise fun earlier later => later.supersedes earlier = false) :
    (queue.filterMap change?).Pairwise fun c d => c.path.location ≠ d.path.location := by
  refine List.pairwise_filterMap.mpr (h.imp fun {earlier later} hnone => ?_)
  intro c hc d hd hplace
  obtain rfl := change?_eq_some_iff.mp hc
  obtain rfl := change?_eq_some_iff.mp hd
  exact absurd (beq_iff_eq.mpr hplace) (Bool.not_eq_true _ ▸ hnone)

/-- What is in a queue that was empty is the last-wins normal form of what was queued, and nothing
    else is: a rebuild at the front exactly if one was queued, and behind it, once each and in the
    order of queueing, the changes behind the last rebuild with no later change of the same place.
    So at most one rebuild is queued, no two changes of one place are, and queueing the queue again
    changes nothing. -/
theorem enqueueAll_lastWins (ms : List Mutation) :
    (∀ queue, enqueueAll [] ms = queue ↔ IsLastWins ms queue) ∧
    (enqueueAll [] ms).count rebuild = (if rebuild ∈ ms then 1 else 0) ∧
    ((enqueueAll [] ms).filterMap change?).Pairwise
      (fun c d => c.path.location ≠ d.path.location) ∧
    enqueueAll [] (enqueueAll [] ms) = enqueueAll [] ms := by
  have hnormal := isLastWins_standing ms
  have hpairwise := pairwise_standing ms
  simp only [enqueueAll_nil]
  refine ⟨fun queue => ⟨?_, hnormal.unique⟩, hnormal.count_rebuild, pairwise_changes hpairwise,
    standing_eq_self hpairwise⟩
  rintro rfl
  exact hnormal

/-- The last spelling of a path wins, whatever the kinds of the changes. -/
example : enqueueAll [] [apply ⟨.added, ⟨"/v/a.md"⟩⟩, rebuild, apply ⟨.updated, ⟨"/v/b.md"⟩⟩,
      apply ⟨.added, ⟨"/v/c.md"⟩⟩, apply ⟨.deleted, ⟨"/v//b.md/"⟩⟩] =
    [rebuild, apply ⟨.added, ⟨"/v/c.md"⟩⟩, apply ⟨.deleted, ⟨"/v//b.md/"⟩⟩] := by
  decide

end WikiNotes.Mutation
