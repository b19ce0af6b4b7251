import WikiNotes.Vault.Coordinator

/-! # Nothing that is submitted is lost

Of the updates that are queued those stand that none behind them supersedes
(`Mutation.enqueueAll_nil`).  So a batch gathers what was submitted since the one before it was
taken: every update of that that no later one supersedes, once, and in the order of submission
(`Mutation.Gathers`, `Mutation.gathers_standing`).

`Coordinator.submit` takes for granted that what is submitted from inside a batch is only queued.
`submitCalling` makes these submissions in earnest, each of them with a run of its own if it came to
that; it does not (`submitCalling_eq`).  A submission that is made while nothing runs leaves nothing
behind, whether a batch failed or not, and what its batches are made of is told by `Served`.  That
holds for any number of submissions one after the other (`session_served`). -/

namespace WikiNotes

namespace Mutation

/-! ### What stands in a queue -/

/-- Whether an update makes an earlier one needless. -/
def supersedes : Mutation → Mutation → Bool
  | rebuild, _ => true
  | apply change, earlier => earlier.concerns change.path.location

/-- The updates that no later one supersedes. -/
def standing : List Mutation → List Mutation
  | [] => []
  | m :: ms => if ms.any (·.supersedes m) then standing ms else m :: standing ms

theorem enqueue_eq (queue : List Mutation) (m : Mutation) :
    enqueue queue m = queue.filter (!m.supersedes ·) ++ [m] := by
  cases m with
  | rebuild => simp [enqueue, supersedes]
  | apply change => rfl

/-- What is queued drops what it supersedes, of the queue and of itself. -/
theorem enqueueAll_eq (queue ms : List Mutation) :
    enqueueAll queue ms = queue.filter (fun m => !ms.any (·.supersedes m)) ++ standing ms := by
  induction ms generalizing queue with
  | nil =>
    have hkept : queue.filter (fun _ => true) = queue := List.filter_eq_self.mpr fun _ _ => rfl
    simp [enqueueAll, standing, hkept]
  | cons m ms ih =>
    have hrest : enqueueAll queue (m :: ms) = enqueueAll (enqueue queue m) ms := rfl
    rw [hrest, ih, enqueue_eq, List.filter_append, List.filter_filter, standing]
    cases hlater : ms.any (·.supersedes m) <;> simp [hlater, Bool.and_comm]

/-- In an empty queue those stand that no later one supersedes. -/
theorem enqueueAll_nil (ms : List Mutation) : enqueueAll [] ms = standing ms := by
  rw [enqueueAll_eq, List.filter_nil, List.nil_append]

/-- The last update always stands. -/
theorem standing_eq_nil_iff {ms : List Mutation} : standing ms = [] ↔ ms = [] := by
  refine ⟨fun h => ?_, fun h => by rw [h, standing]⟩
  induction ms with
  | nil => rfl
  | cons m ms ih =>
    rw [standing] at h
    split at h
    case isTrue hlater =>
      rw [ih h] at hlater
      exact nomatch hlater
    case isFalse => exact nomatch h

/-! ### What a batch gathers -/

/-- An update stands among those that were submitted if none behind it supersedes it. -/
def StandsAt (submitted : List Mutation) (k : Nat) : Prop :=
  ∃ m, submitted[k]? = some m ∧ ∀ later ∈ submitted.drop (k + 1), later.supersedes m = false

/-- A batch gathers what was submitted for it: it is made of the updates that stand, each of them
    once and in the order in which they were submitted. -/
def Gathers (submitted batch : List Mutation) : Prop :=
  ∃ origins : List Nat, origins.Pairwise (· < ·) ∧ (∀ k, k ∈ origins ↔ StandsAt submitted k) ∧
    batch.map some = origins.map (submitted[·]?)

theorem standsAt_zero {m : Mutation} {ms : List Mutation} :
    StandsAt (m :: ms) 0 ↔ ms.any (·.supersedes m) = false := by
  simp [StandsAt]

theorem standsAt_succ {m : Mutation} {ms : List Mutation} {k : Nat} :
    StandsAt (m :: ms) (k + 1) ↔ StandsAt ms k := by
  simp [StandsAt]

theorem gathers_standing (ms : List Mutation) : Gathers ms (standing ms) := by
  induction ms with
  | nil => exact ⟨[], .nil, by simp [StandsAt], rfl⟩
  | cons m ms ih =>
    obtain ⟨origins, hascending, horigins, hbatch⟩ := ih
    -- All updates behind the first one moved on by one place.
    have hshifted : (origins.map (· + 1)).Pairwise (· < ·) :=
      List.pairwise_map.mpr (hascending.imp Nat.succ_lt_succ)
    have hmem (k : Nat) : k + 1 ∈ origins.map (· + 1) ↔ StandsAt (m :: ms) (k + 1) := by
      rw [standsAt_succ, ← horigins]
      simp
    have hupdates : (standing ms).map some = (origins.map (· + 1)).map ((m :: ms)[·]?) := by
      rw [hbatch, List.map_map]
      rfl
    rw [standing]
    cases hlater : ms.any (·.supersedes m) with
    | true =>
      refine ⟨origins.map (· + 1), hshifted, fun k => ?_, hupdates⟩
      cases k with
      | zero => simp [standsAt_zero, hlater]
      | succ k => exact hmem k
    | false =>
      refine ⟨0 :: origins.map (· + 1), ?_, fun k => ?_, ?_⟩
      · exact List.pairwise_cons.mpr ⟨fun k hk => by grind, hshifted⟩
      · cases k with
        | zero => simp [standsAt_zero, hlater]
        | succ k => simpa using hmem k
      · rw [if_neg Bool.false_ne_true, List.map_cons, List.map_cons, hupdates]
        rfl

end Mutation

namespace Coordinator

variable {c : Coordinator}

/-! ### Submissions from inside a batch -/

/-- A submission that is made from inside a batch, and how its own run would go. -/
structure Call where
  mutations : List Mutation
  script : List Reaction

/-- What happens while a batch runs: the submissions that are made, and whether the run fails. -/
structure Turn where
  calls : List Call
  fails : Bool

/-- What a turn amounts to if submissions are only queued. -/
def Turn.reaction (turn : Turn) : Reaction := ⟨turn.calls.map Call.mutations, turn.fails⟩

/-- Make submissions one after the other; gives the batches that they run. -/
def callEach (c : Coordinator) : List Call → Coordinator × List BatchRun
  | [] => (c, [])
  | call :: calls =>
    let (called, outcome) := c.submit call.mutations call.script
    let (final, runs) := called.callEach calls
    (final, outcome.runs ++ runs)

/-- Run batches until nothing is queued or one of them fails, and make the submissions of every
    batch; gives the batches that these run too. -/
def drainCalling (c : Coordinator) : List Turn → Coordinator × SubmitOutcome × List BatchRun
  | [] => ((c.drain []).1, (c.drain []).2, [])
  | turn :: turns =>
    if c.queue.isEmpty then ({ c with busy := false }, ⟨[], false⟩, [])
    else
      let (batch, taken) := c.takeBatch
      let (after, inner) := taken.callEach turn.calls
      let run : BatchRun := ⟨batch, after.queue.length⟩
      if turn.fails then ({}, ⟨[run], true⟩, inner)
      else
        let (final, outcome, rest) := after.drainCalling turns
        (final, { outcome with runs := run :: outcome.runs }, inner ++ rest)

/-- Submit updates, and make the submissions of every batch that is run. -/
def submitCalling (c : Coordinator) (mutations : List Mutation) (turns : List Turn) :
    Coordinator × SubmitOutcome × List BatchRun :=
  let queued := c.enqueueAll mutations
  if c.busy then (queued, ⟨[], false⟩, []) else { queued with busy := true }.drainCalling turns

/-- While a batch runs a submission is only queued. -/
theorem submit_of_busy (hbusy : c.busy = true) (mutations : List Mutation)
    (reactions : List Reaction) :
    c.submit mutations reactions = (c.enqueueAll mutations, ⟨[], false⟩) := by
  rw [submit, hbusy, if_pos rfl]

theorem callEach_of_busy (hbusy : c.busy = true) (calls : List Call) :
    c.callEach calls = ((calls.map Call.mutations).foldl enqueueAll c, []) := by
  induction calls generalizing c with
  | nil => rfl
  | cons call calls ih =>
    have hqueued : (c.enqueueAll call.mutations).busy = true := hbusy
    rw [callEach, submit_of_busy hbusy]
    simp only [ih hqueued, List.map_cons, List.foldl_cons, List.append_nil]

theorem busy_react (c : Coordinator) (reaction : Reaction) :
    (c.react reaction).busy = c.busy := by
  rw [react]
  induction reaction.submissions generalizing c with
  | nil => rfl
  | cons mutations rest ih => exact ih (c.enqueueAll mutations)

theorem drainCalling_eq (hbusy : c.busy = true) (turns : List Turn) :
    c.drainCalling turns =
      ((c.drain (turns.map Turn.reaction)).1, (c.drain (turns.map Turn.reaction)).2, []) := by
  induction turns generalizing c with
  | nil => rfl
  | cons turn turns ih =>
    have htaken : c.takeBatch.2.busy = true := hbusy
    have hcalls : c.takeBatch.2.callEach turn.calls = (c.takeBatch.2.react turn.reaction, []) :=
      callEach_of_busy htaken turn.calls
    have hafter : (c.takeBatch.2.react turn.reaction).busy = true :=
      (busy_react ..).trans htaken
    have hfails : turn.reaction.fails = turn.fails := rfl
    simp only [drainCalling, List.map_cons, drain, hcalls, hfails, ih hafter, List.append_nil]
    split
    case isTrue => rfl
    case isFalse =>
      split
      case isTrue => rfl
      case isFalse => rfl

/-- No submission from inside a batch runs a batch of its own. -/
theorem submitCalling_eq (c : Coordinator) (mutations : List Mutation) (turns : List Turn) :
    c.submitCalling mutations turns =
      ((c.submit mutations (turns.map Turn.reaction)).1,
        (c.submit mutations (turns.map Turn.reaction)).2, []) := by
  rw [submitCalling, submit]
  cases hbusy : c.busy with
  | true => rfl
  | false => exact drainCalling_eq rfl turns

/-! ### The batches of a submission -/

/-- What is submitted for a batch: for the first one the updates of the submission itself, for every
    other one what is submitted while the batch before it runs. -/
def submittedFor (mutations : List Mutation) (reactions : List Reaction) : Nat → List Mutation
  | 0 => mutations
  | i + 1 => (reactions[i]?.map (·.submissions.flatten)).getD []

theorem submittedFor_cons (mutations : List Mutation) (reaction : Reaction)
    (reactions : List Reaction) (i : Nat) :
    submittedFor mutations (reaction :: reactions) (i + 1) =
      submittedFor reaction.submissions.flatten reactions i := by
  cases i <;> rfl

/-- The batches of a submission are made of what is submitted for them. -/
structure Served (mutations : List Mutation) (reactions : List Reaction)
    (outcome : SubmitOutcome) : Prop where
  /-- Every batch gathers what was submitted for it. -/
  gathers {i : Nat} {run : BatchRun} : outcome.runs[i]? = some run →
    Mutation.Gathers (submittedFor mutations reactions i) run.batch
  /-- When a batch is done what was submitted for the next one is queued. -/
  queued {i : Nat} {run : BatchRun} : outcome.runs[i]? = some run →
    run.queued = (Mutation.standing (submittedFor mutations reactions (i + 1))).length
  /-- Behind a batch that fails no other one is run. -/
  last {i : Nat} {run : BatchRun} {reaction : Reaction} : outcome.runs[i]? = some run →
    reactions[i]? = some reaction → reaction.fails = true → i + 1 = outcome.runs.length
  /-- A submission fails if one of its batches does. -/
  failed_iff : outcome.failed = true ↔ ∃ (i : Nat) (run : BatchRun) (reaction : Reaction),
    outcome.runs[i]? = some run ∧ reactions[i]? = some reaction ∧ reaction.fails = true
  /-- Unless a batch failed nothing was submitted for a batch that was not run. -/
  complete : outcome.failed = false → submittedFor mutations reactions outcome.runs.length = []

/-- If nothing is submitted nothing is run. -/
theorem served_nil (reactions : List Reaction) : Served [] reactions ⟨[], false⟩ where
  gathers hrun := nomatch hrun
  queued hrun := nomatch hrun
  last hrun := nomatch hrun
  failed_iff := by simp
  complete _ := rfl

section Batch

variable {mutations : List Mutation} {reaction : Reaction} {reactions : List Reaction}

/-- The batch of what was submitted, behind which the submissions of a reaction are queued. -/
def batchRun (mutations : List Mutation) (reaction : Reaction) : BatchRun :=
  ⟨Mutation.standing mutations, (Mutation.standing reaction.submissions.flatten).length⟩

theorem eq_of_getElem?_singleton {run first : BatchRun} {i : Nat} (h : [first][i]? = some run) :
    i = 0 ∧ first = run := by
  cases i with
  | zero => exact ⟨rfl, Option.some.inj h⟩
  | succ i => exact nomatch h

/-- A batch during which nothing is submitted is the only one. -/
theorem served_single (mutations : List Mutation) :
    Served mutations [] ⟨[batchRun mutations {}], false⟩ where
  gathers {i run} hrun := by
    obtain ⟨rfl, rfl⟩ := eq_of_getElem?_singleton hrun
    exact Mutation.gathers_standing mutations
  queued {i run} hrun := by
    obtain ⟨rfl, rfl⟩ := eq_of_getElem?_singleton hrun
    rfl
  last _ hreaction := nomatch hreaction
  failed_iff := by simp
  complete _ := rfl

/-- A batch that fails is the last one. -/
theorem served_failed (mutations : List Mutation) (reactions : List Reaction)
    (hfails : reaction.fails = true) :
    Served mutations (reaction :: reactions) ⟨[batchRun mutations reaction], true⟩ where
  gathers {i run} hrun := by
    obtain ⟨rfl, rfl⟩ := eq_of_getElem?_singleton hrun
    exact Mutation.gathers_standing mutations
  queued {i run} hrun := by
    obtain ⟨rfl, rfl⟩ := eq_of_getElem?_singleton hrun
    rfl
  last {i run _} hrun _ _ := by
    obtain ⟨rfl, -⟩ := eq_of_getElem?_singleton hrun
    rfl
  failed_iff := ⟨fun _ => ⟨0, _, reaction, rfl, rfl, hfails⟩, fun _ => rfl⟩
  complete hfailed := nomatch hfailed

/-- Behind a batch that does not fail its submissions are served. -/
theorem Served.cons {outcome : SubmitOutcome}
    (h : Served reaction.submissions.flatten reactions outcome) (hfails : reaction.fails = false)
    (mutations : List Mutation) :
    Served mutations (reaction :: reactions)
      { outcome with runs := batchRun mutations reaction :: outcome.runs } where
  gathers {i run} hrun := by
    cases i with
    | zero =>
      obtain rfl := Option.some.inj hrun
      exact Mutation.gathers_standing mutations
    | succ i =>
      rw [submittedFor_cons]
      exact h.gathers hrun
  queued {i run} hrun := by
    rw [submittedFor_cons]
    cases i with
    | zero =>
      obtain rfl := Option.some.inj hrun
      rfl
    | succ i => exact h.queued hrun
  last {i run reaction'} hrun hreaction hfails' := by
    cases i with
    | zero =>
      obtain rfl := Option.some.inj hreaction
      exact nomatch hfails.symm.trans hfails'
    | succ i => exact congrArg Nat.succ (h.last hrun hreaction hfails')
  failed_iff := by
    refine h.failed_iff.trans ⟨?_, ?_⟩
    · rintro ⟨i, run, reaction', hrun, hreaction, hfails'⟩
      exact ⟨i + 1, run, reaction', hrun, hreaction, hfails'⟩
    · rintro ⟨i, run, reaction', hrun, hreaction, hfails'⟩
      cases i with
      | zero =>
        obtain rfl := Option.some.inj hreaction
        exact nomatch hfails.symm.trans hfails'
      | succ i => exact ⟨i, run, reaction', hrun, hreaction, hfails'⟩
  complete hfailed := (submittedFor_cons ..).trans (h.complete hfailed)

end Batch

/-! ### Submitting -/

/-- What is submitted while a batch runs is queued behind it. -/
theorem react_taken (queue : List Mutation) (busy : Bool) (reaction : Reaction) :
    (takeBatch ⟨queue, busy⟩).2.react reaction =
      ⟨Mutation.standing reaction.submissions.flatten, busy⟩ := by
  have hfold (submissions : List (List Mutation)) (queue : List Mutation) :
      submissions.foldl enqueueAll ⟨queue, busy⟩ =
        ⟨Mutation.enqueueAll queue submissions.flatten, busy⟩ := by
    induction submissions generalizing queue with
    | nil => rfl
    | cons mutations rest ih =>
      rw [List.foldl_cons, List.flatten_cons, Mutation.enqueueAll, List.foldl_append]
      exact ih _
  rw [← Mutation.enqueueAll_nil]
  exact hfold ..

/-- Running batches leaves nothing behind and serves what was queued. -/
theorem served_drain (mutations : List Mutation) (reactions : List Reaction) :
    (drain ⟨Mutation.standing mutations, true⟩ reactions).1 = {} ∧
      Served mutations reactions (drain ⟨Mutation.standing mutations, true⟩ reactions).2 := by
  induction reactions generalizing mutations with
  | nil =>
    cases hqueue : (Mutation.standing mutations).isEmpty with
    | true =>
      have hnil := List.isEmpty_iff.mp hqueue
      obtain rfl := Mutation.standing_eq_nil_iff.mp hnil
      exact ⟨rfl, served_nil []⟩
    | false =>
      simp only [drain, hqueue, Bool.false_eq_true, if_false, true_and]
      exact served_single mutations
  | cons reaction reactions ih =>
    cases hqueue : (Mutation.standing mutations).isEmpty with
    | true =>
      have hnil := List.isEmpty_iff.mp hqueue
      obtain rfl := Mutation.standing_eq_nil_iff.mp hnil
      exact ⟨rfl, served_nil (reaction :: reactions)⟩
    | false =>
      simp only [drain, hqueue, react_taken, Bool.false_eq_true, if_false]
      cases hfails : reaction.fails with
      | true => exact ⟨rfl, served_failed mutations reactions hfails⟩
      | false =>
        obtain ⟨hfinal, hserved⟩ := ih reaction.submissions.flatten
        exact ⟨hfinal, hserved.cons hfails mutations⟩

/-- A submission to a coordinator that does nothing leaves nothing behind and is served. -/
theorem served_submit (mutations : List Mutation) (reactions : List Reaction) :
    (({} : Coordinator).submit mutations reactions).1 = {} ∧
      Served mutations reactions (({} : Coordinator).submit mutations reactions).2 := by
  have hsubmit : ({} : Coordinator).submit mutations reactions =
      drain ⟨Mutation.enqueueAll [] mutations, true⟩ reactions := rfl
  rw [hsubmit, Mutation.enqueueAll_nil]
  exact served_drain mutations reactions

/-! ### Sessions -/

/-- A submission that is made while no other one is under way. -/
structure Submission where
  mutations : List Mutation
  turns : List Turn

/-- Make submissions one after the other; gives what each of them led to. -/
def session (c : Coordinator) : List Submission → Coordinator × List (SubmitOutcome × List BatchRun)
  | [] => (c, [])
  | submission :: submissions =>
    let (next, result) := c.submitCalling submission.mutations submission.turns
    let (final, results) := next.session submissions
    (final, result :: results)

/-- However many submissions are made, nothing is queued or under way after any of them, even if a
    batch failed, so that each is served as if it were the first: a submission from inside a batch
    runs nothing and is only queued, every batch gathers what was submitted since the one before it
    was taken, nothing is left without a batch unless one failed, and that was the last one. -/
theorem session_served (submissions : List Submission) :
    (session {} submissions).1 = {} ∧
      (session {} submissions).2 = submissions.map (fun submission =>
        (submitCalling {} submission.mutations submission.turns).2) ∧
      ∀ mutations turns,
        let reactions := turns.map Turn.reaction
        let outcome := (({} : Coordinator).submit mutations reactions).2
        submitCalling {} mutations turns = ({}, outcome, []) ∧
          Served mutations reactions outcome := by
  have hserved (mutations : List Mutation) (turns : List Turn) :
      submitCalling {} mutations turns =
        ({}, (({} : Coordinator).submit mutations (turns.map Turn.reaction)).2, []) := by
    rw [submitCalling_eq, (served_submit ..).1]
  refine ⟨?_, ?_, fun mutations turns => ⟨hserved mutations turns, (served_submit ..).2⟩⟩
  · induction submissions with
    | nil => rfl
    | cons submission submissions ih => simp only [session, hserved, ih]
  · induction submissions with
    | nil => rfl
    | cons submission submissions ih => simp only [session, hserved, ih, List.map_cons]

end Coordinator

end WikiNotes
