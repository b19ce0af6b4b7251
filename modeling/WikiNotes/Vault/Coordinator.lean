import WikiNotes.Index.Update

/-! # One update at a time

Updates of the index are run in batches, one batch at a time.  What is submitted while a batch runs
is only queued and makes up the next batch.  The queue keeps no update that a later one makes
needless: a rebuild supersedes everything before it, and a change supersedes an earlier change of
the same place and goes to the back.

`Coordinator.submit` describes what is submitted while the batches run by a list of reactions, one
for each batch. -/

namespace WikiNotes

/-- An update of the index. -/
inductive Mutation where
  /-- Build it from scratch. -/
  | rebuild
  /-- Bring it up to date with a change. -/
  | apply (change : Change)
deriving DecidableEq, Repr

namespace Mutation

/-- Whether an update is a change of a place. -/
def concerns (place : Location) : Mutation → Bool
  | rebuild => false
  | apply change => change.path.location == place

/-- Put an update at the back of a queue, without those that it supersedes. -/
def enqueue (queue : List Mutation) (mutation : Mutation) : List Mutation :=
  match mutation with
  | rebuild => [rebuild]
  | apply change => queue.filter (!·.concerns change.path.location) ++ [apply change]

/-- Put several updates at the back of a queue, one after the other. -/
def enqueueAll (queue : List Mutation) (mutations : List Mutation) : List Mutation :=
  mutations.foldl enqueue queue

end Mutation

/-- What happens while a batch runs. -/
structure Reaction where
  /-- What is submitted meanwhile, one submission after the other. -/
  submissions : List (List Mutation) := []
  /-- Whether the run fails in the end. -/
  fails : Bool := false
deriving DecidableEq, Repr

/-- A batch that was run, and how many updates were queued at its end. -/
structure BatchRun where
  batch : List Mutation
  queued : Nat
deriving DecidableEq, Repr

/-- The updates that wait, and whether a batch is running. -/
structure Coordinator where
  queue : List Mutation := []
  busy : Bool := false
deriving DecidableEq, Repr

/-- What a submission led to. -/
structure SubmitOutcome where
  /-- The batches that were run, in order. -/
  runs : List BatchRun
  /-- Whether the last of them failed. -/
  failed : Bool
deriving DecidableEq, Repr

namespace Coordinator

/-- Queue updates. -/
def enqueueAll (c : Coordinator) (mutations : List Mutation) : Coordinator :=
  { c with queue := Mutation.enqueueAll c.queue mutations }

/-- Take all queued updates as the next batch. -/
def takeBatch (c : Coordinator) : List Mutation × Coordinator := (c.queue, { c with queue := [] })

/-- Queue what is submitted while a batch runs. -/
def react (c : Coordinator) (reaction : Reaction) : Coordinator :=
  reaction.submissions.foldl enqueueAll c

/-- Run batches until nothing is queued or one of them fails; a failure drops what is queued.
    Behind the last reaction nothing more is submitted. -/
def drain (c : Coordinator) : List Reaction → Coordinator × SubmitOutcome
  | [] =>
    if c.queue.isEmpty then ({ c with busy := false }, ⟨[], false⟩)
    else ({}, ⟨[⟨c.queue, 0⟩], false⟩)
  | reaction :: reactions =>
    if c.queue.isEmpty then ({ c with busy := false }, ⟨[], false⟩)
    else
      -- What is submitted from now on belongs to the next batch.
      let (batch, taken) := c.takeBatch
      let after := taken.react reaction
      let run : BatchRun := ⟨batch, after.queue.length⟩
      -- A failed run leaves nothing behind, as if nothing had ever been submitted.
      if reaction.fails then ({}, ⟨[run], true⟩)
      else
        let (final, outcome) := after.drain reactions
        (final, { outcome with runs := run :: outcome.runs })

/-- Submit updates.  If a batch is running they are only queued; otherwise batches are run. -/
def submit (c : Coordinator) (mutations : List Mutation) (reactions : List Reaction) :
    Coordinator × SubmitOutcome :=
  let queued := c.enqueueAll mutations
  if c.busy then (queued, ⟨[], false⟩) else { queued with busy := true }.drain reactions

end Coordinator

end WikiNotes
