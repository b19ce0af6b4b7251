/-! # Notifications

A notifier counts the changes it was told of, and receivers learn of them one by one.  No more than
`Notifier.capacity` notifications are kept for a receiver: one that falls further behind is told
how many it missed and goes on with the oldest that is kept. -/

namespace WikiNotes

/-- The count of the changes so far. -/
structure Notifier where
  generation : Nat := 0
deriving DecidableEq, Repr

/-- A receiver of notifications: how many of them it is done with. -/
structure Receiver where
  seen : Nat
deriving DecidableEq, Repr

/-- What a receiver gets. -/
inductive Notification where
  /-- There was a change. -/
  | changed
  /-- There was no further change. -/
  | empty
  /-- So many changes were missed. -/
  | lagged (missed : Nat)
deriving DecidableEq, Repr

namespace Notifier

/-- How many notifications are kept. -/
def capacity : Nat := 64

/-- Tell of a change. -/
def notify (n : Notifier) : Notifier := ⟨n.generation + 1⟩

/-- A receiver of the changes from now on. -/
def subscribe (n : Notifier) : Receiver := ⟨n.generation⟩

/-- What a receiver gets next. -/
def receive (n : Notifier) (r : Receiver) : Receiver × Notification :=
  let behind := n.generation - r.seen
  -- One that fell too far behind skips what was dropped and only learns of that.
  if behind = 0 then (r, .empty)
  else if capacity < behind then (⟨n.generation - capacity⟩, .lagged (behind - capacity))
  else (⟨r.seen + 1⟩, .changed)

/-- What a receiver gets when it takes all changes in a row: how many there are before it gets
    anything else, which is taken as well. -/
def drain (n : Notifier) (r : Receiver) : Receiver × Nat :=
  let behind := n.generation - r.seen
  if capacity < behind then ((n.receive r).1, 0) else (⟨n.generation⟩, behind)

end Notifier

end WikiNotes
