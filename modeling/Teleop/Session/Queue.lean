import Teleop.Message.Basic
import Teleop.Time.Instant

/-!
# Coalescing queues

A queue holds at most one batch of messages: a new batch replaces the one that waits. The session
takes the batch out at most once per interval. A closed queue stays empty.
-/

namespace Teleop

/-- A slot for one batch of messages, emptied at most once per interval. -/
structure Queue where
  interval : Duration
  pending : List (Option Message) := []
  /-- When the slot was last emptied; at first never. -/
  lastDrain : Instant := Instant.zero
  closed : Bool := false
  deriving DecidableEq, Repr

namespace Queue

/-- Replaces the batch that waits; a closed queue ignores it. -/
def put (q : Queue) (batch : List (Option Message)) : Queue :=
  if q.closed then q else { q with pending := batch }

def clear (q : Queue) : Queue :=
  { q with pending := [] }

/-- Discards the batch and ignores all later ones. -/
def close (q : Queue) : Queue :=
  { q with pending := [], closed := true }

/-- The batch can be taken out: there is one, and the interval has passed since the last one. -/
def due (q : Queue) (now : Instant) : Bool :=
  !q.closed && !q.pending.isEmpty && decide (q.interval ≤ now.since q.lastDrain)

/-- Takes the batch out if it is due. -/
def take (q : Queue) (now : Instant) : List (Option Message) × Queue :=
  if q.due now then (q.pending, { q with pending := [], lastDrain := now }) else ([], q)

/-- The due batches of several queues, one after the other. -/
def takeAll (now : Instant) : List Queue → List (Option Message) × List Queue
  | [] => ([], [])
  | q :: rest =>
    let (batch, q) := q.take now
    let (batches, rest) := takeAll now rest
    (batch ++ batches, q :: rest)

/-- The due batches of several queues, each with the number of its queue. -/
def dueBatches (now : Instant) (queues : List Queue) : List (Nat × List (Option Message)) :=
  (queues.zipIdx.filter (·.1.due now)).map fun (q, number) => (number, q.pending)

end Queue

end Teleop
