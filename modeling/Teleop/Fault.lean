/-!
# Faults

A fault ends the operation that runs into it; nothing that the operation did is kept. Faults are
not refusals: a refused operation reports an error and leaves the state usable.
-/

namespace Teleop

/-- The ways in which an operation can break off. -/
inductive Fault where
  /-- A message was needed and none was given. -/
  | missingMessage
  /-- An element was removed from an empty buffer. -/
  | emptyBuffer
  /-- A notification was raised for which no handler is registered. -/
  | missingHandler
  /-- The channel acted on its current link while it had none. -/
  | missingLink
  /-- A part was taken that ends before it starts. -/
  | invertedRange
  /-- Something was named that does not exist. -/
  | unknownName
  /-- A request was made that cannot be read. -/
  | malformedRequest
  /-- More room was asked for than there can be. -/
  | impossibleSize
  /-- Callbacks ran inside callbacks beyond any bound. -/
  | callbackDepth
  /-- The session loop was not asked to stop within its budget of ticks. -/
  | endlessLoop
  deriving DecidableEq, Repr

end Teleop
