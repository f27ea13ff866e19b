import Teleop.Fault
import Teleop.Message.Basic

/-!
# The backlog

Messages that wait to be sent in the order of their submission. The backlog has a limit; when it is
exceeded, the oldest messages are dropped and their number is reported.

* `push` appends one message;
* `drain` takes all messages out;
* `restore` puts drained messages back in front of those that came later.

A slot may hold no message; such a slot can be pushed and dropped but not drained.
-/

namespace Teleop

/-- An ordered buffer of at most `limit` messages. -/
structure Backlog where
  limit : Int
  items : List (Option Message) := []
  deriving DecidableEq, Repr

namespace Backlog

/-- As long as no message can be added within the limit, the oldest one is removed and counted, on
top of those that were `dropped` before. From an empty buffer nothing can be removed. -/
def makeRoom (limit : Int) : (dropped : Nat) → List (Option Message) →
    Except Fault (Nat × List (Option Message))
  | dropped, [] => if limit ≤ 0 then .error .emptyBuffer else .ok (dropped, [])
  | dropped, oldest :: rest =>
    if limit ≤ rest.length + 1 then makeRoom limit (dropped + 1) rest
    else .ok (dropped, oldest :: rest)

/-- Makes room by dropping the oldest messages, then appends. The number of dropped messages is
returned. -/
def push (b : Backlog) (m : Option Message) : Except Fault (Nat × Backlog) := do
  let (dropped, items) ← makeRoom b.limit 0 b.items
  return (dropped, { b with items := items ++ [m] })

/-- All messages in order, and the emptied backlog. -/
def drain (b : Backlog) : Except Fault (List Message × Backlog) :=
  match b.items.mapM id with
  | some messages => .ok (messages, { b with items := [] })
  | none => .error .missingMessage

/-- The messages in front of what the backlog holds now, of which the newest are kept. The number
of dropped messages is returned. -/
def restore (b : Backlog) (messages : List (Option Message)) : Except Fault (Nat × Backlog) :=
  if messages = [] then .ok (0, b)
  else do
    let (later, b) ← b.drain
    let all := messages ++ later.map some
    if b.limit < 0 then throw .invertedRange
    let dropped := all.length - b.limit.toNat
    return (dropped, { b with items := all.drop dropped })

def clear (b : Backlog) : Backlog :=
  { b with items := [] }

def length (b : Backlog) : Nat :=
  b.items.length

/-! ## Making room -/

/-- Without a positive limit there is never room, so the buffer runs empty. -/
theorem makeRoom_of_nonpos {limit : Int} (h : limit ≤ 0) (dropped : Nat)
    (items : List (Option Message)) : makeRoom limit dropped items = .error .emptyBuffer := by
  induction items generalizing dropped with
  | nil => exact if_pos h
  | cons oldest rest ih =>
    have full : limit ≤ rest.length + 1 := by omega
    rw [makeRoom, if_pos full, ih]

/-- Just as many messages are removed as there are too many for one more. -/
theorem makeRoom_eq {limit : Int} (h : 0 < limit) (dropped : Nat) (items : List (Option Message)) :
    makeRoom limit dropped items =
      .ok (dropped + (items.length + 1 - limit.toNat),
        items.drop (items.length + 1 - limit.toNat)) := by
  induction items generalizing dropped with
  | nil =>
    have none : 0 + 1 - limit.toNat = 0 := by omega
    rw [makeRoom, if_neg (Int.not_le.2 h), List.length_nil, none]
    rfl
  | cons oldest rest ih =>
    rw [makeRoom, List.length_cons]
    split
    · next full =>
      -- One of the messages to be removed is the oldest, the others are removed from the rest.
      have more : rest.length + 1 + 1 - limit.toNat = rest.length + 1 - limit.toNat + 1 := by omega
      rw [ih, more, List.drop_succ_cons, Nat.add_assoc, Nat.add_comm 1]
    · next room =>
      have none : rest.length + 1 + 1 - limit.toNat = 0 := by omega
      rw [none]
      rfl

theorem push_of_nonpos {b : Backlog} (h : b.limit ≤ 0) (m : Option Message) :
    b.push m = .error .emptyBuffer := by
  rw [push, makeRoom_of_nonpos h]
  rfl

theorem push_of_pos {b : Backlog} (h : 0 < b.limit) (m : Option Message) :
    b.push m = .ok (b.items.length + 1 - b.limit.toNat,
      { b with items := b.items.drop (b.items.length + 1 - b.limit.toNat) ++ [m] }) := by
  rw [push, makeRoom_eq h, Nat.zero_add]
  rfl

end Backlog

end Teleop
