import Mathlib.Data.List.DropRight
import Teleop.Proofs.Session.Safety

/-!
# The backlog keeps the newest messages

A backlog is a list that is cut to its limit whenever something is put into it, behind or in front
of what it holds. Appending and putting back follow the same rule (`newest`) for different lists.

* `newest`: what is left of a list, and how many elements are cut off;
* `push_eq`, `restore_eq`, `drain_eq`: the operations;
* `Op`, `run`: any operations one after the other;
* `keeps_newest`: what holds after them.
-/

namespace Teleop

namespace Backlog

variable {b b' : Backlog} {limit : Int}

/-! ## The rule -/

/-- The backlog in which the last messages of a list are kept, as many as the limit allows, and the
number of those that are cut off. -/
def newest (b : Backlog) (all : List (Option Message)) : Nat × Backlog :=
  let kept := all.rtake b.limit.toNat
  (all.length - kept.length, { b with items := kept })

theorem newest_eq (b : Backlog) (all : List (Option Message)) :
    b.newest all = (all.length - b.limit.toNat,
      { b with items := all.drop (all.length - b.limit.toNat) }) := by
  have cut : all.length - (all.rtake b.limit.toNat).length = all.length - b.limit.toNat := by
    rw [List.rtake, List.length_drop]
    omega
  simp only [newest, cut]
  rfl

theorem newest_of_fits {all : List (Option Message)} (fits : all.length ≤ b.limit) :
    b.newest all = (0, { b with items := all }) := by
  have nothing : all.length - b.limit.toNat = 0 := by omega
  rw [newest_eq, nothing]
  rfl

theorem length_newest (b : Backlog) (all : List (Option Message)) :
    (b.newest all).2.length ≤ b.limit.toNat := by
  simp only [newest_eq, length, List.length_drop]
  omega

theorem notMem_newest {all : List (Option Message)} (filled : none ∉ all) :
    none ∉ (b.newest all).2.items :=
  fun mem => filled (List.mem_of_mem_drop mem)

/-! ## The operations -/

theorem push_eq (room : 0 < b.limit) (m : Option Message) :
    b.push m = .ok (b.newest (b.items ++ [m])) := by
  have within : b.items.length + 1 - b.limit.toNat ≤ b.items.length := by omega
  rw [push_of_pos room, newest_eq, List.length_append, List.length_singleton,
    List.drop_append_of_le_length within]

theorem drain_eq (h : b.Whole) :
    ∃ messages, b.items = messages.map some ∧ b.drain = .ok (messages, b.clear) := by
  obtain ⟨messages, drained⟩ := h.drain
  exact ⟨messages, (drain_eq_ok drained).1, drained⟩

theorem drain_of_missing (missing : none ∈ b.items) : b.drain = .error .missingMessage := by
  unfold drain
  split
  · next messages all =>
    rw [mapM_id_eq_some all] at missing
    simp at missing
  · rfl

/-- Without anything to put back nothing is taken out either, so the list has to fit by itself. -/
theorem restore_nil (fits : b.length ≤ b.limit) : b.restore [] = .ok (b.newest b.items) := by
  rw [newest_of_fits fits]
  rfl

theorem restore_eq (h : b.Whole) (fits : b.length ≤ b.limit) (messages : List (Option Message)) :
    b.restore messages = .ok (b.newest (messages ++ b.items)) := by
  by_cases nothing : messages = []
  · rw [nothing]
    exact restore_nil fits
  · obtain ⟨later, items, drained⟩ := drain_eq h
    have room : ¬b.clear.limit < 0 := Int.not_lt.2 (Int.le_of_lt h.room)
    rw [restore, if_neg nothing, drained, newest_eq, items]
    simp only [bind, Except.bind, if_neg room]
    rfl

theorem restore_of_missing (missing : none ∈ b.items) {messages : List (Option Message)}
    (some : messages ≠ []) : b.restore messages = .error .missingMessage := by
  rw [restore, if_neg some, drain_of_missing missing]
  rfl

/-! ## Sequences of operations -/

/-- An operation on a backlog. -/
inductive Op where
  | push (m : Option Message)
  | drain
  | restore (messages : List (Option Message))
  | clear

/-- Every message that is put in is there. -/
def Op.Filled : Op → Prop
  | .push m => m ≠ none
  | .restore messages => none ∉ messages
  | .drain | .clear => True

/-- The backlog after an operation. -/
def after (b : Backlog) : Op → Except Fault Backlog
  | .push m => (b.push m).map (·.2)
  | .drain => b.drain.map (·.2)
  | .restore messages => (b.restore messages).map (·.2)
  | .clear => .ok b.clear

def run (b : Backlog) (ops : List Op) : Except Fault Backlog :=
  ops.foldlM after b

/-- The limit is the given one, and no more messages are there than it allows. -/
structure Within (limit : Int) (b : Backlog) : Prop where
  limit_eq : b.limit = limit
  fits : b.length ≤ limit

theorem Within.newest (h : b.Within limit) (positive : 1 ≤ limit) (all : List (Option Message)) :
    (b.newest all).2.Within limit := by
  refine ⟨h.limit_eq, ?_⟩
  have kept := b.length_newest all
  rw [h.limit_eq] at kept
  omega

theorem Within.clear (h : b.Within limit) (positive : 1 ≤ limit) : b.clear.Within limit :=
  ⟨h.limit_eq, by simp [length, Backlog.clear]; omega⟩

/-- An operation keeps the bound, and it breaks off only over a message that is not there. -/
theorem Within.after (h : b.Within limit) (positive : 1 ≤ limit) (op : Op) :
    (b.after op = .error .missingMessage ∧ none ∈ b.items) ∨
      ∃ b', b.after op = .ok b' ∧ b'.Within limit ∧
        (none ∉ b.items → op.Filled → none ∉ b'.items) := by
  have room : 0 < b.limit := by rw [h.limit_eq]; omega
  have fits : b.length ≤ b.limit := h.limit_eq ▸ h.fits
  cases op with
  | push m =>
    refine .inr ⟨_, by rw [Backlog.after, push_eq room]; rfl, h.newest positive _, ?_⟩
    intro filled given
    refine notMem_newest fun mem => ?_
    rcases List.mem_append.1 mem with mem | mem
    · exact filled mem
    · exact given (List.mem_singleton.1 mem).symm
  | drain =>
    by_cases missing : none ∈ b.items
    · exact .inl ⟨by rw [Backlog.after, drain_of_missing missing]; rfl, missing⟩
    · obtain ⟨messages, -, drained⟩ := drain_eq ⟨room, missing⟩
      exact .inr ⟨_, by rw [Backlog.after, drained]; rfl, h.clear positive,
        fun _ _ => List.not_mem_nil⟩
  | restore messages =>
    by_cases nothing : messages = []
    · rw [nothing]
      exact .inr ⟨_, by rw [Backlog.after, restore_nil fits]; rfl, h.newest positive _,
        fun filled _ => notMem_newest filled⟩
    · by_cases missing : none ∈ b.items
      · exact .inl ⟨by rw [Backlog.after, restore_of_missing missing nothing]; rfl, missing⟩
      · refine .inr ⟨_, by rw [Backlog.after, restore_eq ⟨room, missing⟩ fits]; rfl,
          h.newest positive _, fun filled given => notMem_newest fun mem => ?_⟩
        exact (List.mem_append.1 mem).elim given filled
  | clear => exact .inr ⟨_, rfl, h.clear positive, fun _ _ => List.not_mem_nil⟩

theorem run_cons (op : Op) (ops : List Op) : b.run (op :: ops) = (b.after op).bind (·.run ops) := by
  rw [run, List.foldlM_cons]
  rfl

theorem Within.run (positive : 1 ≤ limit) (ops : List Op) :
    ∀ {b b' : Backlog}, b.Within limit → b.run ops = .ok b' → b'.Within limit := by
  induction ops with
  | nil =>
    intro b b' h hrun
    cases hrun
    exact h
  | cons op ops ih =>
    intro b b' h hrun
    rw [run_cons] at hrun
    rcases h.after positive op with ⟨fault, -⟩ | ⟨b₁, done, h₁, -⟩
    · rw [fault] at hrun
      cases hrun
    · rw [done] at hrun
      exact ih h₁ hrun

/-- Operations that put in only messages do not break off. -/
theorem Within.run_filled (positive : 1 ≤ limit) (ops : List Op) :
    ∀ {b : Backlog}, b.Within limit → none ∉ b.items → (∀ op ∈ ops, op.Filled) →
      ∃ b', b.run ops = .ok b' ∧ none ∉ b'.items := by
  induction ops with
  | nil => exact fun {b} _ filled _ => ⟨b, rfl, filled⟩
  | cons op ops ih =>
    intro b h filled given
    obtain ⟨first, rest⟩ := List.forall_mem_cons.1 given
    rcases h.after positive op with ⟨-, missing⟩ | ⟨b₁, done, h₁, kept⟩
    · exact absurd missing filled
    · rw [run_cons, done]
      exact ih h₁ (kept filled first) rest

/-- After any operations on a new backlog. If they put in only messages, they go through, and every
slot holds a message. The limit is never exceeded. Appending a message leaves the newest of the list
with the message behind it, and putting messages back leaves the newest of the list with them in
front; the number that is returned is that of the messages cut off. Draining returns all messages
in order and leaves nothing, and putting them back then restores the backlog as it was. Only an
empty slot cannot be drained. -/
theorem keeps_newest (positive : 1 ≤ limit) (ops : List Op) :
    ((∀ op ∈ ops, op.Filled) → ∃ b, run { limit } ops = .ok b ∧ none ∉ b.items) ∧
    ∀ b, run { limit } ops = .ok b →
      (b.limit = limit ∧ b.length ≤ limit) ∧
      (∀ m, b.push m = .ok (b.newest (b.items ++ [m]))) ∧
      (none ∉ b.items →
        (∀ messages, b.restore messages = .ok (b.newest (messages ++ b.items))) ∧
        ∃ messages, b.items = messages.map some ∧ b.drain = .ok (messages, { b with items := [] }) ∧
          restore { b with items := [] } (messages.map some) = .ok (0, b)) ∧
      (none ∈ b.items → b.drain = .error .missingMessage) := by
  have new : Within limit { limit } := ⟨rfl, by simp [length]; omega⟩
  refine ⟨new.run_filled positive ops List.not_mem_nil, fun b hrun => ?_⟩
  have within := new.run positive ops hrun
  have room : 0 < b.limit := by rw [within.limit_eq]; omega
  have fits : b.length ≤ b.limit := within.limit_eq ▸ within.fits
  refine ⟨⟨within.limit_eq, within.fits⟩, push_eq room, fun filled => ?_, drain_of_missing⟩
  have whole : b.Whole := ⟨room, filled⟩
  obtain ⟨messages, items, drained⟩ := drain_eq whole
  refine ⟨restore_eq whole fits, messages, items, drained, ?_⟩
  have empty : b.clear.length ≤ b.clear.limit := Int.le_of_lt room
  have restored := restore_eq whole.clear empty b.items
  rw [show b.clear.items = [] from rfl, List.append_nil,
    newest_of_fits (b := b.clear) fits] at restored
  rw [← items]
  exact restored

/-- A backlog for two: of three messages the first is dropped, and of those that are put back in
front of another one only the last stays. -/
theorem keeps_newest_of_two :
    let ops : List Op := [.push (some (.connectToAgent 1)), .push (some (.connectToAgent 2)),
      .push (some (.connectToAgent 3)), .drain, .push (some (.connectToAgent 4))]
    (∀ op ∈ ops, op.Filled) ∧ ∃ b, run { limit := 2 } ops = .ok b ∧
      b.restore [some (.connectToAgent 2), some (.connectToAgent 3)] =
        .ok (1, ⟨2, [some (.connectToAgent 3), some (.connectToAgent 4)]⟩) := by
  intro ops
  have filled : ∀ op ∈ ops, op.Filled := by simp [ops, Op.Filled]
  obtain ⟨goes, holds⟩ := keeps_newest (show (1 : Int) ≤ 2 by decide) ops
  obtain ⟨b, hrun, full⟩ := goes filled
  refine ⟨filled, b, hrun, ?_⟩
  rw [((holds b hrun).2.2.1 full).1]
  cases hrun
  rfl

end Backlog

end Teleop
