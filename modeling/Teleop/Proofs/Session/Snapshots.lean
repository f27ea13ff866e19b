import Teleop.Proofs.Session.Subscriptions

/-!
# Snapshots of subscribers

The subscribers to notify are handed out as a list that is gone through later, when others may have
been added or removed. Here the list is taken for what it is in memory: a part of an array that the
publisher itself goes on using. Adding and removing build the new list in a new array, so that what
was handed out stays as it was.

* `Memory`: arrays, and slices that refer to them; appending writes in place if there is room;
* `Built`: a slice that was built in new arrays, which leaves all earlier slices alone;
* `Shared`: a publisher that keeps its subscribers in such a memory;
* `run_view`: it answers as a `Publisher` does, also if its answers are read only at the end;
* `subscribers_observed`: the statement for all histories.
-/

namespace Teleop

/-! ## Memory -/

/-- An array: how many entries it has room for, and those that were written. -/
structure Block (α : Type) where
  capacity : Nat
  cells : List α := []

/-- The beginning of an array: the number of the array, and how many entries belong to it. -/
structure Slice where
  block : Nat := 0
  length : Nat := 0

/-- Arrays by their numbers. -/
structure Memory (α : Type) where
  blocks : List (Block α) := []

namespace Memory

variable {α : Type}

/-- The entries of a slice. -/
def read (m : Memory α) (s : Slice) : List α :=
  ((m.blocks[s.block]?.map Block.cells).getD []).take s.length

def capacity (m : Memory α) (s : Slice) : Nat :=
  (m.blocks[s.block]?.map Block.capacity).getD 0

/-- An empty slice of a new array. -/
def allocate (m : Memory α) (capacity : Nat) : Slice × Memory α :=
  ({ block := m.blocks.length }, { blocks := m.blocks ++ [{ capacity }] })

/-- Writes the entry behind the last one of a slice. -/
def write (m : Memory α) (s : Slice) (x : α) : Memory α where
  blocks := m.blocks.modify s.block fun b =>
    { b with cells := b.cells.take s.length ++ x :: b.cells.drop (s.length + 1) }

/-- A slice with one more entry: in the same array if that has room, or else in a new one. -/
def append (m : Memory α) (s : Slice) (x : α) : Slice × Memory α :=
  if s.length < m.capacity s then ({ s with length := s.length + 1 }, m.write s x)
  else
    ({ block := m.blocks.length, length := s.length + 1 },
      { blocks := m.blocks ++ [{ capacity := s.length + 1, cells := m.read s ++ [x] }] })

def appendAll (m : Memory α) (s : Slice) : List α → Slice × Memory α
  | [] => (s, m)
  | x :: xs => (m.append s x).2.appendAll (m.append s x).1 xs

/-! ## What is left alone -/

/-- Slices of the first `n` arrays read the same in `m'` as in `m`. -/
structure Agree (n : Nat) (m m' : Memory α) : Prop where
  le : n ≤ m'.blocks.length
  read : ∀ s : Slice, s.block < n → m'.read s = m.read s

theorem Agree.trans {n n' : Nat} {m m' m'' : Memory α} (h : Agree n m m') (h' : Agree n' m' m'')
    (hn : n ≤ n') : Agree n m m'' where
  le := hn.trans h'.le
  read s hs := (h'.read s (hs.trans_le hn)).trans (h.read s hs)

theorem agree_self (m : Memory α) : Agree m.blocks.length m m :=
  ⟨le_rfl, fun _ _ => rfl⟩

theorem agree_concat (m : Memory α) (b : Block α) :
    Agree m.blocks.length m { blocks := m.blocks ++ [b] } where
  le := by simp
  read s hs := by
    unfold read
    rw [List.getElem?_append_left hs]

theorem agree_write (m : Memory α) {s : Slice} (x : α) {n : Nat} (hn : n ≤ m.blocks.length)
    (new : n ≤ s.block) : Agree n m (m.write s x) where
  le := by simpa [write] using hn
  read t ht := by
    have other : s.block ≠ t.block := by omega
    simp only [read, write, List.getElem?_modify_ne _ _ other]

/-- A slice that stays readable: its array exists, or it is empty. -/
def Lasting (m : Memory α) (s : Slice) : Prop :=
  s.block < m.blocks.length ∨ s.length = 0

theorem Agree.lasting {m m' : Memory α} {s : Slice} (h : Agree m.blocks.length m m')
    (hs : m.Lasting s) : m'.read s = m.read s ∧ m'.Lasting s := by
  rcases hs with inside | empty
  · exact ⟨h.read s inside, .inl (inside.trans_le h.le)⟩
  · exact ⟨by simp [Memory.read, empty], .inr empty⟩

/-! ## What is built -/

/-- A slice was built that holds these entries, in arrays behind the first `n` ones, which read as
they did in `m`. -/
structure Built (n : Nat) (m : Memory α) (xs : List α) (s : Slice) (m' : Memory α) : Prop where
  read : m'.read s = xs
  length : s.length = xs.length
  new : n ≤ s.block
  inside : s.block < m'.blocks.length
  agree : Agree n m m'

theorem built_allocate (m : Memory α) (capacity : Nat) :
    Built m.blocks.length m [] (m.allocate capacity).1 (m.allocate capacity).2 where
  read := by simp [allocate, read]
  length := rfl
  new := le_rfl
  inside := by simp [allocate]
  agree := agree_concat m _

variable {n : Nat} {m m' : Memory α} {s : Slice} {xs : List α}

theorem read_write (h : Built n m xs s m') (x : α) :
    (m'.write s x).read { s with length := s.length + 1 } = xs ++ [x] := by
  obtain ⟨b, entry⟩ : ∃ b, m'.blocks[s.block]? = some b := ⟨_, List.getElem?_eq_getElem h.inside⟩
  have before : b.cells.take s.length = xs := by
    have contents := h.read
    rwa [Memory.read, entry] at contents
  simp only [Memory.read, write, List.getElem?_modify_eq, entry, Option.map_eq_map, Option.map_some,
    Option.getD_some]
  rw [before, h.length, List.take_length_add_append]
  rfl

theorem Built.append (h : Built n m xs s m') (x : α) :
    Built n m (xs ++ [x]) (m'.append s x).1 (m'.append s x).2 := by
  unfold Memory.append
  split
  · exact ⟨read_write h x, by simp [h.length], h.new, by simpa [write] using h.inside,
      h.agree.trans (agree_write m' x h.agree.le h.new) le_rfl⟩
  · refine ⟨?_, by simp [h.length], h.agree.le, by simp,
      h.agree.trans (agree_concat m' _) h.agree.le⟩
    rw [h.read]
    simp [Memory.read, h.length, List.take_of_length_le]

theorem Built.appendAll (h : Built n m xs s m') (ys : List α) :
    Built n m (xs ++ ys) (m'.appendAll s ys).1 (m'.appendAll s ys).2 := by
  induction ys generalizing s m' xs with
  | nil =>
    rw [List.append_nil]
    exact h
  | cons y ys ih =>
    rw [List.append_cons]
    exact ih (h.append y)

end Memory

/-! ## A publisher in memory -/

namespace Publisher

/-- A publisher that keeps its subscribers in memory. -/
structure Shared (η : Type) where
  last : Text := []
  subscribers : Slice := {}
  issued : UInt64 := 0
  memory : Memory (UInt64 × η) := {}

/-- An answer with another kind of lists. -/
def Answer.map {L L' : Type} (f : L → L') : Answer L → Answer L'
  | number id => number id
  | removed => removed
  | text t notified => text t (notified.map f)

namespace Shared

variable {η : Type}

/-- Copies the subscribers to a new array and appends one more. -/
def add (p : Shared η) (s : η) : UInt64 × Shared η :=
  let fresh := p.memory.allocate (p.subscribers.length + 1)
  let copy := fresh.2.appendAll fresh.1 (fresh.2.read p.subscribers)
  let grown := copy.2.append copy.1 (p.issued + 1, s)
  (p.issued + 1, { p with subscribers := grown.1, memory := grown.2, issued := p.issued + 1 })

/-- Copies the other subscribers to a new array. -/
def remove (p : Shared η) (id : UInt64) : Shared η :=
  let fresh := p.memory.allocate p.subscribers.length
  let kept := fresh.2.appendAll fresh.1 ((fresh.2.read p.subscribers).filter (·.1 ≠ id))
  { p with subscribers := kept.1, memory := kept.2 }

/-- Moves on to the text for the given facts; the subscribers are handed out as they are kept. -/
def update (p : Shared η) (f : StatusFacts) : Text × Option Slice × Shared η :=
  let text := f.text p.last
  if text = p.last then (text, none, p)
  else (text, some p.subscribers, { p with last := text })

/-- Carries out an operation. -/
def step (p : Shared η) : Op η → Answer Slice × Shared η
  | .add s => (.number (p.add s).1, (p.add s).2)
  | .remove id => (.removed, p.remove id)
  | .update f => (.text (p.update f).1 (p.update f).2.1, (p.update f).2.2)

/-- Carries out operations one after the other. -/
def run (p : Shared η) : List (Op η) → List (Answer Slice) × Shared η
  | [] => ([], p)
  | op :: rest => ((p.step op).1 :: ((p.step op).2.run rest).1, ((p.step op).2.run rest).2)

/-- The publisher with its subscribers as they are read. -/
def view (p : Shared η) : Publisher η where
  last := p.last
  subscribers := p.memory.read p.subscribers
  issued := p.issued

/-- An operation does to the view what it does to a publisher. It leaves what can be read alone, and
its answer can be read in every memory that does so, too. -/
structure Follows (p : Shared η) (op : Op η) : Prop where
  view : (p.step op).2.view = (p.view.step op).2
  lasting : (p.step op).2.memory.Lasting (p.step op).2.subscribers
  agree : Memory.Agree p.memory.blocks.length p.memory (p.step op).2.memory
  answer : ∀ m, Memory.Agree p.memory.blocks.length p.memory m →
    (p.step op).1.map m.read = (p.view.step op).1

variable {p : Shared η}

/-- What is copied from the subscribers to a new array is what was there. -/
theorem built_copy (h : p.memory.Lasting p.subscribers) (capacity : Nat)
    (select : List (UInt64 × η) → List (UInt64 × η)) :
    let fresh := p.memory.allocate capacity
    let copy := fresh.2.appendAll fresh.1 (select (fresh.2.read p.subscribers))
    Memory.Built p.memory.blocks.length p.memory (select (p.memory.read p.subscribers)) copy.1
      copy.2 := by
  intro fresh copy
  have built := Memory.built_allocate p.memory capacity
  have same : fresh.2.read p.subscribers = p.memory.read p.subscribers := (built.agree.lasting h).1
  rw [← same]
  exact built.appendAll (select (fresh.2.read p.subscribers))

theorem follows_add (h : p.memory.Lasting p.subscribers) (s : η) : p.Follows (.add s) := by
  have built := (built_copy h (p.subscribers.length + 1) id).append (p.issued + 1, s)
  refine ⟨?_, .inl built.inside, built.agree, fun _ _ => rfl⟩
  exact congrArg (Publisher.mk p.last · (p.issued + 1)) built.read

theorem follows_remove (h : p.memory.Lasting p.subscribers) (id : UInt64) :
    p.Follows (.remove id) := by
  have built := built_copy h p.subscribers.length (List.filter (·.1 ≠ id))
  refine ⟨?_, .inl built.inside, built.agree, fun _ _ => rfl⟩
  exact congrArg (Publisher.mk p.last · p.issued) built.read

theorem follows_update (h : p.memory.Lasting p.subscribers) (f : StatusFacts) :
    p.Follows (.update f) := by
  have stepped : p.step (.update f) =
      (.text (f.text p.last) (if f.text p.last = p.last then none else some p.subscribers),
        { p with last := f.text p.last }) := by
    unfold step update
    by_cases same : f.text p.last = p.last <;> simp [same]
  constructor <;> rw [stepped]
  · rw [step_update]
    rfl
  · exact h
  · exact Memory.agree_self _
  · intro m agree
    have same : m.read p.subscribers = p.view.subscribers := (agree.lasting h).1
    rw [step_update, ← same]
    exact congrArg (Answer.text _) (apply_ite (Option.map m.read) _ none (some p.subscribers))

theorem follows_step (h : p.memory.Lasting p.subscribers) (op : Op η) : p.Follows op := by
  cases op with
  | add s => exact follows_add h s
  | remove id => exact follows_remove h id
  | update f => exact follows_update h f

/-- A publisher in memory does what a publisher does; what it answered can still be read after all
the operations. -/
theorem run_view (h : p.memory.Lasting p.subscribers) (ops : List (Op η)) :
    (p.run ops).2.view = (p.view.run ops).2 ∧
      Memory.Agree p.memory.blocks.length p.memory (p.run ops).2.memory ∧
      (p.run ops).1.map (Answer.map (p.run ops).2.memory.read) = (p.view.run ops).1 := by
  induction ops generalizing p with
  | nil => exact ⟨rfl, Memory.agree_self _, rfl⟩
  | cons op ops ih =>
    have follows := follows_step h op
    obtain ⟨view, agree, answers⟩ := ih follows.lasting
    rw [follows.view] at view answers
    have agreed := follows.agree.trans agree follows.agree.le
    refine ⟨view, agreed, ?_⟩
    rw [run_cons]
    exact congrArg₂ List.cons (follows.answer _ agreed) answers

end Shared

/-! ## All histories -/

variable {η : Type}

/-- What can be observed of a new publisher after any operations, if fewer are added than there are
numbers. The numbers given out count those added, so they differ from each other and from zero.
Subscribed are those added and not removed since, and a new text is for all of them. From its adding
on until its removal a subscriber hears what the text becomes, and nothing twice in a row. Removing
under a number that nobody has changes nothing. The lists handed out on the way, taken from memory
only at the end, read as they did when they were handed out. -/
theorem subscribers_observed (ops : List (Op η)) (few : Op.adds ops < UInt64.size) :
    numbers (run {} ops).1 = (List.range' 1 (Op.adds ops)).map UInt64.ofNat ∧
    (numbers (run {} ops).1).Nodup ∧ 0 ∉ numbers (run {} ops).1 ∧
    (run {} ops).2.subscribers = remaining 0 ops ∧
    (∀ f,
      let p := (run {} ops).2
      p.update f = (f.text p.last, if f.text p.last = p.last then none else some (remaining 0 ops),
        { p with last := f.text p.last })) ∧
    (∀ before s later, ops = before ++ .add s :: later →
      let added := (run {} before).2.add s
      let heard := (run {} ops).1.flatMap (Answer.heard added.1)
      added.2.last :: heard =
          (added.2.lasts (Op.until added.1 later)).destutter' (· ≠ ·) added.2.last ∧
        (added.2.last :: heard).IsChain (· ≠ ·)) ∧
    (∀ id, id ∉ (remaining 0 ops).map Prod.fst → (run {} ops).2.remove id = (run {} ops).2) ∧
    (Shared.run {} ops).1.map (Answer.map (Shared.run {} ops).2.memory.read) = (run {} ops).1 := by
  have subscribed : (run {} ops).2.subscribers = remaining 0 ops := subscribers_run (n := 0) rfl ops
  obtain ⟨distinct, nonzero⟩ := nodup_numbers ops few
  refine ⟨numbers_run (n := 0) rfl ops, distinct, nonzero, subscribed, ?_, ?_, ?_, ?_⟩
  · intro f p
    rw [update_eq, subscribed]
  · rintro before s later rfl
    have told := heard_of_add few
    refine ⟨told, ?_⟩
    dsimp only at told ⊢
    rw [told]
    exact List.isChain_destutter' _ _ _
  · intro id unknown
    rw [← subscribed] at unknown
    exact remove_of_notMem unknown
  · exact (Shared.run_view (.inr rfl) ops).2.2

/-- One subscriber hears a text, is removed in the middle and once more later on. Two others come
after that text, one of them before the next. -/
def changing : List (Op Nat) :=
  [.add 7, .update { connected := true }, .add 8, .update { connected := true }, .remove 1,
    .update { active := true }, .remove 1, .add 9]

theorem subscribers_observed_changing :
    Op.adds changing < UInt64.size ∧ numbers (run {} changing).1 = [1, 2, 3] ∧
      (run {} changing).2.subscribers = [(2, 8), (3, 9)] ∧
      (run {} changing).1.flatMap (Answer.heard 1) = [Status.waiting] ∧
      (run {} changing).1.flatMap (Answer.heard 2) = [Status.connecting] ∧
      (run {} changing).2.remove 1 = (run {} changing).2 ∧
      (Shared.run {} changing).1.map (Answer.map (Shared.run {} changing).2.memory.read) =
        (run {} changing).1 := by
  have few : Op.adds changing < UInt64.size := by decide
  obtain ⟨given, -, -, subscribed, -, heard, unknown, kept⟩ := subscribers_observed changing few
  refine ⟨few, given, subscribed, ?_, ?_, unknown 1 (by decide), kept⟩
  · exact List.tail_eq_of_cons_eq (heard [] 7 _ rfl).1
  · exact List.tail_eq_of_cons_eq (heard [.add 7, .update { connected := true }] 8 _ rfl).1

end Publisher

end Teleop
