import Mathlib.Data.List.Destutter
import Teleop.Session.Status

/-!
# Subscriptions

What happens to the subscribers of a publisher while they are added and removed and while the status
moves on. All of it can be told from the operations: the numbers that are given out, who is
subscribed, and which texts each subscriber hears.

* `Publisher.run`: operations one after the other, with their answers;
* `numbers_run`: the numbers given out are 1, 2, 3, ...;
* `subscribers_run`: those who are subscribed are `remaining`, who were added and not removed later;
* `heard_of_add`: a subscriber hears each new text from its adding on until its removal.
-/

namespace Teleop

namespace Publisher

variable {η : Type}

/-! ## Histories -/

/-- An operation on a publisher. -/
inductive Op (η : Type) where
  | add (s : η)
  | remove (id : UInt64)
  | update (f : StatusFacts)

/-- What an operation answers; `L` is the type of lists of subscribers. -/
inductive Answer (L : Type) where
  /-- The number of a new subscriber. -/
  | number (id : UInt64)
  | removed
  /-- The text, and the subscribers to notify if it is a new one. -/
  | text (text : Text) (notified : Option L)

/-- Carries out an operation. -/
def step (p : Publisher η) : Op η → Answer (List (UInt64 × η)) × Publisher η
  | .add s => (.number (p.add s).1, (p.add s).2)
  | .remove id => (.removed, p.remove id)
  | .update f => (.text (p.update f).1 (p.update f).2.1, (p.update f).2.2)

/-- Carries out operations one after the other. -/
def run (p : Publisher η) : List (Op η) → List (Answer (List (UInt64 × η))) × Publisher η
  | [] => ([], p)
  | op :: rest => ((p.step op).1 :: ((p.step op).2.run rest).1, ((p.step op).2.run rest).2)

@[simp] theorem run_nil (p : Publisher η) : p.run [] = ([], p) := rfl

@[simp] theorem run_cons (p : Publisher η) (op : Op η) (rest : List (Op η)) :
    p.run (op :: rest) =
      ((p.step op).1 :: ((p.step op).2.run rest).1, ((p.step op).2.run rest).2) := rfl

theorem run_append (p : Publisher η) (first rest : List (Op η)) :
    p.run (first ++ rest) =
      ((p.run first).1 ++ ((p.run first).2.run rest).1, ((p.run first).2.run rest).2) := by
  induction first generalizing p with
  | nil => rfl
  | cons op first ih => simp [ih]

@[simp] theorem step_add (p : Publisher η) (s : η) : p.step (.add s) =
    (.number (p.issued + 1),
      { p with subscribers := p.subscribers ++ [(p.issued + 1, s)], issued := p.issued + 1 }) := rfl

@[simp] theorem step_remove (p : Publisher η) (id : UInt64) : p.step (.remove id) =
    (.removed, { p with subscribers := p.subscribers.filter (·.1 ≠ id) }) := rfl

theorem update_eq (p : Publisher η) (f : StatusFacts) : p.update f =
    (f.text p.last, if f.text p.last = p.last then none else some p.subscribers,
      { p with last := f.text p.last }) := by
  unfold update
  dsimp only
  split
  · next same => rw [same]
  · rfl

@[simp] theorem step_update (p : Publisher η) (f : StatusFacts) : p.step (.update f) =
    (.text (f.text p.last) (if f.text p.last = p.last then none else some p.subscribers),
      { p with last := f.text p.last }) := by
  simp only [step, update_eq]

/-! ## Numbers -/

/-- How many subscribers are added. -/
def Op.adds : List (Op η) → Nat
  | [] => 0
  | add _ :: rest => adds rest + 1
  | remove _ :: rest | update _ :: rest => adds rest

/-- The number that an answer gives to a subscriber. -/
def Answer.number? {L : Type} : Answer L → Option UInt64
  | number id => some id
  | removed | text .. => none

/-- The numbers that were given out. -/
def numbers {L : Type} (answers : List (Answer L)) : List UInt64 :=
  answers.filterMap Answer.number?

theorem ofNat_succ (n : Nat) : UInt64.ofNat n + 1 = UInt64.ofNat (n + 1) := by
  rw [UInt64.ofNat_add]
  rfl

theorem numbers_run {p : Publisher η} {n : Nat} (issued : p.issued = UInt64.ofNat n)
    (ops : List (Op η)) :
    numbers (p.run ops).1 = (List.range' (n + 1) (Op.adds ops)).map UInt64.ofNat := by
  induction ops generalizing p n with
  | nil => rfl
  | cons op ops ih =>
    cases op with
    | add s =>
      have next : p.issued + 1 = UInt64.ofNat (n + 1) := by rw [issued, ofNat_succ]
      have rest := ih (p := (p.add s).2) next
      simp only [numbers, run_cons, step_add, Op.adds, List.range'_succ, List.map_cons,
        List.filterMap_cons, Answer.number?, ← next]
      exact congrArg _ rest
    | remove id => exact ih issued
    | update f =>
      simp only [numbers, run_cons, step_update, Op.adds, List.filterMap_cons, Answer.number?]
      exact ih issued

/-- Fewer numbers than there are words are different from each other and from zero. -/
theorem nodup_numbers (ops : List (Op η)) (few : Op.adds ops < UInt64.size) :
    (numbers (run {} ops).1).Nodup ∧ 0 ∉ numbers (run {} ops).1 := by
  rw [numbers_run (n := 0) rfl]
  have toNat_ofNat {i : Nat} (hi : i ∈ List.range' (0 + 1) (Op.adds ops)) :
      (UInt64.ofNat i).toNat = i ∧ 0 < i := by
    rw [List.mem_range'_1] at hi
    exact ⟨UInt64.toNat_ofNat_of_lt' (by omega), by omega⟩
  constructor
  · apply List.Nodup.map_on _ List.nodup_range'
    intro i hi j hj same
    rw [← (toNat_ofNat hi).1, ← (toNat_ofNat hj).1, same]
  · intro zero
    obtain ⟨i, hi, same⟩ := List.mem_map.1 zero
    have isZero := congrArg UInt64.toNat same
    rw [(toNat_ofNat hi).1] at isZero
    exact absurd isZero (toNat_ofNat hi).2.ne'

/-! ## Subscribers -/

/-- The operation removes the subscriber with this number. -/
def Op.removes (id : UInt64) : Op η → Bool
  | remove i => i = id
  | add _ | update _ => false

/-- Those whom the operations add and do not remove later, in the order of their adding. Each one is
numbered by the count of those added so far; `n` were added before. -/
def remaining : Nat → List (Op η) → List (UInt64 × η)
  | _, [] => []
  | n, .add s :: rest =>
    if rest.any (Op.removes (UInt64.ofNat (n + 1))) then remaining (n + 1) rest
    else (UInt64.ofNat (n + 1), s) :: remaining (n + 1) rest
  | n, .remove _ :: rest | n, .update _ :: rest => remaining n rest

/-- Of the subscribers that were there before, those stay who are not removed. -/
theorem subscribers_run {p : Publisher η} {n : Nat} (issued : p.issued = UInt64.ofNat n)
    (ops : List (Op η)) :
    (p.run ops).2.subscribers =
      p.subscribers.filter (fun e => !ops.any (Op.removes e.1)) ++ remaining n ops := by
  induction ops generalizing p n with
  | nil => simp [remaining]
  | cons op ops ih =>
    cases op with
    | add s =>
      have next : p.issued + 1 = UInt64.ofNat (n + 1) := by rw [issued, ofNat_succ]
      rw [run_cons, step_add]
      dsimp only
      rw [ih next, List.filter_append, List.append_assoc, next, remaining]
      congr 1
      split
      · next gone =>
        rw [List.filter_cons_of_neg (by rw [gone]; decide), List.filter_nil, List.nil_append]
      · next stays =>
        rw [List.filter_cons_of_pos (by simpa using stays), List.filter_nil, List.cons_append,
          List.nil_append]
    | remove id =>
      rw [run_cons]
      change ((p.remove id).run ops).2.subscribers = _
      rw [ih (p := p.remove id) issued, remove, List.filter_filter, remaining]
      congr 1
      apply List.filter_congr
      intro e _
      by_cases same : e.1 = id
      · simp [Op.removes, same]
      · simp [Op.removes, same, Ne.symm same]
    | update f =>
      rw [run_cons, step_update]
      exact ih issued

theorem remove_of_notMem {p : Publisher η} {id : UInt64} (h : id ∉ p.subscribers.map Prod.fst) :
    p.remove id = p := by
  have all : p.subscribers.filter (·.1 ≠ id) = p.subscribers := by
    apply List.filter_eq_self.2
    intro e he
    have other : e.1 ≠ id := fun same => h (same ▸ List.mem_map_of_mem he)
    simpa using other
  rw [remove, all]

/-! ## Texts -/

/-- The texts that the subscriber with a number hears in an answer: one for each time that it is
notified. -/
def Answer.heard (id : UInt64) : Answer (List (UInt64 × η)) → List Text
  | text t (some notified) => List.replicate (notified.countP (·.1 = id)) t
  | text _ none | number _ | removed => []

/-- The text shown last, after each of the operations. -/
def lasts (p : Publisher η) : List (Op η) → List Text
  | [] => []
  | op :: rest => (p.step op).2.last :: (p.step op).2.lasts rest

theorem heard_update (p : Publisher η) (f : StatusFacts) (id : UInt64) :
    (p.step (.update f)).1.heard id =
      if f.text p.last = p.last then []
      else List.replicate (p.subscribers.countP (·.1 = id)) (f.text p.last) := by
  rw [step_update]
  split <;> rfl

/-- As long as nobody is subscribed under a number, nothing is heard under it. -/
theorem heard_of_absent {p : Publisher η} {id : UInt64} {ops : List (Op η)}
    (absent : p.subscribers.countP (·.1 = id) = 0) (unused : id ∉ numbers (p.run ops).1) :
    (p.run ops).1.flatMap (Answer.heard id) = [] ∧
      (p.run ops).2.subscribers.countP (·.1 = id) = 0 := by
  induction ops generalizing p with
  | nil => exact ⟨rfl, absent⟩
  | cons op ops ih =>
    rw [run_cons] at unused ⊢
    rw [List.flatMap_cons]
    cases op with
    | add s =>
      simp only [numbers, step_add, List.filterMap_cons, Answer.number?, List.mem_cons,
        not_or] at unused
      have absent' : (p.step (.add s)).2.subscribers.countP (·.1 = id) = 0 := by
        simp [absent, Ne.symm unused.1]
      exact ih absent' unused.2
    | remove i =>
      have absent' : (p.step (.remove i)).2.subscribers.countP (·.1 = id) = 0 := by
        rw [step_remove]
        exact Nat.le_zero.1 (absent ▸ List.filter_sublist.countP_le)
      exact ih absent' unused
    | update f =>
      simp only [numbers, step_update, List.filterMap_cons, Answer.number?] at unused
      have silent : (p.step (.update f)).1.heard id = [] := by
        rw [heard_update, absent]
        split <;> rfl
      rw [silent]
      rw [step_update]
      exact ih absent unused

/-- A subscriber that is not removed hears each new text once. -/
theorem heard_of_present {p : Publisher η} {id : UInt64} {ops : List (Op η)}
    (present : p.subscribers.countP (·.1 = id) = 1) (unused : id ∉ numbers (p.run ops).1)
    (kept : ∀ op ∈ ops, op.removes id = false) :
    p.last :: (p.run ops).1.flatMap (Answer.heard id) =
        (p.lasts ops).destutter' (· ≠ ·) p.last ∧
      (p.run ops).2.subscribers.countP (·.1 = id) = 1 := by
  induction ops generalizing p with
  | nil => exact ⟨rfl, present⟩
  | cons op ops ih =>
    have kept' : ∀ op ∈ ops, op.removes id = false :=
      fun op h => kept op (List.mem_cons_of_mem _ h)
    rw [run_cons] at unused ⊢
    rw [List.flatMap_cons, lasts]
    cases op with
    | add s =>
      simp only [numbers, step_add, List.filterMap_cons, Answer.number?, List.mem_cons,
        not_or] at unused
      have present' : (p.step (.add s)).2.subscribers.countP (·.1 = id) = 1 := by
        simp [present, Ne.symm unused.1]
      rw [List.destutter'_cons_neg _ (by simp)]
      exact ih present' unused.2 kept'
    | remove i =>
      have other : i ≠ id := by simpa [Op.removes] using kept _ List.mem_cons_self
      have present' : (p.step (.remove i)).2.subscribers.countP (·.1 = id) = 1 := by
        rw [step_remove, List.countP_filter, ← present]
        apply List.countP_congr
        intro e _
        by_cases same : e.1 = id <;> simp [same, Ne.symm other]
      rw [List.destutter'_cons_neg _ (by simp)]
      exact ih present' unused kept'
    | update f =>
      simp only [numbers, step_update, List.filterMap_cons, Answer.number?] at unused
      rw [heard_update, present, step_update]
      obtain ⟨heard, present'⟩ := ih (p := { p with last := f.text p.last }) present unused kept'
      refine ⟨?_, present'⟩
      by_cases same : f.text p.last = p.last
      · rw [if_pos same, List.destutter'_cons_neg _ (by simp [same]), List.nil_append]
        rw [same] at heard ⊢
        exact heard
      · rw [if_neg same, List.destutter'_cons_pos _ (Ne.symm same), ← heard]
        rfl

/-- Once it is removed, a subscriber hears nothing. -/
theorem heard_of_removal {p : Publisher η} {id : UInt64} {ops : List (Op η)}
    (unused : id ∉ numbers (p.run ops).1)
    (removal : ∀ op, ops.head? = some op → op.removes id = true) :
    (p.run ops).1.flatMap (Answer.heard id) = [] := by
  cases ops with
  | nil => rfl
  | cons op ops =>
    have gone := removal op rfl
    cases op with
    | add s => cases gone
    | update f => cases gone
    | remove i =>
      obtain rfl : i = id := by simpa [Op.removes] using gone
      have absent : (p.remove i).subscribers.countP (·.1 = i) = 0 := by
        simp [remove, List.countP_filter]
      exact (heard_of_absent absent unused).1

/-- The operations until a subscriber is removed. -/
def Op.until (id : UInt64) (ops : List (Op η)) : List (Op η) :=
  ops.takeWhile (!·.removes id)

/-- Until its removal a subscriber hears each new text once, and nothing after that. -/
theorem heard_until {p : Publisher η} {id : UInt64} {ops : List (Op η)}
    (present : p.subscribers.countP (·.1 = id) = 1) (unused : id ∉ numbers (p.run ops).1) :
    p.last :: (p.run ops).1.flatMap (Answer.heard id) =
      (p.lasts (Op.until id ops)).destutter' (· ≠ ·) p.last := by
  have parts : Op.until id ops ++ ops.dropWhile (!·.removes id) = ops :=
    List.takeWhile_append_dropWhile
  rw [← parts, run_append, numbers, List.filterMap_append, List.mem_append, not_or] at unused
  have kept : ∀ op ∈ Op.until id ops, op.removes id = false := by
    intro op hop
    simpa using List.all_eq_true.1 List.all_takeWhile op hop
  have removal : ∀ op, (ops.dropWhile (!·.removes id)).head? = some op → op.removes id = true := by
    intro op hop
    have first := List.head?_dropWhile_not (!·.removes id) ops
    rw [hop] at first
    simpa using first
  rw [← (heard_of_present present unused.1 kept).1]
  conv_lhs => rw [← parts, run_append, List.flatMap_append, heard_of_removal unused.2 removal]
  rw [List.append_nil]

/-- From its adding on until its removal a subscriber hears each new text once, and nothing before
and after that. -/
theorem heard_of_add {before later : List (Op η)} {s : η}
    (few : Op.adds (before ++ .add s :: later) < UInt64.size) :
    let added := (run {} before).2.add s
    added.2.last :: (run {} (before ++ .add s :: later)).1.flatMap (Answer.heard added.1) =
      (added.2.lasts (Op.until added.1 later)).destutter' (· ≠ ·) added.2.last := by
  intro added
  have distinct := (nodup_numbers _ few).1
  have split : run {} (before ++ .add s :: later) =
      ((run {} before).1 ++ .number added.1 :: (added.2.run later).1, (added.2.run later).2) := by
    rw [run_append, run_cons]
    rfl
  -- All numbers differ, so this one was given out neither before nor later.
  have unused : added.1 ∉ numbers (run {} before).1 ++ numbers (added.2.run later).1 := by
    rw [split, numbers, List.filterMap_append, List.filterMap_cons, Answer.number?] at distinct
    exact (List.nodup_cons.1 (List.nodup_middle.1 distinct)).1
  rw [List.mem_append, not_or] at unused
  obtain ⟨silent, absent⟩ := heard_of_absent (by rfl) unused.1
  have present : added.2.subscribers.countP (·.1 = added.1) = 1 := by
    change ((run {} before).2.subscribers ++ [(added.1, s)]).countP (·.1 = added.1) = 1
    rw [List.countP_append, absent]
    simp
  rw [split, List.flatMap_append, silent, List.nil_append]
  exact heard_until present unused.2

end Publisher

end Teleop
