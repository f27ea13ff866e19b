import Mathlib.Logic.Function.Basic
import Teleop.Proofs.Session.Runs

/-!
# The turns of a session

A tick takes work out of the session, and until the work is sent, put back or lost the tick holds it
in its `Hand`. `Wiring.Turn` lists the changes of a session and of the hand that a run is made of,
each with its whole effect: what it does to the work and what it adds to the history.

* `Wiring.Ticked.turns`, `Wiring.Ended.turns`: a tick and a shutdown are sequences of turns, which
  begin and end with an empty hand;
* `Wiring.Reaches.invariant`: what every turn keeps, every run keeps.
-/

namespace Teleop

open Relation

variable {χ π ι : Type}

/-- The work of a session, and whether a connection is wanted. -/
def Session.work (s : Session) : Backlog × Option Message × List Queue × Bool :=
  (s.backlog, s.request, s.queues, s.connectRequested)

/-- Events that go with no change of the work. -/
def Event.spare : Event → Bool
  | .checked _ | .attempted | .connect .. | .started | .weighed .. => true
  | e => e.passing

theorem Event.spare_of_passing {e : Event} (h : e.passing = true) : e.spare = true := by
  cases e <;> first | rfl | exact h

theorem World.Passing.spare {w w' : World χ π} (h : w.Passing w') :
    w.Same Session.work Event.spare w' :=
  h.same (fun _ _ _ _ _ _ => rfl) fun _ => Event.spare_of_passing

theorem World.Same.noting {w : World χ π} {e : Event} (he : e.spare = true) :
    w.Same Session.work Event.spare (w.note e) :=
  ⟨rfl, [e], rfl, by simpa using he⟩

/-- Work in the hand of a tick: the messages that are to be sent under each label. -/
abbrev Hand := Label → List (Option Message)

namespace Hand

def empty : Hand := fun _ => []

/-- A request and the messages of the backlog. -/
def taking (request : Option Message) (pending : List Message) : Hand
  | .request => request.toList.map some
  | .fifo => pending.map some
  | _ => []

/-- Batches of the queues. -/
def draining (batches : List (Option Message)) : Hand
  | .coalescing => batches
  | _ => []

theorem taking_none : taking none [] = empty := by
  funext label
  cases label <;> rfl

theorem update_taking (request : Option Message) (pending : List Message) :
    Function.update (Function.update (taking request pending) .request []) .fifo [] = empty := by
  funext label
  cases label <;> rfl

theorem update_draining (batches : List (Option Message)) :
    Function.update (draining batches) .coalescing [] = empty := by
  funext label
  cases label <;> rfl

end Hand

namespace Wiring

/-- A small change of a session and of the hand of its tick. -/
inductive Turn : Hand × World χ π → Hand × World χ π → Prop
  /-- The work stays as it is. -/
  | spare {hand : Hand} {w w' : World χ π} (h : w.Same Session.work Event.spare w') :
    Turn (hand, w) (hand, w')
  | called {hand : Hand} {w w' : World χ π} (h : Called w w') : Turn (hand, w) (hand, w')
  /-- The request and the backlog are taken into the hand. -/
  | taken {w : World χ π} {pending : List Message} {backlog : Backlog}
    (h : w.session.backlog.drain = .ok (pending, backlog)) :
    Turn (.empty, w) (.taking w.session.request pending,
      w.remember fun s => { s with request := none, backlog })
  /-- All work is discarded, that in the hand too. -/
  | gaveUp (request : Option Message) (pending : List Message) (w : World χ π) :
    Turn (.taking request pending, w) (.empty, (w.remember discardWork).note .gaveUp)
  | discarded (w : World χ π) :
    Turn (.empty, w) (.empty, (w.remember fun s =>
      { discardWork s with running := false, ready := false }).note .discarded)
  /-- A message is handed from the hand to the transport. -/
  | handed {hand : Hand} (w : World χ π) {label : Label} {m : Option Message}
    {rest : List (Option Message)} (accepted : Bool) (h : hand label = m :: rest) :
    Turn (hand, w) (Function.update hand label rest, w.note (.handOff label m accepted))
  /-- The batches that are due are taken into the hand. -/
  | drained (w : World χ π) :
    Turn (.empty, w) (.draining (Queue.takeAll w.clock w.session.queues).1,
      (w.note (.drained w.clock (Queue.dueBatches w.clock w.session.queues))).remember fun s =>
        { s with queues := (Queue.takeAll w.clock s.queues).2 })
  /-- The request and the messages in the hand are put back. -/
  | putBack {w : World χ π} {request : Option Message} {pending : List Message} {dropped : Nat}
    {backlog : Backlog}
    (h : w.session.backlog.restore (pending.map some) = .ok (dropped, backlog)) :
    Turn (.taking request pending, w) (.empty, World.overflowing dropped (w.remember fun s =>
      { s with request := s.request <|> request, backlog }))

/-- Any sequence of turns. -/
abbrev Turns : Hand × World χ π → Hand × World χ π → Prop :=
  ReflTransGen Turn

variable {W : Wiring χ π ι} {hand : Hand} {w w' : World χ π}

theorem Turns.of_passing (h : w.Passing w') : Turns (hand, w) (hand, w') :=
  .single (.spare h.spare)

theorem Moves.turns (h : W.Moves w w') : Turns (hand, w) (hand, w') := by
  induction h with
  | refl => exact .refl
  | tail _ hm ih =>
    cases hm with
    | passing h => exact ih.trans (Turns.of_passing h)
    | call c r h => exact ih.tail (.called (perform_cases c _ r _ h))

/-! ## Looking after the link -/

theorem Ensured.turns {kept : Bool} (h : W.Ensured w kept w') : Turns (hand, w) (hand, w') := by
  cases h with
  | linked h₁ _ => exact h₁.turns.tail (.spare (.noting rfl))
  | spent h₁ _ _ => exact h₁.turns.tail (.spare (.noting rfl))
  | @tried w₁ w₂ w₃ _ h₁ _ _ h₂ h₃ h₄ =>
    have checked : Turns (hand, w) (hand, w₁.note (.checked false)) :=
      h₁.turns.tail (.spare (.noting rfl))
    have counted : (w₁.note (.checked false)).Same Session.work Event.spare
        (((w₁.note (.checked false)).remember fun s => { s with tries := s.tries + 1 }).note
          .attempted) :=
      ⟨rfl, [.attempted], rfl, by simp [Event.spare]⟩
    have dialled : Turns (hand, w₂) (hand, w₃) := by
      cases h₃ with
      | noPort => exact .refl
      | asked => exact .single (.spare (.noting rfl))
    have begun := (checked.tail (.spare counted)).trans (Turns.of_passing h₂)
    exact (begun.trans dialled).trans h₄.turns

/-- When the session gives up, what is in the hand is lost. -/
theorem Maintained.turns {kept : Bool} (h : W.Maintained w kept w') (request : Option Message)
    (pending : List Message) : Turns (.taking request pending, w)
      (if kept then .taking request pending else .empty, w') := by
  cases h with
  | unwanted => exact .refl
  | ensured _ h₁ => exact h₁.turns
  | gaveUp _ h₁ h₂ =>
    exact (h₁.turns.tail (.gaveUp request pending _)).trans (Turns.of_passing h₂)

/-! ## Handing over work -/

theorem HandedOff.turns {label : Label} {ms : List (Option Message)}
    (h : HandedOff label ms w w') (hh : hand label = ms) :
    Turns (hand, w) (Function.update hand label [], w') := by
  induction h generalizing hand with
  | nil =>
    rw [← hh, Function.update_eq_self]
  | @cons m rest w w₁ w₂ w' accepted h₁ h₂ _ ih =>
    have handed : Turns (hand, w) (Function.update hand label rest, w₂) :=
      ((Turns.of_passing h₁).tail (.handed w₁ accepted hh)).trans (Turns.of_passing h₂)
    have later := ih (Function.update_self label rest hand)
    rw [Function.update_idem] at later
    exact handed.trans later

theorem Dispatched.turns {request : Option Message} {pending : List Message}
    (h : W.Dispatched request pending w w') :
    Turns (.taking request pending, w) (.empty, w') := by
  have weighed : Turns (.taking request pending, w) (.taking request pending, W.weighing w) :=
    .single (.spare (.noting rfl))
  cases h with
  | @sent w₁ w₂ _ _ _ h₁ h₂ h₃ =>
    have sent : Turns (.taking request pending, W.weighing w) (.empty, w₂) := by
      rw [← Hand.update_taking request pending]
      exact (h₁.turns rfl).trans (h₂.turns rfl)
    have drained : Turns (.draining (Queue.takeAll w₂.clock w₂.session.queues).1, _) (_, w') :=
      h₃.turns rfl
    rw [Hand.update_draining] at drained
    exact ((weighed.trans sent).tail (.drained w₂)).trans drained
  | nothing _ hr hp =>
    subst hr hp
    rwa [Hand.taking_none] at weighed ⊢
  | putBack _ h₁ h₂ =>
    subst h₂
    exact weighed.tail (.putBack h₁)

/-! ## Ticks, shutdowns and runs -/

theorem Ticked.turns {more : Bool} (h : W.Ticked w more w') : Turns (.empty, w) (.empty, w') := by
  rcases h with ⟨_, _, rfl⟩ | ⟨_, _, pending, backlog, kept, w₁, w₂, w₃, h⟩
  · exact .refl
  · have updated := (ReflTransGen.single (Turn.taken h.drained)).trans h.updated.turns
    refine (updated.trans (h.maintained.turns _ pending)).trans
      (ReflTransGen.trans ?_ h.published.turns)
    cases kept with
    | true => exact h.dispatched.turns
    | false =>
      have dispatched : Turns (.taking none [], w₂) (.empty, w₃) := h.dispatched.turns
      rw [Hand.taking_none] at dispatched
      exact dispatched

theorem Ended.turns (h : W.Ended w w') : Turns (.empty, w) (.empty, w') := by
  obtain ⟨w₁, h₁, h₂⟩ := h
  exact (h₁.turns.tail (.discarded w₁)).trans h₂.turns

theorem Step.turns (hW : W.CallbacksOnlyMove) (h : W.Step W.EnvironmentOrNotice w w') :
    Turns (.empty, w) (.empty, w') := by
  cases h with
  | call c r h => exact .single (.called (perform_cases c _ r _ h))
  | tick more h => exact (tick_cases hW _ more _ h).turns
  | shutdown polls h => exact (shutdown_cases hW polls _ () _ h).turns
  | outside h => exact (h.moves hW).turns

theorem Reaches.turns (hW : W.CallbacksOnlyMove) (h : W.Reaches W.EnvironmentOrNotice w w') :
    Turns (.empty, w) (.empty, w') := by
  induction h with
  | refl => exact .refl
  | tail _ hs ih => exact ih.trans (hs.turns hW)

section Invariant

variable {I : Hand → World χ π → Prop} (hI : ∀ s s', Turn s s' → I s.1 s.2 → I s'.1 s'.2)

include hI

theorem Turns.invariant {s s' : Hand × World χ π} (h : Turns s s') (hs : I s.1 s.2) :
    I s'.1 s'.2 := by
  induction h with
  | refl => exact hs
  | tail _ ht ih => exact hI _ _ ht ih

/-- What every turn keeps, a run keeps. -/
theorem Reaches.invariant (hW : W.CallbacksOnlyMove) (h : W.Reaches W.EnvironmentOrNotice w w')
    (hw : I .empty w) : I .empty w' :=
  Turns.invariant hI (h.turns hW) hw

end Invariant

end Wiring

end Teleop
