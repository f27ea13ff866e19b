import Teleop.Proofs.Session.Calls

/-!
# The anatomy of a tick

What the parts of a tick and of a shutdown come to, in terms of moves, so that statements about runs
need not open the operations themselves.

* `Wiring.Ensured`, `Wiring.Maintained`: looking after the link, with at most one connect attempt;
* `Wiring.Dispatched`: work that was taken out is sent or put back;
* `Wiring.Ticked`, `Wiring.Ended`: a whole tick, a whole shutdown.
-/

namespace Teleop

open Relation

variable {χ π ι : Type}

namespace Wiring

variable {W : Wiring χ π ι}

/-! ## Connect attempts -/

section Attempts

/-- An attempt asks the transport for a link at most once. -/
inductive Dialled : World χ π → World χ π → Prop
  | noPort (w : World χ π) : Dialled w w
  | asked (w : World χ π) (identity : Text) (localPort : Int) (host : Text) (port : Int) :
    Dialled w (w.note (.connect identity localPort host port))

variable (W)

/-- What making sure of a link comes to: the answer, and the world it leaves. -/
inductive Ensured : World χ π → Bool → World χ π → Prop
  /-- There is a link already. -/
  | linked {w w₁ : World χ π} (h₁ : W.Moves w w₁) (active : W.transport.active w₁.channel = true) :
    Ensured w true (w₁.note (.checked true))
  /-- The budget is spent. -/
  | spent {w w₁ : World χ π} (h₁ : W.Moves w w₁) (idle : W.transport.active w₁.channel = false)
    (budget : W.config.retryLimit < w₁.session.tries) : Ensured w false (w₁.note (.checked false))
  /-- An attempt is made. -/
  | tried {w w₁ w₂ w₃ w₄ : World χ π} (h₁ : W.Moves w w₁)
    (idle : W.transport.active w₁.channel = false)
    (budget : ¬W.config.retryLimit < w₁.session.tries)
    (h₂ : (((w₁.note (.checked false)).remember fun s =>
      { s with tries := s.tries + 1 }).note .attempted).Passing w₂)
    (h₃ : Dialled w₂ w₃) (h₄ : W.Moves w₃ w₄) : Ensured w true w₄

/-- What looking after the link comes to. -/
inductive Maintained : World χ π → Bool → World χ π → Prop
  /-- No link is wanted. -/
  | unwanted {w : World χ π} (h : w.session.connectRequested = false) : Maintained w true w
  | ensured {w w' : World χ π} (h : w.session.connectRequested = true) (h₁ : W.Ensured w true w') :
    Maintained w true w'
  /-- The session gives up. -/
  | gaveUp {w w₁ w' : World χ π} (h : w.session.connectRequested = true)
    (h₁ : W.Ensured w false w₁) (h₂ : ((w₁.remember discardWork).note .gaveUp).Passing w') :
    Maintained w false w'

variable {W}

open Act

theorem dial_cases (number : Nat) (port : Int) (w : World χ π) :
    Yields (W.dial number port) w fun _ w' => ∃ w₁ w₂,
      w.Passing w₁ ∧ Dialled w₁ w₂ ∧ w₂.Passing w' := by
  refine (yields_bind _ _).2 ((gentle_passing.log _ _ _ w).mono fun _ w₁ h₁ => ?_)
  refine (yields_bind _ _).2 ((yields_modify _).2 ((yields_bind _ _).2 (yields_get.2 ?_)))
  refine (yields_bind _ _).2 ((yields_lift _).2 fun reply _ => ?_)
  refine (yields_bind _ _).2 ((gentle_passing.adopt _ _).mono fun dialled w₂ h₂ => ?_)
  refine (yields_bind _ _).2 ((yields_modify _).2 ?_)
  have h₃ : World.Passing _ { w₂ with
      draws := if dialled.drew then w₂.draws + 1 else w₂.draws } := h₂.trans (.of_eq rfl rfl)
  split
  · exact (gentle_passing.log _ _ _ _).mono fun _ w' h =>
      ⟨w₁, _, h₁, .asked _ _ _ _ _, h₃.trans h⟩
  · exact (yields_pure _).2 ⟨w₁, _, h₁, .asked _ _ _ _ _, h₃⟩

theorem attempt_cases (number : Nat) (w : World χ π) :
    Yields (W.attempt number) w fun _ w' => ∃ w₁ w₂,
      (w.note .attempted).Passing w₁ ∧ Dialled w₁ w₂ ∧ w₂.Passing w' := by
  refine (yields_bind _ _).2 ((yields_modify _).2 ?_)
  refine (yields_bind _ _).2 ((gentle_passing.count _ _).mono fun _ w₁ h₁ => ?_)
  refine (yields_bind _ _).2 ((gentle_passing.nextPort _).mono fun port w₂ h₂ => ?_)
  have h₂ : (w.note .attempted).Passing w₂ := World.Passing.trans h₁ h₂
  cases port with
  | error reason => exact (gentle_passing.log _ _ _ _).mono fun _ w' h => ⟨w₂, w₂, h₂, .noPort _, h⟩
  | ok port =>
    refine (dial_cases _ _ _).mono ?_
    rintro _ w' ⟨w₃, w₄, h₃, h₄, h₅⟩
    exact ⟨w₃, w₄, h₂.trans h₃, h₄, h₅⟩

theorem ensureConnected_cases (hW : W.CallbacksOnlyMove) (w : World χ π) :
    Yields W.ensureConnected w fun kept w' => W.Ensured w kept w' := by
  refine (yields_bind _ _).2 ((gentle_moves.enforceLiveness hW w).mono fun _ w₁ h₁ => ?_)
  refine (yields_bind _ _).2 (yields_get.2 ((yields_bind _ _).2 ((yields_modify _).2 ?_)))
  cases idle : W.transport.active w₁.channel with
  | true => exact (yields_pure _).2 (.linked h₁ idle)
  | false =>
    refine (yields_ite _ _).2 ⟨nofun, fun _ => (yields_ite _ _).2 ⟨fun h => ?_, fun h => ?_⟩⟩
    · exact (yields_pure _).2 (.spent h₁ idle h)
    · refine (yields_bind _ _).2 ((yields_modify _).2 ((yields_bind _ _).2 ?_))
      refine (attempt_cases _ _).mono ?_
      rintro _ w₄ ⟨w₂, w₃, h₂, h₃, h₄⟩
      refine (yields_bind _ _).2 ((gentle_moves.update hW _).mono fun _ w₅ h₅ => ?_)
      refine (yields_pure _).2 ?_
      exact .tried h₁ idle h h₂ h₃ ((Moves.of_passing h₄).trans h₅)

theorem maintain_cases (hW : W.CallbacksOnlyMove) (w : World χ π) :
    Yields W.maintain w fun kept w' => W.Maintained w kept w' := by
  refine (yields_bind _ _).2 (yields_get.2 ?_)
  cases h : w.session.connectRequested with
  | false => exact (yields_pure _).2 (.unwanted h)
  | true =>
    refine (yields_bind _ _).2 ((ensureConnected_cases hW w).mono fun kept w₁ h₁ => ?_)
    cases kept with
    | true => exact (yields_pure _).2 (.ensured h h₁)
    | false =>
      refine (yields_bind _ _).2 ((yields_bind _ _).2 ((yields_modify _).2 ?_))
      refine (yields_bind _ _).2 ((yields_modify _).2 ((yields_bind _ _).2 (yields_get.2 ?_)))
      refine (yields_bind _ _).2 ((gentle_passing.count _ _).mono fun _ w₂ h₂ => ?_)
      refine (gentle_passing.log _ _ _ _).mono fun _ w' h₃ => (yields_pure _).2 ?_
      exact .gaveUp h h₁ (h₂.trans h₃)

end Attempts

/-! ## Handing over work -/

section Work

/-- The messages were handed over under a label, one after the other. -/
inductive HandedOff (label : Label) : List (Option Message) → World χ π → World χ π → Prop
  | nil (w : World χ π) : HandedOff label [] w w
  | cons {m : Option Message} {rest : List (Option Message)} {w w₁ w₂ w' : World χ π}
    (accepted : Bool) (h₁ : w.Passing w₁) (h₂ : (w₁.note (.handOff label m accepted)).Passing w₂)
    (h₃ : HandedOff label rest w₂ w') : HandedOff label (m :: rest) w w'

variable (W)

/-- The world once the session has looked whether it can send. -/
def weighing (w : World χ π) : World χ π :=
  w.note (.weighed (W.transport.connected w.channel) w.session.ready)

/-- What becomes of work that was taken out of the session. -/
inductive Dispatched (request : Option Message) (pending : List Message) :
    World χ π → World χ π → Prop
  /-- It is sent, and after it the due batches of the queues. -/
  | sent {w w₁ w₂ w' : World χ π} (connected : W.transport.connected w.channel = true)
    (ready : w.session.ready = true)
    (h₁ : HandedOff .request (request.toList.map some) (W.weighing w) w₁)
    (h₂ : HandedOff .fifo (pending.map some) w₁ w₂)
    (h₃ : HandedOff .coalescing (Queue.takeAll w₂.clock w₂.session.queues).1
      ((w₂.note (.drained w₂.clock (Queue.dueBatches w₂.clock w₂.session.queues))).remember fun s =>
        { s with queues := (Queue.takeAll w₂.clock s.queues).2 }) w') :
    Dispatched request pending w w'
  /-- There was nothing to be put back. -/
  | nothing {w : World χ π}
    (unready : (W.transport.connected w.channel && w.session.ready) = false)
    (hr : request = none) (hp : pending = []) : Dispatched request pending w (W.weighing w)
  /-- It is put back. -/
  | putBack {w w' : World χ π} {dropped : Nat} {backlog : Backlog}
    (unready : (W.transport.connected w.channel && w.session.ready) = false)
    (h₁ : w.session.backlog.restore (pending.map some) = .ok (dropped, backlog))
    (h₂ : w' = World.overflowing dropped ((W.weighing w).remember fun s =>
      { s with request := s.request <|> request, backlog })) :
    Dispatched request pending w w'

variable {W}

open Act

theorem sendAll_cases (label : Label) :
    ∀ (ms : List (Option Message)) (w : World χ π),
      Yields (W.sendAll label ms) w fun _ w' => HandedOff label ms w w'
  | [], w => (yields_pure _).2 (.nil w)
  | m :: ms, w => by
    change Yields (W.send label m >>= fun _ => W.sendAll label ms) w _
    refine (yields_bind _ _).2 ((send_cases label m w).mono ?_)
    rintro _ w₂ ⟨accepted, w₁, h₁, h₂⟩
    exact (sendAll_cases label ms w₂).mono fun _ w' h₃ => .cons accepted h₁ h₂ h₃

theorem dispatch_cases (request : Option Message) (pending : List Message) (w : World χ π) :
    Yields (W.dispatch request pending) w fun _ w' => W.Dispatched request pending w w' := by
  refine (yields_bind _ _).2 (yields_get.2 ((yields_bind _ _).2 ((yields_modify _).2 ?_)))
  refine (yields_ite _ _).2 ⟨fun h => ?_, fun h => ?_⟩
  · obtain ⟨connected, ready⟩ := Bool.and_eq_true_iff.1 h
    refine (yields_bind _ _).2 ((sendAll_cases .request _ _).mono fun _ w₁ h₁ => ?_)
    refine (yields_bind _ _).2 ((sendAll_cases .fifo _ w₁).mono fun _ w₂ h₂ => ?_)
    refine (yields_bind _ _).2 ((yields_bind _ _).2 (yields_get.2 ((yields_bind _ _).2 ?_)))
    refine (yields_modify _).2 ((yields_bind _ _).2 ((yields_modify _).2 ((yields_pure _).2 ?_)))
    exact (sendAll_cases .coalescing _ _).mono fun _ w' h₃ => .sent connected ready h₁ h₂ h₃
  · have unready : (W.transport.connected w.channel && w.session.ready) = false := by simpa using h
    refine (yields_ite _ _).2 ⟨fun h => ?_, fun h => ?_⟩
    · obtain ⟨hr, hp⟩ := h
      exact (yields_pure _).2 (.nothing unready (by simpa using hr) hp)
    · refine (yields_bind _ _).2 (yields_get.2 ((yields_bind _ _).2 ((yields_lift _).2 ?_)))
      rintro ⟨dropped, backlog⟩ restored
      refine (yields_bind _ _).2 ((yields_modify _).2 ?_)
      exact (noteOverflow_cases dropped _).mono fun _ w' h₂ => .putBack unready restored h₂

end Work

/-! ## Ticks and shutdown -/

section Rounds

variable (W)

/-- A tick that goes through: work is taken out, the transport works, the link is looked after, the
work is sent, put back or lost, and the status is shown. -/
structure Round (w w' : World χ π) (pending : List Message) (backlog : Backlog) (kept : Bool)
    (w₁ w₂ w₃ : World χ π) : Prop where
  drained : w.session.backlog.drain = .ok (pending, backlog)
  updated : W.Moves (w.remember fun s => { s with request := none, backlog }) w₁
  maintained : W.Maintained w₁ kept w₂
  dispatched : W.Dispatched (if kept then w.session.request else none)
    (if kept then pending else []) w₂ w₃
  published : W.Moves w₃ w'

/-- A tick ends the loop or goes through. -/
def Ticked (w : World χ π) (more : Bool) (w' : World χ π) : Prop :=
  (w.session.stopRequested = true ∧ more = false ∧ w' = w) ∨
    (w.session.stopRequested = false ∧ more = true ∧
      ∃ pending backlog kept w₁ w₂ w₃, W.Round w w' pending backlog kept w₁ w₂ w₃)

/-- A shutdown: the transport works, and then all work is lost. -/
def Ended (w w' : World χ π) : Prop :=
  ∃ w₁, W.Moves w w₁ ∧
    W.Moves ((w₁.remember fun s => { discardWork s with running := false, ready := false }).note
      .discarded) w'

variable {W} (hW : W.CallbacksOnlyMove)

open Act

include hW

theorem tick_cases (w : World χ π) : Yields W.tick w fun more w' => W.Ticked w more w' := by
  refine (yields_bind _ _).2 (yields_get.2 ((yields_ite _ _).2 ⟨fun h => ?_, fun h => ?_⟩))
  · exact (yields_pure _).2 (.inl ⟨h, rfl, rfl⟩)
  · have h : w.session.stopRequested = false := by simpa using h
    refine (yields_bind _ _).2 ((yields_bind _ _).2 (yields_get.2 ((yields_bind _ _).2 ?_)))
    refine (yields_lift _).2 ?_
    rintro ⟨pending, backlog⟩ drained
    refine (yields_bind _ _).2 ((yields_modify _).2 ((yields_pure _).2 ?_))
    refine (yields_bind _ _).2 ((gentle_passing.resetLink _).mono fun _ w₀ h₀ => ?_)
    refine (yields_bind _ _).2 ((gentle_moves.update hW w₀).mono fun _ w₁ h₁ => ?_)
    refine (yields_bind _ _).2 ((maintain_cases hW w₁).mono fun kept w₂ h₂ => ?_)
    have rest (request : Option Message) (ms : List Message)
        (h₃ : ∀ w₃, W.Dispatched request ms w₂ w₃ → W.Dispatched
          (if kept then w.session.request else none) (if kept then pending else []) w₂ w₃) :
        Yields (W.dispatch request ms >>= fun _ => W.publish true >>= fun _ => pure true) w₂
          fun more w' => W.Ticked w more w' := by
      refine (yields_bind _ _).2 ((dispatch_cases request ms w₂).mono fun _ w₃ h => ?_)
      refine (yields_bind _ _).2 ((gentle_moves.publish hW true w₃).mono fun _ w' h₄ => ?_)
      refine (yields_pure _).2 (.inr ⟨‹_›, rfl, pending, backlog, kept, w₁, w₂, w₃, ?_⟩)
      exact ⟨drained, (Moves.of_passing h₀).trans h₁, h₂, h₃ w₃ h, h₄⟩
    cases kept with
    | true => exact rest _ _ fun _ h => h
    | false => exact rest _ _ fun _ h => h

theorem shutdown_cases (polls : Nat) (w : World χ π) :
    Yields (W.shutdown polls) w fun _ w' => W.Ended w w' := by
  refine (yields_bind _ _).2 ((gentle_passing.disconnect w).mono fun _ w₁ h₁ => ?_)
  refine (yields_bind _ _).2 ((gentle_moves.drainTransport hW polls w₁).mono ?_)
  intro drained w₂ h₂
  have noted : Keeps World.Passing (W.noteDrain drained) := by
    unfold noteDrain
    exact .ite (.pure _) (gentle_passing.log _ _ _)
  refine (yields_bind _ _).2 ((noted w₂).mono fun _ w₃ h₃ => ?_)
  refine (yields_bind _ _).2 ((yields_modify _).2 ((yields_bind _ _).2 ((yields_modify _).2 ?_)))
  refine (yields_bind _ _).2 (yields_get.2 ?_)
  refine (yields_bind _ _).2 ((gentle_passing.count _ _).mono fun _ w₄ h₄ => ?_)
  refine (yields_bind _ _).2 ((gentle_moves.publish hW true w₄).mono fun _ w₅ h₅ => ?_)
  refine (gentle_passing.log _ _ _ w₅).mono fun _ w' h₆ => ⟨w₃, ?_, ?_⟩
  · exact ((Moves.of_passing h₁).trans h₂).tail (.passing h₃)
  · exact ((Moves.of_passing h₄).trans h₅).tail (.passing h₆)

end Rounds

end Wiring

end Teleop
