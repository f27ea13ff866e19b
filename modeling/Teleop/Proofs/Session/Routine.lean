import Teleop.Proofs.Session.Moves

/-!
# Routine

What a session does with its work, its ports and most of its messages has no bearing on whether it
is ready, nor on its idle message. `World.Routine` is such a change.

* `Clerical` relations allow what goes on inside a session when work is handed in or taken out; all
  calls but two keep to them (`Clerical.perform`);
* `routine_attempt`, `routine_giveUp`, `routine_dispatch`: the parts of a tick that are routine;
* `routine_onMessage`: so is taking in a message that is no heartbeat.
-/

namespace Teleop

variable {χ π ι : Type}

/-- What a session remembers of its run, its heartbeats and its idle message. -/
def Session.attention (s : Session) : Bool × Bool × Instant × Option Message :=
  (s.running, s.ready, s.lastHeartbeat, s.idle)

theorem Session.attention_eq_iff {s s' : Session} : s'.attention = s.attention ↔
    s'.running = s.running ∧ s'.ready = s.ready ∧ s'.lastHeartbeat = s.lastHeartbeat ∧
      s'.idle = s.idle := by
  simp [attention]

/-- A heartbeat of the agent. -/
def Notice.isHeartbeat : Notice → Bool
  | message m => m.bind Message.kind? == some .agentStatus
  | _ => false

/-- The session takes in a heartbeat. -/
def Event.isHeartbeat : Event → Bool
  | noticed _ n => n.isHeartbeat
  | _ => false

/-- Events of work that is handed in or taken out. -/
def Event.clerical : Event → Bool
  | submitted _ | overflowed _ | requested _ | batched .. | cleared _ | closed _ | wanted
  | drained .. | logged .. => true
  | _ => false

/-- Events that have no bearing on the readiness and on the idle message. -/
def Event.routine : Event → Bool
  | handOff label _ _ => label != .idle
  | noticed _ (.message m) => !(Notice.message m).isHeartbeat
  | noticed .. | disconnect | started | idleSet .. | beat .. => false
  | _ => true

theorem Event.routine_of_report {e : Event} (h : e.report = true) : e.routine = true := by
  cases e <;> first | rfl | cases h

theorem Event.routine_of_clerical {e : Event} (h : e.clerical = true) : e.routine = true := by
  cases e <;> first | rfl | cases h

/-- A change that leaves the run of a session, its heartbeats and its idle message alone. -/
structure World.Routine (w w' : World χ π) : Prop
    extends w.Same Session.attention Event.routine w' where
  clock : w'.clock = w.clock

instance : IsPreorder (World χ π) World.Routine where
  refl w := ⟨Std.Refl.refl w, rfl⟩
  trans _ _ _ h h' := ⟨h.toSame.trans h'.toSame, h'.clock.trans h.clock⟩

namespace Wiring

open Act

variable {W : Wiring χ π ι} {R : World χ π → World χ π → Prop}

/-! ## Work and calls -/

/-- A relation that allows to note work that is handed in or taken out and to change what the
session remembers of it; a connection that is wanted stays so. -/
structure Clerical (R : World χ π → World χ π → Prop) : Prop where
  note : ∀ (w : World χ π) {e : Event}, e.clerical = true → R w (w.note e)
  remember : ∀ (w : World χ π) {f : Session → Session},
    (f w.session).attention = w.session.attention →
    (w.session.connectRequested = true → (f w.session).connectRequested = true) →
    R w (w.remember f)

namespace Clerical

variable (hR : Clerical R)

include hR

theorem record {e : Event} (h : e.clerical = true) : Keeps R (record e : Act χ π Unit) :=
  fun w => (yields_modify _).2 (hR.note w h)

theorem remembering {f : Session → Session} (attention : ∀ s, (f s).attention = s.attention)
    (wanted : ∀ s, s.connectRequested = true → (f s).connectRequested = true) :
    Keeps R (Act.remember f : Act χ π Unit) :=
  fun w => (yields_modify _).2 (hR.remember w (attention _) (wanted _))

theorem changeQueue (number : Nat) (f : Queue → Queue) :
    Keeps R (changeQueue number f : Act χ π Unit) :=
  hR.remembering (fun _ => rfl) fun _ => id

variable [IsPreorder (World χ π) R]

theorem requestConnect : Keeps R (requestConnect : Act χ π Unit) :=
  .bind (hR.record rfl) fun _ => hR.remembering (fun _ => rfl) fun _ _ => rfl

theorem setRequest (m : Option Message) : Keeps R (setRequest m : Act χ π Unit) :=
  .bind (hR.record rfl) fun _ => .bind (hR.remembering (fun _ => rfl) fun _ => id) fun _ =>
    hR.requestConnect

theorem requestBuilt (b : Message.Built) : Keeps R (requestBuilt b : Act χ π CallReply) := by
  unfold Wiring.requestBuilt
  split
  · exact .bind (hR.setRequest _) fun _ => .pure _
  · exact .bind (.pure _) fun _ => .pure _

theorem noteOverflow (dropped : Nat) : Keeps R (noteOverflow dropped : Act χ π Unit) :=
  .ite (.bind (hR.record rfl) fun _ => hR.record rfl) (.pure _)

theorem submit (m : Option Message) : Keeps R (submit m : Act χ π Unit) :=
  .bind .get fun _ => .bind (.lift _) fun _ => .bind (hR.record rfl) fun _ =>
    .bind (hR.remembering (fun _ => rfl) fun _ => id) fun _ =>
      .bind (hR.noteOverflow _) fun _ => hR.requestConnect

omit hR in
theorem queue (number : Nat) : Keeps R (queue number : Act χ π Queue) := by
  refine .bind .get fun w => ?_
  split
  · exact .pure _
  · exact .throw _

theorem putBatch (number : Nat) (batch : List (Option Message)) :
    Keeps R (putBatch number batch : Act χ π Unit) :=
  .bind (queue number) fun _ => .ite (.bind (hR.record rfl) fun _ =>
    .bind (hR.changeQueue _ _) fun _ => hR.requestConnect) (.pure _)

theorem takeWork : Keeps R (takeWork : Act χ π _) :=
  .bind .get fun _ => .bind (.lift _) fun _ =>
    .bind (hR.remembering (fun _ => rfl) fun _ => id) fun _ => .pure _

theorem putBack (request : Option Message) (pending : List Message) :
    Keeps R (putBack request pending : Act χ π Unit) :=
  .ite (.pure _) (.bind .get fun _ => .bind (.lift _) fun _ =>
    .bind (hR.remembering (fun _ => rfl) fun _ => id) fun _ => hR.noteOverflow _)

theorem takeDue : Keeps R (takeDue : Act χ π _) :=
  .bind .get fun _ => .bind (hR.record rfl) fun _ =>
    .bind (hR.remembering (fun _ => rfl) fun _ => id) fun _ => .pure _

/-- Of all calls only two do more: one begins a run, the other sets the idle message. -/
theorem perform {c : Call} (start : c ≠ .start) (setIdle : ∀ m, c ≠ .setIdle m) :
    Keeps R (W.perform c) := by
  have remembered {f : Session → Session} (attention : ∀ s, (f s).attention = s.attention)
      (wanted : ∀ s, s.connectRequested = true → (f s).connectRequested = true) :
      Keeps R (do Act.remember f; return CallReply.none : Act χ π CallReply) :=
    .bind (hR.remembering attention wanted) fun _ => .pure _
  have changed (number : Nat) {e : Event} (f : Queue → Queue) (h : e.clerical = true) :
      Keeps R (do let _ ← Wiring.queue number; Act.record e; Wiring.changeQueue number f
                  return CallReply.none : Act χ π CallReply) :=
    .bind (queue number) fun _ => .bind (hR.record h) fun _ =>
      .bind (hR.changeQueue number f) fun _ => .pure _
  cases c with
  | start => exact absurd rfl start
  | stop => exact remembered (fun s => by split <;> rfl) fun s => by split <;> exact id
  | reset => exact remembered (fun _ => rfl) fun _ => id
  | requestConnect => exact .bind hR.requestConnect fun _ => .pure _
  | setRequest m => exact .bind (hR.setRequest m) fun _ => .pure _
  | sendAnimation name => exact hR.requestBuilt _
  | readAnimationFile path => exact hR.requestBuilt _
  | setIdle m => exact absurd rfl (setIdle m)
  | send m => exact .bind (hR.submit m) fun _ => .pure _
  | createQueue interval =>
    exact .bind (.bind .get fun _ => .bind (hR.remembering (fun _ => rfl) fun _ => id)
      fun _ => .pure _) fun _ => .pure _
  | putBatch number batch => exact .bind (hR.putBatch number batch) fun _ => .pure _
  | clearQueue number => exact changed number Queue.clear rfl
  | closeQueue number => exact changed number Queue.close rfl
  | subscribe s =>
    exact .bind (.bind .get fun _ => .bind (hR.remembering (fun _ => rfl) fun _ => id)
      fun _ => .pure _) fun _ => .pure _
  | unsubscribe id => exact remembered (fun _ => rfl) fun _ h => h

end Clerical

/-! ## Routine operations -/

theorem reporting_routine : Reporting (World.Routine : World χ π → World χ π → Prop) where
  around h := by
    obtain ⟨es, hj, he⟩ := h.journal
    refine ⟨⟨?_, es, hj, fun e h => Event.routine_of_report (he e h)⟩, h.clock⟩
    exact congrArg Session.attention h.part

theorem routine_record {e : Event} (h : e.routine = true) :
    Keeps World.Routine (record e : Act χ π Unit) :=
  fun _ => (yields_modify _).2 ⟨⟨rfl, [e], rfl, by simpa using h⟩, rfl⟩

theorem routine_remember {f : Session → Session} (h : ∀ s, (f s).attention = s.attention) :
    Keeps World.Routine (remember f : Act χ π Unit) :=
  fun _ => (yields_modify _).2 ⟨⟨h _, [], by simp⟩, rfl⟩

theorem clerical_routine : Clerical (World.Routine : World χ π → World χ π → Prop) where
  note w _ h := routine_record (Event.routine_of_clerical h) w () _ rfl
  remember _ _ attention _ := ⟨⟨attention, [], by simp⟩, rfl⟩

theorem routine_send {label : Label} (h : label ≠ .idle) (m : Option Message) :
    Keeps World.Routine (W.send label m) :=
  reporting_routine.send fun _ => routine_record (by simpa [Event.routine] using h)

theorem routine_offer (b : Message.Built) (skipped : String) (fields : Log.Fields) :
    Keeps World.Routine (W.offer b skipped fields) :=
  reporting_routine.offer _ _ _ fun _ _ => routine_record rfl

theorem routine_onMessage {m : Option Message} (h : m.bind Message.kind? ≠ some .agentStatus) :
    Keeps World.Routine (W.onMessage m) :=
  reporting_routine.onMessage h fun _ _ => routine_record rfl

theorem routine_dial (number : Nat) (port : Int) : Keeps World.Routine (W.dial number port) := by
  refine .bind (reporting_routine.log _ _ _) fun _ => .bind (routine_record rfl) fun _ =>
    .bind .get fun _ => .bind (.lift _) fun _ => .bind (reporting_routine.adopt _) fun dialled =>
      .bind (reporting_routine.change (fun _ => rfl) (fun _ => rfl) fun _ => rfl) fun _ => ?_
  split
  · exact reporting_routine.log _ _ _
  · exact .pure _

theorem routine_attempt (number : Nat) : Keeps World.Routine (W.attempt number) := by
  refine .bind (routine_record rfl) fun _ => .bind (reporting_routine.count _) fun _ =>
    .bind reporting_routine.nextPort fun port => ?_
  cases port with
  | error reason => exact reporting_routine.log _ _ _
  | ok port => exact routine_dial number port

theorem routine_giveUp : Keeps World.Routine (giveUp : Act χ π Unit) :=
  .bind (routine_remember fun _ => rfl) fun _ => .bind (routine_record rfl) fun _ =>
    .bind .get fun _ => .bind (reporting_routine.count _) fun _ => reporting_routine.log _ _ _

theorem routine_sendWork (request : Option Message) (pending : List Message) :
    Keeps World.Routine (W.sendWork request pending) := by
  have sent (label : Label) (h : label ≠ .idle) (ms : List (Option Message)) :
      Keeps World.Routine (W.sendAll label ms) := .forM fun m _ => routine_send h m
  exact .bind (sent .request (by decide) _) fun _ => .bind (sent .fifo (by decide) _) fun _ =>
    .bind clerical_routine.takeDue fun _ => sent .coalescing (by decide) _

theorem routine_dispatch (request : Option Message) (pending : List Message) :
    Keeps World.Routine (W.dispatch request pending) :=
  .bind .get fun _ => .bind (routine_record rfl) fun _ =>
    .ite (routine_sendWork _ _) (clerical_routine.putBack _ _)

end Wiring

end Teleop
