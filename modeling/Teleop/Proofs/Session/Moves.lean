import Teleop.Proofs.Outcome
import Teleop.Session.Call

/-!
# What a session does in passing

Most of what a session does leaves its work alone: it lets the transport work, takes in notices,
answers them, shows its status. `World.Passing` is such a change: of the session's memory it touches
only the readiness, the last heartbeat, the status, the reason of a disconnect and the wish for a
reset, and it adds only passing events to the journal. While a status is shown, subscribers may call
the session; `Wiring.Moves` is any sequence of passing changes and calls.

* `Wiring.CallbacksOnlyCall` says that subscribers and interruptions do nothing but call the
  session, and then `Wiring.CallbacksOnlyMove` that they only make moves;
* `Reporting` relations allow reports about what goes on around the session, `Outward` ones whatever
  leaves the session's memory alone, `Gentle` ones also what a session remembers in passing:
  `gentle_passing`, `gentle_moves`;
* `Gentle.publish`, `Gentle.update`, `Gentle.enforceLiveness`, `Gentle.drainTransport`: these
  operations keep to every gentle relation that subscribers and interruptions keep to;
* `World.Same` is a change that leaves a part of the session's memory alone.
-/

namespace Teleop

open Relation

/-- Messages under this label come from no queue of the session. -/
def Label.passing : Label → Bool
  | .handshake | .reply | .idle => true
  | .request | .fifo | .coalescing => false

/-- Events that tell nothing about work and connect attempts. -/
def Event.passing : Event → Bool
  | .handOff label _ _ => label.passing
  | .update | .disconnect | .shown .. | .probed _ | .provisioning .. | .idleSet .. | .logged ..
  | .link _ | .noticed .. | .beat .. | .overdue | .mark _ => true
  | _ => false

@[simp] theorem Event.passing_ofChannel (e : ChannelEvent) : (ofChannel e).passing = true := by
  cases e <;> rfl

/-- Reports about the link and the ports, and log entries. -/
def Event.report : Event → Bool
  | .probed _ | .provisioning .. | .logged .. | .link _ => true
  | _ => false

@[simp] theorem Event.report_ofChannel (e : ChannelEvent) : (ofChannel e).report = true := by
  cases e <;> rfl

@[simp] theorem Event.report_ofPorts (e : PortEvent) : (ofPorts e).report = true := by
  cases e <;> rfl

theorem Event.passing_of_report {e : Event} (h : e.report = true) : e.passing = true := by
  cases e <;> first | rfl | cases h

variable {χ π ι : Type}

namespace World

/-- The world after one more event. -/
def note (w : World χ π) (e : Event) : World χ π :=
  { w with journal := e :: w.journal }

@[simp] theorem note_session (w : World χ π) (e : Event) : (w.note e).session = w.session := rfl

@[simp] theorem note_journal (w : World χ π) (e : Event) :
    (w.note e).journal = e :: w.journal := rfl

@[simp] theorem note_channel (w : World χ π) (e : Event) : (w.note e).channel = w.channel := rfl

@[simp] theorem history_note (w : World χ π) (e : Event) :
    (w.note e).history = w.history ++ [e] := by
  simp [history]

/-- The world after a change of what the session remembers. -/
def remember (w : World χ π) (f : Session → Session) : World χ π :=
  { w with session := f w.session }

@[simp] theorem remember_session (w : World χ π) (f : Session → Session) :
    (w.remember f).session = f w.session := rfl

@[simp] theorem remember_journal (w : World χ π) (f : Session → Session) :
    (w.remember f).journal = w.journal := rfl

@[simp] theorem history_remember (w : World χ π) (f : Session → Session) :
    (w.remember f).history = w.history := rfl

/-- A change that leaves the session's work, its requests and its budget alone. -/
structure Passing (w w' : World χ π) : Prop where
  session : ∃ ready lastHeartbeat reason status resetRequested,
    w'.session = { w.session with ready, lastHeartbeat, reason, status, resetRequested }
  journal : ∃ es, w'.journal = es ++ w.journal ∧ ∀ e ∈ es, e.passing = true

namespace Passing

variable {w w' w'' : World χ π}

theorem refl (w : World χ π) : w.Passing w :=
  ⟨⟨_, _, _, _, _, rfl⟩, [], by simp⟩

theorem trans (h : w.Passing w') (h' : w'.Passing w'') : w.Passing w'' := by
  obtain ⟨⟨_, _, _, _, _, hs⟩, es, hj, he⟩ := h
  obtain ⟨⟨r, l, t, s, q, hs'⟩, es', hj', he'⟩ := h'
  refine ⟨⟨r, l, t, s, q, ?_⟩, es' ++ es, ?_, ?_⟩
  · rw [hs', hs]
  · rw [hj', hj, List.append_assoc]
  · intro e h
    rcases List.mem_append.1 h with h | h
    · exact he' e h
    · exact he e h

instance : IsPreorder (World χ π) Passing where
  refl := refl
  trans _ _ _ := trans

/-- A change that touches neither the session nor the journal. -/
theorem of_eq (hs : w'.session = w.session) (hj : w'.journal = w.journal) : w.Passing w' :=
  ⟨⟨_, _, _, _, _, hs⟩, [], by simp [hj]⟩

theorem noting {e : Event} (h : e.passing = true) : w.Passing (w.note e) :=
  ⟨⟨_, _, _, _, _, rfl⟩, [e], by simp [h]⟩

end Passing

/-- A change that leaves a part of the session's memory alone and adds only events of a kind. -/
structure Same {α : Type} (part : Session → α) (kind : Event → Bool) (w w' : World χ π) : Prop where
  part : part w'.session = part w.session
  journal : ∃ es, w'.journal = es ++ w.journal ∧ ∀ e ∈ es, kind e = true

namespace Same

variable {α : Type} {part : Session → α} {kind : Event → Bool} {w w' w'' : World χ π}

theorem trans (h : w.Same part kind w') (h' : w'.Same part kind w'') : w.Same part kind w'' := by
  obtain ⟨hp, es, hj, he⟩ := h
  obtain ⟨hp', es', hj', he'⟩ := h'
  refine ⟨hp'.trans hp, es' ++ es, by rw [hj', hj, List.append_assoc], fun e h => ?_⟩
  rcases List.mem_append.1 h with h | h
  · exact he' e h
  · exact he e h

instance : IsPreorder (World χ π) (Same part kind) where
  refl _ := ⟨rfl, [], by simp⟩
  trans _ _ _ := trans

theorem history (h : w.Same part kind w') :
    ∃ es, w'.history = w.history ++ es ∧ ∀ e ∈ es, kind e = true := by
  obtain ⟨es, hj, he⟩ := h.journal
  refine ⟨es.reverse, ?_, fun e h => he e (List.mem_reverse.1 h)⟩
  rw [World.history, hj, List.reverse_append]
  rfl

end Same

/-- A change around the session, of which there are only reports. -/
structure Reports (w w' : World χ π) : Prop extends w.Same id Event.report w' where
  clock : w'.clock = w.clock

theorem Reports.trans {w w' w'' : World χ π} (h : w.Reports w') (h' : w'.Reports w'') :
    w.Reports w'' :=
  ⟨h.toSame.trans h'.toSame, h'.clock.trans h.clock⟩

instance : IsPreorder (World χ π) Reports where
  refl w := ⟨Std.Refl.refl w, rfl⟩
  trans _ _ _ := Reports.trans

theorem Reports.passing {w w' : World χ π} (h : w.Reports w') : w.Passing w' := by
  obtain ⟨es, hj, he⟩ := h.journal
  exact ⟨⟨_, _, _, _, _, h.part⟩, es, hj, fun e h => Event.passing_of_report (he e h)⟩

theorem Passing.history {w w' : World χ π} (h : w.Passing w') :
    ∃ es, w'.history = w.history ++ es ∧ ∀ e ∈ es, e.passing = true :=
  (show w.Same (fun _ => ()) Event.passing w' from ⟨rfl, h.journal⟩).history

theorem Passing.wanting {w w' : World χ π} (h : w.Passing w') :
    w'.session.connectRequested = w.session.connectRequested := by
  obtain ⟨⟨_, _, _, _, _, hs⟩, _⟩ := h
  rw [hs]

/-- A passing change leaves every part alone that holds none of what it touches. -/
theorem Passing.same {α : Type} {part : Session → α} {kind : Event → Bool} {w w' : World χ π}
    (h : w.Passing w')
    (hpart : ∀ (s : Session) ready lastHeartbeat reason status resetRequested,
      part { s with ready, lastHeartbeat, reason, status, resetRequested } = part s)
    (hkind : ∀ e, e.passing = true → kind e = true) : w.Same part kind w' := by
  obtain ⟨⟨_, _, _, _, _, hs⟩, es, hj, he⟩ := h
  exact ⟨by rw [hs, hpart], es, hj, fun e h => hkind e (he e h)⟩

end World

namespace Wiring

variable (W : Wiring χ π ι)

/-! ## Moves -/

/-- A passing change or a call. -/
inductive Move : World χ π → World χ π → Prop
  | passing {w w' : World χ π} (h : w.Passing w') : Move w w'
  | call {w w' : World χ π} (c : Call) (r : CallReply) (h : (W.perform c).run w = .ok (r, w')) :
    Move w w'

/-- Any sequence of passing changes and calls. -/
abbrev Moves : World χ π → World χ π → Prop :=
  ReflTransGen W.Move

variable {W}

theorem Moves.of_passing {w w' : World χ π} (h : w.Passing w') : W.Moves w w' :=
  .single (.passing h)

/-- What every move keeps, all moves keep. -/
theorem Moves.invariant {I : World χ π → Prop} (hI : ∀ w w', W.Move w w' → I w → I w')
    {w w' : World χ π} (h : W.Moves w w') (hw : I w) : I w' := by
  induction h with
  | refl => exact hw
  | tail _ hm ih => exact hI _ _ hm ih

variable (W)

/-- A call, or something that happens outside. -/
inductive Doing (E : World χ π → World χ π → Prop) : World χ π → World χ π → Prop
  | call {w w' : World χ π} (c : Call) (r : CallReply) (h : (W.perform c).run w = .ok (r, w')) :
    Doing E w w'
  | outside {w w' : World χ π} (h : E w w') : Doing E w w'

/-- Subscribers and interruptions change the world only as a relation allows. -/
structure Heeds (R : World χ π → World χ π → Prop) : Prop where
  react : ∀ s t, Keeps R (W.react s t)
  interrupt : ∀ i, Keeps R (W.interrupt i)

/-- Subscribers and interruptions do nothing but call the session; `E` is what may happen outside
in the meantime. -/
abbrev CallbacksOnlyCall (E : World χ π → World χ π → Prop) : Prop :=
  W.Heeds (ReflTransGen (W.Doing E))

/-- Subscribers and interruptions only make moves. -/
abbrev CallbacksOnlyMove : Prop :=
  W.Heeds W.Moves

variable {W} {E R R' : World χ π → World χ π → Prop}

theorem Heeds.mono (hW : W.Heeds R) (h : ∀ w w', R w w' → R' w w') : W.Heeds R' where
  react s t w := (hW.react s t w).mono fun _ w' => h w w'
  interrupt i w := (hW.interrupt i w).mono fun _ w' => h w w'

theorem Doing.moves (hE : ∀ w w', E w w' → w.Passing w') {w w' : World χ π}
    (h : ReflTransGen (W.Doing E) w w') : W.Moves w w' := by
  induction h with
  | refl => exact .refl
  | tail _ hd ih =>
    cases hd with
    | call c r h => exact ih.tail (.call c r h)
    | outside h => exact ih.tail (.passing (hE _ _ h))

theorem CallbacksOnlyCall.onlyMove (hW : W.CallbacksOnlyCall E)
    (hE : ∀ w w', E w w' → w.Passing w') : W.CallbacksOnlyMove :=
  Heeds.mono hW fun _ _ => Doing.moves hE

/-! ## EnvironmentStep the session -/

/-- A relation that allows to change everything around the session and to report on it. -/
structure Reporting (R : World χ π → World χ π → Prop) : Prop where
  around : ∀ {w w' : World χ π}, w.Reports w' → R w w'

namespace Reporting

open Act

variable (hR : Reporting R)

include hR

theorem recordAll {es : List Event} (h : ∀ e ∈ es, e.report = true) :
    Keeps R (recordAll es : Act χ π Unit) :=
  fun _ => (yields_modify _).2 (hR.around ⟨⟨rfl, _, rfl, by simpa using h⟩, rfl⟩)

theorem log (level : Log.Level) (message : String) (fields : Log.Fields) :
    Keeps R (log level message fields : Act χ π Unit) :=
  fun _ => (yields_modify _).2 (hR.around ⟨⟨rfl, [_], rfl, by simp [Event.report]⟩, rfl⟩)

theorem change {f : World χ π → World χ π} (hs : ∀ w, (f w).session = w.session)
    (hc : ∀ w, (f w).clock = w.clock) (hj : ∀ w, (f w).journal = w.journal) :
    Keeps R (modify f : Act χ π Unit) :=
  fun w => (yields_modify _).2 (hR.around ⟨⟨hs w, [], hj w, by simp⟩, hc w⟩)

theorem count (f : Metrics → Metrics) : Keeps R (count f : Act χ π Unit) :=
  hR.change (fun _ => rfl) (fun _ => rfl) fun _ => rfl

theorem recordPeer (f : Roster → Instant → Instant → Roster) :
    Keeps R (W.recordPeer f) :=
  hR.change (fun _ => rfl) (fun _ => rfl) fun _ => rfl

variable [IsPreorder (World χ π) R]

theorem adopt {α : Type} (r : Reply χ α) : Keeps R (adopt r : Act χ π α) :=
  .bind (hR.change (fun _ => rfl) (fun _ => rfl) fun _ => rfl) fun _ =>
    .bind (hR.recordAll (by simp)) fun _ => .pure _

theorem send {label : Label} {m : Option Message}
    (handed : ∀ accepted, Keeps R (Act.record (.handOff label m accepted) : Act χ π Unit)) :
    Keeps R (W.send label m) := by
  refine .bind .get fun w => .bind (.lift _) fun reply => .bind (hR.adopt _) fun error =>
    .bind (handed _) fun _ => ?_
  cases error with
  | none => exact hR.count _
  | some reason =>
    refine .bind (hR.count _) fun _ => ?_
    cases m with
    | none => exact .throw _
    | some m => exact hR.log _ _ _

theorem offer (b : Message.Built) (skipped : String) (fields : Log.Fields)
    (handed : ∀ m accepted, Keeps R (Act.record (.handOff .handshake m accepted) : Act χ π Unit)) :
    Keeps R (W.offer b skipped fields) := by
  unfold Wiring.offer
  split
  · exact hR.log _ _ _
  · exact hR.send (handed _)

theorem nextPort : Keeps R W.nextPort :=
  .bind .get fun _ => .bind (hR.change (fun _ => rfl) (fun _ => rfl) fun _ => rfl) fun _ =>
    .bind (hR.recordAll (by simp)) fun _ => .pure _

/-- The session remembers nothing of a message, unless it is a heartbeat. -/
theorem onMessage {m : Option Message} (h : m.bind Message.kind? ≠ some .agentStatus)
    (handed : ∀ m accepted, Keeps R (Act.record (.handOff .reply m accepted) : Act χ π Unit)) :
    Keeps R (W.onMessage m) := by
  unfold Wiring.onMessage
  split
  · exact .throw _
  · refine .bind (hR.recordPeer _) fun _ => ?_
    dsimp only
    split
    · exact hR.log _ _ _
    · exact hR.send (handed _)
  · exact .bind (hR.recordPeer _) fun _ => hR.send (handed _)
  · exact absurd rfl h
  · exact hR.log _ _ _

end Reporting

theorem reporting_reports : Reporting (World.Reports : World χ π → World χ π → Prop) :=
  ⟨id⟩

/-- A relation that also allows to add passing events to the journal. -/
structure Outward (R : World χ π → World χ π → Prop) : Prop extends Reporting R where
  note : ∀ (w : World χ π) {e : Event}, e.passing = true → R w (w.note e)

namespace Outward

open Act

variable (hR : Outward R)

include hR

theorem record {e : Event} (h : e.passing = true) : Keeps R (record e : Act χ π Unit) :=
  fun w => (yields_modify _).2 (hR.note w h)

variable [IsPreorder (World χ π) R]

theorem sendPassing {label : Label} (h : label.passing = true) (m : Option Message) :
    Keeps R (W.send label m) :=
  hR.send fun _ => hR.record h

theorem disconnect : Keeps R W.disconnect :=
  .bind (hR.record rfl) fun _ => .bind .get fun _ => hR.adopt _

end Outward

/-! ## In passing -/

/-- A relation that also allows the session to note a disconnect, a heartbeat and what it has
shown. -/
structure Gentle (R : World χ π → World χ π → Prop) : Prop extends Outward R where
  remember : ∀ (w : World χ π) (reason : Text) (status : Publisher Subscriber)
    (resetRequested : Bool), R w (w.remember fun s => { s with reason, status, resetRequested })
  unready : ∀ w : World χ π, R w (w.remember fun s => { s with ready := false })
  beat : ∀ w : World χ π,
    R w (w.remember fun s => { s with lastHeartbeat := w.clock, ready := true })

theorem gentle_passing : Gentle (World.Passing : World χ π → World χ π → Prop) where
  around := World.Reports.passing
  note _ _ := .noting
  remember _ _ _ _ := ⟨⟨_, _, _, _, _, rfl⟩, [], by simp⟩
  unready _ := ⟨⟨_, _, _, _, _, rfl⟩, [], by simp⟩
  beat _ := ⟨⟨_, _, _, _, _, rfl⟩, [], by simp⟩

theorem gentle_moves : Gentle W.Moves where
  around h := .of_passing h.passing
  note _ _ h := .of_passing (.noting h)
  remember w reason status reset := .of_passing (gentle_passing.remember w reason status reset)
  unready w := .of_passing (gentle_passing.unready w)
  beat w := .of_passing (gentle_passing.beat w)

namespace Gentle

open Act

variable [IsPreorder (World χ π) R] (hR : Gentle R)

include hR

theorem setReady : Keeps R (setReady false : Act χ π Unit) :=
  .bind (fun w => (yields_modify _).2 (hR.unready w)) fun _ => hR.count _

theorem onConnected (session : Text) : Keeps R (W.onConnected session) :=
  .bind hR.setReady fun _ => .bind (hR.log _ _ _) fun _ =>
    .bind (hR.offer _ _ _ fun _ _ => hR.record rfl) fun _ =>
      hR.offer _ _ _ fun _ _ => hR.record rfl

theorem onHeartbeat : Keeps R W.onHeartbeat := by
  intro w
  refine (yields_bind _ _).2 (yields_get.2 ((yields_bind _ _).2 ((yields_modify _).2 ?_)))
  have noted : R w (w.note (.beat (W.transport.connected w.channel) w.session.ready)) :=
    hR.note w rfl
  refine (yields_ite _ _).2 ⟨fun _ => ?_, fun _ => (yields_pure _).2 noted⟩
  -- The heartbeat carries the time that was read at the start.
  refine (yields_bind _ _).2 ((yields_modify _).2 ?_)
  refine Yields.mono ((Keeps.bind (hR.count _) fun _ => ?_ : Keeps R _) _) fun _ _ h =>
    IsTrans.trans _ _ _ (IsTrans.trans _ _ _ noted (hR.beat _)) h
  refine .ite (.bind (hR.count _) fun _ => .bind (hR.log _ _ _) fun _ => ?_) (.pure _)
  exact .ite (hR.sendPassing rfl _) (.pure _)

theorem onMessage (m : Option Message) : Keeps R (W.onMessage m) := by
  cases m with
  | none => exact .throw _
  | some m =>
    cases m with
    | agentStatus => exact hR.onHeartbeat
    | _ => exact hR.toReporting.onMessage nofun fun _ _ => hR.record rfl

theorem resetLink : Keeps R W.resetLink := by
  refine .bind .get fun w => .bind ?_ fun _ => .ite ?_ (.pure _)
  · exact fun w => (yields_modify _).2 (hR.remember w w.session.reason w.session.status false)
  · exact .bind (hR.log _ _ _) fun _ => .bind hR.disconnect fun _ => hR.setReady

/-! What calls subscribers -/

section Heeds

variable (hW : W.Heeds R)

include hW

theorem present (text : Text) : ∀ subscribers, Keeps R (W.present text subscribers)
  | [] => .pure _
  | (_, s) :: rest =>
    .bind (hR.record rfl) fun _ => .bind (hW.react s text) fun _ => present text rest

theorem publish (endOfTick : Bool) : Keeps R (W.publish endOfTick) := by
  refine .bind .get fun v => .bind ?_ fun _ => ?_
  · intro w
    refine (yields_modify _).2 ?_
    exact hR.remember w (if endOfTick then [] else w.session.reason) _ w.session.resetRequested
  · split
    · exact .pure _
    · exact .bind (hR.log _ _ _) fun _ => hR.present hW _ _

/-- The session shows why its link has ended. -/
theorem explain (reason : Text) : Keeps R (do
    Act.remember fun s => { s with reason }
    W.publish false) :=
  .bind (fun w => (yields_modify _).2 (hR.remember w reason w.session.status
    w.session.resetRequested)) fun _ => hR.publish hW false

theorem onNotice (n : Notice) : Keeps R (W.onNotice n) := by
  cases n with
  | connected session => exact hR.onConnected session
  | disconnected reason =>
    exact .bind (hR.log _ _ _) fun _ => .bind hR.setReady fun _ => hR.explain hW reason
  | message m => exact hR.onMessage m

theorem takeNotice (link : Option Nat) (n : Notice) : Keeps R (W.takeNotice link n) :=
  .bind (hR.record rfl) fun _ => hR.onNotice hW n

theorem follow (a : Activity χ ι) : Keeps R (W.follow a) := by
  have enter (channel : χ) : Keeps R (modify fun w => { w with channel } : Act χ π Unit) :=
    hR.change (fun _ => rfl) (fun _ => rfl) fun _ => rfl
  induction a with
  | done channel => exact enter channel
  | fault f => exact .throw f
  | notice link n channel next ih =>
    exact .bind (enter channel) fun _ => .bind (hR.takeNotice hW link n) fun _ =>
      .bind .get fun w => ih w.channel
  | interrupt i channel next ih =>
    exact .bind (enter channel) fun _ => .bind (hW.interrupt i) fun _ =>
      .bind .get fun w => ih w.channel

theorem update : Keeps R W.update :=
  .bind (hR.record rfl) fun _ => .bind .get fun _ =>
    .bind (hR.recordAll (by simp)) fun _ => hR.follow hW _

theorem enforceLiveness : Keeps R W.enforceLiveness := by
  refine .bind .get fun w => .ite ?_ (.pure _)
  exact .bind (hR.record rfl) fun _ => .bind (hR.log _ _ _) fun _ => .bind (hR.count _) fun _ =>
    .bind hR.disconnect fun _ => .bind hR.setReady fun _ => hR.explain hW _

theorem poll : Keeps R W.poll :=
  .bind (hR.update hW) fun _ => .bind .get fun _ => hR.adopt _

theorem drainTransport : ∀ polls, Keeps R (W.drainTransport polls)
  | 0 => .bind (hR.poll hW) fun _ => .pure _
  | polls + 1 => .bind (hR.poll hW) fun _ => .ite (drainTransport polls) (.pure _)

end Heeds

end Gentle

open Act in
/-- Handing over a message is a single event among reports. -/
theorem send_reports (label : Label) (m : Option Message) (w : World χ π) :
    Yields (W.send label m) w fun _ w' => ∃ accepted w₁,
      w.Reports w₁ ∧ (w₁.note (.handOff label m accepted)).Reports w' := by
  simp only [send, yields_bind, yields_get, yields_lift]
  intro reply _
  refine (reporting_reports.adopt reply w).mono fun error w₁ h₁ => ?_
  refine (yields_modify _).2 ?_
  cases error with
  | none => exact (reporting_reports.count _ _).mono fun _ w₂ h₂ => ⟨_, w₁, h₁, h₂⟩
  | some reason =>
    refine (yields_bind _ _).2 ((reporting_reports.count _ _).mono fun _ w₂ h₂ => ?_)
    cases m with
    | none => exact (yields_throw _).2 trivial
    | some m =>
      exact (reporting_reports.log _ _ _ _).mono fun _ w₃ h₃ => ⟨_, w₁, h₁, h₂.trans h₃⟩

theorem send_cases (label : Label) (m : Option Message) (w : World χ π) :
    Yields (W.send label m) w fun _ w' => ∃ accepted w₁,
      w.Passing w₁ ∧ (w₁.note (.handOff label m accepted)).Passing w' := by
  refine (send_reports label m w).mono ?_
  rintro _ w' ⟨accepted, w₁, h₁, h₂⟩
  exact ⟨accepted, w₁, h₁.passing, h₂.passing⟩

end Wiring

end Teleop
