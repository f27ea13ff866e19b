import Teleop.Proofs.Session.History
import Teleop.Proofs.Session.Runs

/-!
# Why a link ended

A session remembers why its link ended until it has shown the status at the end of a tick. A reason
comes with a notice of a disconnect, or from an overdue heartbeat; both are in the history.

* `Event.reason?`, `lastReason?`: the reason that an event brings, and the latest one of a history;
* `World.Silent`: a change that brings no reason and touches none;
* `World.Recalls`: the session remembers the latest reason since then, or else the one from before;
* `Recalling.tick`: up to the status that it shows at its end, a tick recalls;
* `publish_yields`: what showing the status comes to.
-/

namespace Teleop

open Relation

/-- The reason of a disconnect that an event brings. -/
def Event.reason? : Event → Option Text
  | noticed _ (.disconnected reason) => some reason
  | overdue => some Status.timedOut
  | _ => none

def Event.silent (e : Event) : Bool :=
  e.reason?.isNone

@[simp] theorem Event.silent_ofChannel (e : ChannelEvent) : (ofChannel e).silent = true := by
  cases e <;> rfl

@[simp] theorem Event.silent_ofPorts (e : PortEvent) : (ofPorts e).silent = true := by
  cases e <;> rfl

/-- The latest reason among some events. -/
def lastReason? (es : List Event) : Option Text :=
  (es.filterMap Event.reason?).getLast?

section History

variable {es es' : List Event}

theorem lastReason?_append :
    lastReason? (es ++ es') = (lastReason? es').or (lastReason? es) := by
  simp [lastReason?, List.getLast?_append]

theorem lastReason?_of_silent (h : ∀ e ∈ es, e.silent = true) : lastReason? es = none := by
  have none : es.filterMap Event.reason? = [] :=
    List.filterMap_eq_nil_iff.2 fun e he => Option.isNone_iff_eq_none.1 (h e he)
  rw [lastReason?, none, List.getLast?_nil]

theorem lastReason?_append_of_silent (h : ∀ e ∈ es', e.silent = true) :
    lastReason? (es ++ es') = lastReason? es := by
  rw [lastReason?_append, lastReason?_of_silent h, Option.none_or]

end History

variable {χ π ι : Type}

namespace World

/-- The reason stays as it is, and nothing that happens brings one. -/
abbrev Silent : World χ π → World χ π → Prop :=
  Same Session.reason Event.silent

/-- The session remembers the latest reason that has come up, if any has. -/
def Recalls (w w' : World χ π) : Prop :=
  ∃ es, w'.history = w.history ++ es ∧
    w'.session.reason = (lastReason? es).getD w.session.reason

variable {w w' w'' : World χ π}

instance : IsPreorder (World χ π) Recalls where
  refl w := ⟨[], by simp [lastReason?]⟩
  trans w w' w'' := by
    rintro ⟨es, hh, hr⟩ ⟨es', hh', hr'⟩
    refine ⟨es ++ es', by rw [hh', hh, List.append_assoc], ?_⟩
    rw [hr', hr, lastReason?_append]
    cases lastReason? es' <;> rfl

theorem Silent.recalls (h : w.Silent w') : w.Recalls w' := by
  obtain ⟨es, hh, he⟩ := h.history
  exact ⟨es, hh, by rw [lastReason?_of_silent he, Option.getD_none]; exact h.part⟩

/-- A reason has come up and is remembered. -/
theorem Silent.recalls_of_reason {e : Event} {reason : Text} (he : e.reason? = some reason)
    (h : (w.note e).Silent w')
    (h' : (w'.remember fun s => { s with reason }).Silent w'') : w.Recalls w'' := by
  obtain ⟨es, hh, hes⟩ := h.history
  obtain ⟨es', hh', hes'⟩ := h'.history
  have hr : w''.session.reason = reason := h'.part
  refine ⟨[e] ++ (es ++ es'), ?_, ?_⟩
  · rw [hh', history_remember, hh, history_note]
    simp only [List.append_assoc]
  · rw [lastReason?_append_of_silent (List.forall_mem_append.2 ⟨hes, hes'⟩), hr]
    simp [lastReason?, he]

end World

theorem Keeps.recalls {α : Type} {x : Act χ π α} (h : Keeps World.Silent x) :
    Keeps World.Recalls x :=
  fun w => (h w).mono fun _ _ => World.Silent.recalls

namespace Wiring

open Act

variable {W : Wiring χ π ι}

theorem EnvironmentStep.same {α : Type} {part : Session → α} {w w' : World χ π}
    (h : EnvironmentStep w w') : w.Same part Event.silent w' := by
  cases h with
  | changed channel events => exact ⟨rfl, _, rfl, by simp⟩
  | noted entry => exact ⟨rfl, [_], rfl, by simp [Event.silent, Event.reason?]⟩

/-! ## Operations that bring no reason -/

section Silent

variable {β : Type} {part : Session → β}

theorem silent_record {e : Event} (h : e.silent = true) :
    Keeps (World.Same part Event.silent) (record e : Act χ π Unit) :=
  fun _ => (yields_modify _).2 ⟨rfl, [e], rfl, by simpa using h⟩

theorem silent_recordAll {es : List Event} (h : ∀ e ∈ es, e.silent = true) :
    Keeps (World.Same part Event.silent) (recordAll es : Act χ π Unit) :=
  fun _ => (yields_modify _).2 ⟨rfl, _, rfl, by simpa using h⟩

theorem silent_log (level : Log.Level) (message : String) (fields : Log.Fields) :
    Keeps (World.Same part Event.silent) (log level message fields : Act χ π Unit) :=
  silent_record rfl

theorem silent_remember {f : Session → Session} (h : ∀ s, part (f s) = part s) :
    Keeps (World.Same part Event.silent) (remember f : Act χ π Unit) :=
  fun w => (yields_modify _).2 ⟨h w.session, [], rfl, by simp⟩

theorem silent_change {f : World χ π → World χ π} (hs : ∀ w, (f w).session = w.session)
    (hj : ∀ w, (f w).journal = w.journal) :
    Keeps (World.Same part Event.silent) (modify f : Act χ π Unit) :=
  fun w => (yields_modify _).2 ⟨by rw [hs], [], hj w, by simp⟩

theorem silent_count (f : Metrics → Metrics) :
    Keeps (World.Same part Event.silent) (count f : Act χ π Unit) :=
  silent_change (fun _ => rfl) fun _ => rfl

theorem silent_adopt {α : Type} (r : Reply χ α) :
    Keeps (World.Same part Event.silent) (adopt r : Act χ π α) :=
  .bind (silent_change (fun _ => rfl) fun _ => rfl) fun _ =>
    .bind (silent_recordAll (by simp)) fun _ => .pure _

theorem silent_send (label : Label) (m : Option Message) :
    Keeps (World.Same part Event.silent) (W.send label m) := by
  refine .bind .get fun w => .bind (.lift _) fun reply => .bind (silent_adopt _) fun error =>
    .bind (silent_record rfl) fun _ => ?_
  cases error with
  | none => exact silent_count _
  | some reason =>
    refine .bind (silent_count _) fun _ => ?_
    cases m with
    | none => exact .throw _
    | some m => exact silent_log _ _ _

theorem silent_disconnect : Keeps World.Silent W.disconnect :=
  .bind (silent_record rfl) fun _ => .bind .get fun _ => silent_adopt _

theorem silent_setReady (ready : Bool) : Keeps World.Silent (setReady ready : Act χ π Unit) :=
  .bind (silent_remember fun _ => rfl) fun _ => silent_count _

theorem silent_resetLink : Keeps World.Silent W.resetLink :=
  .bind .get fun _ => .bind (silent_remember fun _ => rfl) fun _ =>
    .ite (.bind (silent_log _ _ _) fun _ => .bind silent_disconnect fun _ =>
      silent_setReady _) (.pure _)

theorem silent_start : Keeps World.Silent W.start :=
  .bind .get fun _ => .ite (.bind (silent_change (fun _ => rfl) fun _ => rfl) fun _ =>
    .bind (silent_record rfl) fun _ => .bind (silent_remember fun _ => rfl) fun _ =>
      silent_log _ _ _) (.pure _)

/-! Notices -/

theorem silent_offer (b : Message.Built) (skipped : String) (fields : Log.Fields) :
    Keeps World.Silent (W.offer b skipped fields) := by
  unfold offer
  split
  · exact silent_log _ _ _
  · exact silent_send _ _

theorem silent_onConnected (session : Text) : Keeps World.Silent (W.onConnected session) :=
  .bind (silent_setReady _) fun _ => .bind (silent_log _ _ _) fun _ =>
    .bind (silent_offer _ _ _) fun _ => silent_offer _ _ _

theorem silent_onHeartbeat : Keeps World.Silent W.onHeartbeat := by
  refine .bind .get fun _ => .bind (silent_record rfl) fun _ => .ite ?_ (.pure _)
  refine .bind (silent_remember fun _ => rfl) fun _ => .bind (silent_count _) fun _ => ?_
  refine .ite (.bind (silent_count _) fun _ => .bind (silent_log _ _ _) fun _ => ?_) (.pure _)
  exact .ite (silent_send _ _) (.pure _)

theorem silent_onMessage (m : Option Message) : Keeps World.Silent (W.onMessage m) := by
  have peer (f : Roster → Instant → Instant → Roster) :
      Keeps World.Silent (W.recordPeer f) :=
    silent_change (fun _ => rfl) fun _ => rfl
  unfold onMessage
  split
  · exact .throw _
  · refine .bind (peer _) fun _ => ?_
    dsimp only
    split
    · exact silent_log _ _ _
    · exact silent_send _ _
  · exact .bind (peer _) fun _ => silent_send _ _
  · exact silent_onHeartbeat
  · exact silent_log _ _ _

/-! Attempts and work -/

theorem silent_nextPort : Keeps World.Silent W.nextPort :=
  .bind .get fun _ => .bind (silent_change (fun _ => rfl) fun _ => rfl) fun _ =>
    .bind (silent_recordAll (by simp)) fun _ => .pure _

theorem silent_dial (number : Nat) (port : Int) : Keeps World.Silent (W.dial number port) := by
  refine .bind (silent_log _ _ _) fun _ => .bind (silent_record rfl) fun _ =>
    .bind .get fun _ => .bind (.lift _) fun _ => .bind (silent_adopt _) fun dialled =>
      .bind (silent_change (fun _ => rfl) fun _ => rfl) fun _ => ?_
  split
  · exact silent_log _ _ _
  · exact .pure _

theorem silent_attempt (number : Nat) : Keeps World.Silent (W.attempt number) := by
  refine .bind (silent_record rfl) fun _ => .bind (silent_count _) fun _ =>
    .bind silent_nextPort fun port => ?_
  cases port with
  | error reason => exact silent_log _ _ _
  | ok port => exact silent_dial number port

theorem silent_giveUp : Keeps World.Silent (giveUp : Act χ π Unit) :=
  .bind (silent_remember fun _ => rfl) fun _ => .bind (silent_record rfl) fun _ =>
    .bind .get fun _ => .bind (silent_count _) fun _ => silent_log _ _ _

theorem silent_takeWork : Keeps World.Silent (takeWork : Act χ π _) :=
  .bind .get fun _ => .bind (.lift _) fun _ => .bind (silent_remember fun _ => rfl) fun _ => .pure _

theorem silent_putBack (request : Option Message) (pending : List Message) :
    Keeps World.Silent (putBack request pending : Act χ π Unit) :=
  .ite (.pure _) (.bind .get fun _ => .bind (.lift _) fun _ =>
    .bind (silent_remember fun _ => rfl) fun _ =>
      .ite (.bind (silent_record rfl) fun _ => silent_log _ _ _) (.pure _))

theorem silent_dispatch (request : Option Message) (pending : List Message) :
    Keeps World.Silent (W.dispatch request pending) := by
  have sent (label : Label) (ms : List (Option Message)) :
      Keeps World.Silent (W.sendAll label ms) :=
    .forM fun _ _ => silent_send _ _
  have due : Keeps World.Silent (takeDue : Act χ π _) :=
    .bind .get fun _ => .bind (silent_record rfl) fun _ =>
      .bind (silent_remember fun _ => rfl) fun _ => .pure _
  refine .bind .get fun _ => .bind (silent_record rfl) fun _ => .ite ?_ (silent_putBack _ _)
  exact .bind (sent _ _) fun _ => .bind (sent _ _) fun _ => .bind due fun _ => sent _ _

end Silent

/-! ## Showing the status -/

/-- The world once the status has been worked out, before it is shown to anybody. -/
def published (W : Wiring χ π ι) (endOfTick : Bool) (w : World χ π) : World χ π :=
  w.remember fun s =>
    { s with
      status := (w.session.status.update (W.facts w)).2.2
      reason := if endOfTick then [] else s.reason }

theorem published_last (endOfTick : Bool) (w : World χ π) :
    (W.published endOfTick w).session.status.last = (W.facts w).text w.session.status.last := by
  change (w.session.status.update (W.facts w)).2.2.last = _
  unfold Publisher.update
  dsimp only
  split
  · next h => exact h.symm
  · rfl

/-- After that the status is shown, which changes no more than subscribers do. -/
theorem publish_yields {R : World χ π → World χ π → Prop} [IsPreorder (World χ π) R]
    (noted : ∀ e : Event, e.silent = true → Keeps R (record e : Act χ π Unit))
    (react : ∀ s t, Keeps R (W.react s t)) (endOfTick : Bool) (w : World χ π) :
    Yields (W.publish endOfTick) w fun _ w' => R (W.published endOfTick w) w' := by
  have present (text : Text) (subscribers : List (UInt64 × Subscriber)) :
      Keeps R (W.present text subscribers) := by
    induction subscribers with
    | nil => exact .pure _
    | cons s rest ih => exact .bind (noted _ rfl) fun _ => .bind (react _ _) fun _ => ih
  refine (yields_bind _ _).2 (yields_get.2 ((yields_bind _ _).2 ((yields_modify _).2 ?_)))
  split
  · exact (yields_pure _).2 (Std.Refl.refl _)
  · exact (Keeps.bind (noted _ rfl) fun _ => present _ _ : Keeps R _) _

section React

variable (react : ∀ s t, Keeps World.Silent (W.react s t))

include react

theorem silent_publish : Keeps World.Silent (W.publish false) :=
  fun w => (publish_yields (fun _ => silent_record) react false w).mono fun _ _ h =>
    ⟨h.part, h.journal⟩

/-- A reason has come up: it is remembered and shown. -/
theorem recalls_explain {e : Event} {reason : Text} (he : e.reason? = some reason)
    {w w₁ : World χ π} (h : (w.note e).Silent w₁) :
    Yields (do remember fun s => { s with reason }; W.publish false) w₁
      fun _ w' => w.Recalls w' :=
  (yields_bind _ _).2 ((yields_modify _).2 ((silent_publish react _).mono fun _ _ h' =>
    World.Silent.recalls_of_reason he h h'))

theorem recalls_takeNotice (link : Option Nat) (n : Notice) :
    Keeps World.Recalls (W.takeNotice link n) := by
  cases n with
  | connected session =>
    exact Keeps.recalls (.bind (silent_record rfl) fun _ => silent_onConnected session)
  | message m => exact Keeps.recalls (.bind (silent_record rfl) fun _ => silent_onMessage m)
  | disconnected reason =>
    refine fun w => (yields_bind _ _).2 ((yields_modify _).2 ?_)
    refine (yields_bind _ _).2 ((silent_log _ _ _ _).mono
      fun _ w₁ (h₁ : World.Silent _ w₁) => ?_)
    refine (yields_bind _ _).2 ((silent_setReady _ _).mono fun _ w₂ h₂ => ?_)
    exact recalls_explain react (e := .noticed link (.disconnected reason)) rfl (h₁.trans h₂)

theorem recalls_enforceLiveness : Keeps World.Recalls W.enforceLiveness := by
  refine .bind .get fun _ => .ite (fun w => ?_) (.pure _)
  refine (yields_bind _ _).2 ((yields_modify _).2 ?_)
  refine (yields_bind _ _).2 ((silent_log _ _ _ _).mono fun _ w₁ (h₁ : World.Silent _ w₁) => ?_)
  refine (yields_bind _ _).2 ((silent_count _ _).mono fun _ w₂ (h₂ : World.Silent _ w₂) => ?_)
  refine (yields_bind _ _).2 ((silent_disconnect _).mono fun _ w₃ h₃ => ?_)
  refine (yields_bind _ _).2 ((silent_setReady _ _).mono fun _ w₄ h₄ => ?_)
  exact recalls_explain react (e := .overdue) rfl (((h₁.trans h₂).trans h₃).trans h₄)

end React

/-! ## Ticks -/

/-- Subscribers bring no reason, and what an interruption brings is remembered. -/
structure Recalling (W : Wiring χ π ι) : Prop where
  react : ∀ s t, Keeps World.Silent (W.react s t)
  interrupt : ∀ i, Keeps World.Recalls (W.interrupt i)

namespace Recalling

variable (hW : W.Recalling)

include hW

theorem follow (a : Activity χ ι) : Keeps World.Recalls (W.follow a) := by
  have enter (channel : χ) :
      Keeps World.Recalls (modify fun w => { w with channel } : Act χ π Unit) :=
    Keeps.recalls (silent_change (fun _ => rfl) fun _ => rfl)
  induction a with
  | done channel => exact enter channel
  | fault f => exact .throw f
  | notice link n channel next ih =>
    exact .bind (enter channel) fun _ => .bind (recalls_takeNotice hW.react link n) fun _ =>
      .bind .get fun w => ih w.channel
  | interrupt i channel next ih =>
    exact .bind (enter channel) fun _ => .bind (hW.interrupt i) fun _ =>
      .bind .get fun w => ih w.channel

theorem update : Keeps World.Recalls W.update :=
  .bind (Keeps.recalls (silent_record rfl)) fun _ => .bind .get fun _ =>
    .bind (Keeps.recalls (silent_recordAll (by simp))) fun _ => hW.follow _

theorem maintain : Keeps World.Recalls W.maintain := by
  refine .bind .get fun _ => .ite (.pure _) (.bind ?_ fun kept =>
    .ite (.pure _) (.bind (Keeps.recalls silent_giveUp) fun _ => .pure _))
  refine .bind (recalls_enforceLiveness hW.react) fun _ => .bind .get fun _ =>
    .bind (Keeps.recalls (silent_record rfl)) fun _ => .ite (.pure _) (.ite (.pure _) ?_)
  exact .bind (Keeps.recalls (silent_remember fun _ => rfl)) fun _ =>
    .bind (Keeps.recalls (silent_attempt _)) fun _ => .bind hW.update fun _ => .pure _

/-- A tick ends the loop, or it shows the status after all else. -/
theorem tick (w : World χ π) : Yields W.tick w fun more w' =>
    (more = false ∧ w' = w) ∨
      (more = true ∧ ∃ w₁, w.Recalls w₁ ∧ (W.publish true).run w₁ = .ok ((), w')) := by
  refine (yields_bind _ _).2 (yields_get.2 ((yields_ite _ _).2 ⟨fun _ => ?_, fun _ => ?_⟩))
  · exact (yields_pure _).2 (.inl ⟨rfl, rfl⟩)
  -- Whether or not the session gave up, the tick ends in the same way.
  have rest (request : Option Message) (pending : List Message) {w₁ : World χ π}
      (h₁ : w.Recalls w₁) :
      Yields (W.dispatch request pending >>= fun _ => W.publish true >>= fun _ => pure true) w₁
        fun more w' => (more = false ∧ w' = w) ∨
          (more = true ∧ ∃ w₂, w.Recalls w₂ ∧ (W.publish true).run w₂ = .ok ((), w')) := by
    refine (yields_bind _ _).2 ((silent_dispatch request pending w₁).mono fun _ w₂ h₂ => ?_)
    refine (yields_bind _ _).2 fun _ w' run => (yields_pure _).2 (.inr ⟨rfl, w₂, ?_, run⟩)
    exact IsTrans.trans _ _ _ h₁ h₂.recalls
  refine (yields_bind _ _).2 ((silent_takeWork w).mono ?_)
  rintro ⟨request, pending⟩ w₁ h₁
  refine (yields_bind _ _).2 ((silent_resetLink w₁).mono fun _ w₂ h₂ => ?_)
  refine (yields_bind _ _).2 ((hW.update w₂).mono fun _ w₃ h₃ => ?_)
  refine (yields_bind _ _).2 ((hW.maintain w₃).mono fun kept w₄ h₄ => ?_)
  have h₃ : w.Recalls w₃ := IsTrans.trans _ _ _ (World.Silent.recalls (h₁.trans h₂)) h₃
  have h₄ : w.Recalls w₄ := IsTrans.trans _ _ _ h₃ h₄
  cases kept with
  | true => exact rest _ _ h₄
  | false => exact rest _ _ h₄

/-- At the end of a tick or of a shutdown the reason is used up. -/
theorem publish (w : World χ π) :
    Yields (W.publish true) w fun _ w' => w'.session.reason = [] :=
  (publish_yields (fun _ => silent_record) hW.react true w).mono fun _ _ h => h.part

theorem shutdown (polls : Nat) (w : World χ π) :
    Yields (W.shutdown polls) w fun _ w' => w'.session.reason = [] := by
  -- Whatever came up on the way is used up when the status is shown.
  refine (yields_bind _ _).2 fun _ w₁ _ => (yields_bind _ _).2 fun _ w₂ _ => ?_
  refine (yields_bind _ _).2 fun _ w₃ _ => (yields_bind _ _).2 fun _ w₄ _ => ?_
  refine (yields_bind _ _).2 fun _ w₅ _ => (yields_bind _ _).2 fun _ w₆ _ => ?_
  refine (yields_bind _ _).2 fun _ w₇ _ => (yields_bind _ _).2 ((hW.publish w₇).mono ?_)
  intro _ w₈ used
  exact (silent_log _ _ _ w₈).mono fun _ w' (h : World.Silent w₈ w') => h.part.trans used

end Recalling

end Wiring

end Teleop
