import Teleop.Proofs.Session.Readiness

/-!
# The readiness gauge

A session keeps a flag that tells whether it is ready, and a gauge among its metrics that is meant
to show the same. The two are written one after the other, in several places, and the beginning of a
run writes only the flag. Still they agree after every operation, whatever the transport does, as
long as the session ticks only while a run of its loop goes on.

* `World.Level`: a change that touches neither of the two;
* `InStep`: they agree, and are off unless a run goes on;
* `inStep_perform`, `inStep_takeNotice`, `inStep_tick`, `inStep_shutdown`: everything that a session
  does keeps them so;
* `Wiring.gauge_shows_readiness`: the statement for all runs.
-/

namespace Teleop

open Relation

variable {χ π ι : Type}

/-- A change that touches neither the flag nor the gauge, and begins or ends no run. -/
structure World.Level (w w' : World χ π) : Prop where
  gauge : w'.metrics.ready = w.metrics.ready
  ready : w'.session.ready = w.session.ready
  running : w'.session.running = w.session.running

instance : IsPreorder (World χ π) World.Level where
  refl _ := ⟨rfl, rfl, rfl⟩
  trans _ _ _ h h' :=
    ⟨h'.gauge.trans h.gauge, h'.ready.trans h.ready, h'.running.trans h.running⟩

theorem World.level_remember {w : World χ π} {f : Session → Session}
    (h : (f w.session).attention = w.session.attention) : w.Level (w.remember f) := by
  obtain ⟨running, ready, -⟩ := Session.attention_eq_iff.1 h
  exact ⟨rfl, ready, running⟩

namespace Wiring

open Act

variable {W : Wiring χ π ι}

/-! ## What leaves both alone -/

theorem level_modify {f : World χ π → World χ π} (h : ∀ w : World χ π, w.Level (f w)) :
    Keeps World.Level (modify f : Act χ π Unit) :=
  fun w => (yields_modify _).2 (h w)

theorem level_record (e : Event) : Keeps World.Level (record e : Act χ π Unit) :=
  level_modify fun _ => ⟨rfl, rfl, rfl⟩

theorem level_recordAll (es : List Event) : Keeps World.Level (recordAll es : Act χ π Unit) :=
  level_modify fun _ => ⟨rfl, rfl, rfl⟩

theorem level_log (level : Log.Level) (message : String) (fields : Log.Fields) :
    Keeps World.Level (log level message fields : Act χ π Unit) :=
  level_record _

theorem level_count {f : Metrics → Metrics} (h : ∀ m, (f m).ready = m.ready) :
    Keeps World.Level (count f : Act χ π Unit) :=
  level_modify fun _ => ⟨h _, rfl, rfl⟩

theorem level_adopt {α : Type} (r : Reply χ α) : Keeps World.Level (adopt r : Act χ π α) := by
  apply Keeps.bind
  · exact level_modify fun _ => ⟨rfl, rfl, rfl⟩
  · intro _
    exact .bind (level_recordAll _) fun _ => .pure _

theorem clerical_level : Clerical (World.Level : World χ π → World χ π → Prop) where
  note _ _ _ := ⟨rfl, rfl, rfl⟩
  remember _ _ attention _ := World.level_remember attention

theorem level_send (label : Label) (m : Option Message) : Keeps World.Level (W.send label m) := by
  unfold send
  refine .bind .get fun w => .bind (.lift _) fun reply => .bind (level_adopt _) fun error =>
    .bind (level_record _) fun _ => ?_
  cases error with
  | none => exact level_count fun _ => rfl
  | some reason =>
    refine .bind (level_count fun _ => rfl) fun _ => ?_
    cases m with
    | none => exact .throw _
    | some m => exact level_log _ _ _

theorem level_offer (b : Message.Built) (skipped : String) (fields : Log.Fields) :
    Keeps World.Level (W.offer b skipped fields) := by
  unfold offer
  split
  · exact level_log _ _ _
  · exact level_send _ _

theorem level_disconnect : Keeps World.Level W.disconnect :=
  .bind (level_record _) fun _ => .bind .get fun _ => level_adopt _

theorem level_onMessage {m : Option Message} (h : m.bind Message.kind? ≠ some .agentStatus) :
    Keeps World.Level (W.onMessage m) := by
  have recorded (f : Roster → Instant → Instant → Roster) :
      Keeps World.Level (W.recordPeer f) := level_modify fun _ => ⟨rfl, rfl, rfl⟩
  unfold onMessage
  split
  · exact .throw _
  · apply Keeps.bind (recorded _)
    intro _
    dsimp only
    split
    · exact level_log _ _ _
    · exact level_send _ _
  · exact .bind (recorded _) fun _ => level_send _ _
  · exact absurd rfl h
  · exact level_log _ _ _

theorem level_nextPort : Keeps World.Level W.nextPort :=
  .bind .get fun _ => .bind (level_modify fun _ => ⟨rfl, rfl, rfl⟩) fun _ =>
    .bind (level_recordAll _) fun _ => .pure _

theorem level_dial (number : Nat) (port : Int) : Keeps World.Level (W.dial number port) := by
  unfold dial
  refine .bind (level_log _ _ _) fun _ => .bind (level_record _) fun _ => .bind .get fun _ =>
    .bind (.lift _) fun _ => .bind (level_adopt _) fun dialled =>
      .bind (level_modify fun _ => ⟨rfl, rfl, rfl⟩) fun _ => ?_
  split
  · exact level_log _ _ _
  · exact .pure _

theorem level_attempt (number : Nat) : Keeps World.Level (W.attempt number) := by
  unfold attempt
  refine .bind (level_record _) fun _ => .bind (level_count fun _ => rfl) fun _ =>
    .bind level_nextPort fun port => ?_
  cases port with
  | error reason => exact level_log _ _ _
  | ok port => exact level_dial number port

theorem level_remember {f : Session → Session} (h : ∀ s, (f s).attention = s.attention) :
    Keeps World.Level (remember f : Act χ π Unit) :=
  level_modify fun w => World.level_remember (h w.session)

theorem level_giveUp : Keeps World.Level (giveUp : Act χ π Unit) :=
  .bind (level_remember fun _ => rfl) fun _ => .bind (level_record _) fun _ =>
    .bind .get fun _ => .bind (level_count fun _ => rfl) fun _ => level_log _ _ _

theorem level_dispatch (request : Option Message) (pending : List Message) :
    Keeps World.Level (W.dispatch request pending) := by
  have sent (label : Label) (ms : List (Option Message)) :
      Keeps World.Level (W.sendAll label ms) := .forM fun m _ => level_send label m
  unfold dispatch
  refine .bind .get fun _ => .bind (level_record _) fun _ => .ite ?_ (clerical_level.putBack _ _)
  exact .bind (sent _ _) fun _ => .bind (sent _ _) fun _ =>
    .bind clerical_level.takeDue fun _ => sent _ _

/-! ## Flag and gauge in step -/

/-- The gauge shows the flag, and both are off unless a run goes on; if `awake`, one is known to. -/
structure InStep (awake : Bool) (w : World χ π) : Prop where
  gauge : w.metrics.ready = w.session.ready
  asleep : w.session.running = false → w.session.ready = false
  awake : awake = true → w.session.running = true

variable {awake : Bool} {w w' : World χ π}

theorem InStep.level (h : InStep awake w) (level : w.Level w') : InStep awake w' where
  gauge := by rw [level.gauge, level.ready, h.gauge]
  asleep := by
    rw [level.ready, level.running]
    exact h.asleep
  awake := by
    rw [level.running]
    exact h.awake

theorem inStep_of_level {α : Type} {x : Act χ π α} (h : Keeps World.Level x) :
    Upholds (InStep awake) x :=
  fun w => (h w).mono fun _ _ level inStep => inStep.level level

theorem inStep_unready : Upholds (InStep awake) (setReady false : Act χ π Unit) := by
  intro w
  unfold setReady
  simp only [remember, count, yields_bind, yields_modify]
  intro h
  exact ⟨rfl, fun _ => rfl, h.awake⟩

/-- A run begins only where none goes on, and there the gauge is off already. -/
theorem inStep_start : Upholds (InStep awake) W.start := by
  refine upholds_iff.2 fun w h => ?_
  refine (yields_bind _ _).2 (yields_get.2 ?_)
  refine (yields_ite _ _).2 ⟨fun idle => ?_, fun _ => (yields_pure _).2 h⟩
  have off : w.metrics.ready = false := by
    rw [h.gauge]
    exact h.asleep (by simpa using idle)
  simp only [record, remember, log, yields_bind, yields_modify]
  exact ⟨off, fun _ => rfl, fun _ => rfl⟩

theorem inStep_perform (c : Call) : Upholds (InStep awake) (W.perform c) := by
  by_cases start : c = .start
  · subst start
    exact .bind inStep_start fun _ => .pure _
  by_cases setIdle : ∃ m, c = .setIdle m
  · obtain ⟨m, rfl⟩ := setIdle
    apply inStep_of_level
    have set : Keeps World.Level (W.setIdle m) :=
      .bind (level_modify fun _ => ⟨rfl, rfl, rfl⟩) fun _ => .bind .get fun _ =>
        .bind (level_record _) fun _ => .ite (level_send _ _) (.pure _)
    exact .bind set fun _ => .pure _
  · exact inStep_of_level (clerical_level.perform start (not_exists.1 setIdle))

theorem EnvironmentStep.level (h : EnvironmentStep w w') : w.Level w' := by
  cases h <;> exact ⟨rfl, rfl, rfl⟩

theorem InStep.doing (h : InStep awake w) (hd : ReflTransGen (W.Doing EnvironmentStep) w w') :
    InStep awake w' := by
  induction hd with
  | refl => exact h
  | tail _ hd ih =>
    cases hd with
    | call c r hc => exact inStep_perform c _ r _ hc ih
    | outside ho => exact ih.level ho.level

section Subscribers

variable (hW : W.CallbacksOnlyCall EnvironmentStep)

include hW

theorem inStep_present (text : Text) :
    ∀ subscribers, Upholds (InStep awake) (W.present text subscribers)
  | [] => .pure _
  | (_, s) :: rest => by
    have reacted : Upholds (InStep awake) (W.react s text) :=
      fun w => (hW.react s text w).mono fun _ _ hd h => h.doing hd
    exact .bind (inStep_of_level (level_record _)) fun _ =>
      .bind reacted fun _ => inStep_present text rest

theorem inStep_publish (endOfTick : Bool) : Upholds (InStep awake) (W.publish endOfTick) := by
  unfold publish
  refine .bind .get fun w => .bind (inStep_of_level (level_remember fun _ => rfl)) fun _ => ?_
  split
  · exact .pure _
  · exact .bind (inStep_of_level (level_log _ _ _)) fun _ => inStep_present hW _ _

theorem inStep_explain (reason : Text) : Upholds (InStep awake) (do
    remember fun s => { s with reason }
    W.publish false) :=
  .bind (inStep_of_level (level_remember fun _ => rfl)) fun _ => inStep_publish hW false

/-! ## Notices -/

omit hW in
theorem inStep_onConnected (session : Text) : Upholds (InStep awake) (W.onConnected session) := by
  apply Keeps.bind inStep_unready
  intro _
  apply inStep_of_level
  exact .bind (level_log _ _ _) fun _ => .bind (level_offer _ _ _) fun _ => level_offer _ _ _

theorem inStep_onDisconnected (reason : Text) :
    Upholds (InStep awake) (W.onDisconnected reason) :=
  .bind (inStep_of_level (level_log _ _ _)) fun _ => .bind inStep_unready fun _ =>
    inStep_explain hW reason

omit hW in
/-- A heartbeat sets the flag each time, but the gauge only if the flag was off. -/
theorem inStep_onHeartbeat : Upholds (InStep true : World χ π → Prop) W.onHeartbeat := by
  refine upholds_iff.2 fun w h => ?_
  refine (yields_bind _ _).2 (yields_get.2 ((yields_bind _ _).2 ((yields_modify _).2 ?_)))
  have running : w.session.running = true := h.awake rfl
  refine (yields_ite _ _).2 ⟨fun _ => ?_, fun _ => (yields_pure _).2 (h.level ⟨rfl, rfl, rfl⟩)⟩
  refine (yields_bind _ _).2 ((yields_modify _).2 ((yields_bind _ _).2 ((yields_modify _).2 ?_)))
  have asleep : w.session.running = false → true = false := by simp [running]
  cases ready : w.session.ready with
  | true => exact (yields_pure _).2 ⟨h.gauge.trans ready, asleep, fun _ => running⟩
  | false =>
    refine (yields_bind _ _).2 ((yields_modify _).2 ?_)
    have told : Keeps World.Level (do
        log .info "agent ready"
        if w.session.idle.isSome then W.send .idle w.session.idle : Act χ π Unit) :=
      .bind (level_log _ _ _) fun _ => .ite (level_send _ _) (.pure _)
    exact upholds_iff.1 (inStep_of_level told) _ ⟨rfl, asleep, fun _ => running⟩

omit hW in
theorem inStep_onMessage (m : Option Message) :
    Upholds (InStep true : World χ π → Prop) (W.onMessage m) := by
  by_cases beat : m.bind Message.kind? = some .agentStatus
  · cases m with
    | none => cases beat
    | some m =>
      cases m with
      | agentStatus => exact inStep_onHeartbeat
      | _ => cases beat
  · exact inStep_of_level (level_onMessage beat)

theorem inStep_takeNotice (link : Option Nat) (n : Notice) :
    Upholds (InStep true : World χ π → Prop) (W.takeNotice link n) := by
  apply Keeps.bind (inStep_of_level (level_record _))
  intro _
  cases n with
  | connected session => exact inStep_onConnected session
  | disconnected reason => exact inStep_onDisconnected hW reason
  | message m => exact inStep_onMessage m

theorem inStep_follow (a : Activity χ ι) : Upholds (InStep true) (W.follow a) := by
  have enter (channel : χ) :
      Upholds (InStep true) (modify fun w => { w with channel } : Act χ π Unit) :=
    inStep_of_level (level_modify fun _ => ⟨rfl, rfl, rfl⟩)
  induction a with
  | done channel => exact enter channel
  | fault f => exact .throw f
  | notice link n channel next ih =>
    exact .bind (enter channel) fun _ => .bind (inStep_takeNotice hW link n) fun _ =>
      .bind .get fun w => ih w.channel
  | interrupt i channel next ih =>
    have interrupted : Upholds (InStep true) (W.interrupt i) :=
      fun w => (hW.interrupt i w).mono fun _ _ hd h => h.doing hd
    exact .bind (enter channel) fun _ => .bind interrupted fun _ =>
      .bind .get fun w => ih w.channel

theorem inStep_update : Upholds (InStep true) W.update :=
  .bind (inStep_of_level (level_record _)) fun _ => .bind .get fun _ =>
    .bind (inStep_of_level (level_recordAll _)) fun _ => inStep_follow hW _

/-! ## Ticks and shutdown -/

omit hW in
theorem inStep_resetLink : Upholds (InStep awake) W.resetLink := by
  unfold resetLink
  refine .bind .get fun _ => .bind (inStep_of_level (level_remember fun _ => rfl)) fun _ => ?_
  apply Keeps.ite _ (.pure _)
  exact .bind (inStep_of_level (level_log _ _ _)) fun _ =>
    .bind (inStep_of_level level_disconnect) fun _ => inStep_unready

theorem inStep_enforceLiveness : Upholds (InStep awake) W.enforceLiveness := by
  unfold enforceLiveness
  refine .bind .get fun _ => .ite (.bind (inStep_of_level (level_record _)) fun _ => ?_) (.pure _)
  refine .bind (inStep_of_level (level_log _ _ _)) fun _ =>
    .bind (inStep_of_level (level_count fun _ => rfl)) fun _ => ?_
  exact .bind (inStep_of_level level_disconnect) fun _ => .bind inStep_unready fun _ =>
    inStep_explain hW _

theorem inStep_ensureConnected : Upholds (InStep true) W.ensureConnected := by
  unfold ensureConnected
  refine .bind (inStep_enforceLiveness hW) fun _ => .bind .get fun w =>
    .bind (inStep_of_level (level_record _)) fun _ => ?_
  apply Keeps.ite (.pure _)
  apply Keeps.ite (.pure _)
  exact .bind (inStep_of_level (level_remember fun _ => rfl)) fun _ =>
    .bind (inStep_of_level (level_attempt _)) fun _ => .bind (inStep_update hW) fun _ => .pure _

theorem inStep_maintain : Upholds (InStep true) W.maintain := by
  unfold maintain
  refine .bind .get fun w => .ite (.pure _) (.bind (inStep_ensureConnected hW) fun kept => ?_)
  exact .ite (.pure _) (.bind (inStep_of_level level_giveUp) fun _ => .pure _)

theorem inStep_tick : Upholds (InStep true) W.tick := by
  have rest (request : Option Message) (pending : List Message) : Upholds (InStep true) (do
      W.dispatch request pending
      W.publish true
      return true) :=
    .bind (inStep_of_level (level_dispatch _ _)) fun _ =>
      .bind (inStep_publish hW true) fun _ => .pure _
  unfold tick
  refine .bind .get fun _ => .ite (.pure _) ?_
  apply Keeps.bind (inStep_of_level clerical_level.takeWork)
  intro work
  refine .bind inStep_resetLink fun _ => .bind (inStep_update hW) fun _ =>
    .bind (inStep_maintain hW) fun kept => ?_
  cases kept with
  | true => exact rest _ _
  | false => exact rest _ _

/-- A shutdown turns both off at its end, whatever happened before. -/
theorem inStep_shutdown (polls : Nat) (w : World χ π) :
    Yields (W.shutdown polls) w fun _ w' => InStep false w' := by
  unfold shutdown
  refine (yields_bind _ _).2 fun _ w₁ _ => (yields_bind _ _).2 fun drained w₂ _ =>
    (yields_bind _ _).2 fun _ w₃ _ => ?_
  simp only [remember, record, count, yields_bind, yields_get, yields_modify]
  have told : Upholds (InStep false : World χ π → Prop) (do
      W.publish true
      log .info "session stopped" [Log.textField "session" w₃.session.run]) :=
    .bind (inStep_publish hW true) fun _ => inStep_of_level (level_log _ _ _)
  have off : InStep false (({ w₃ with
      session := { discardWork w₃.session with running := false, ready := false }
      metrics := { w₃.metrics with ready := false } } : World χ π).note .discarded) :=
    ⟨rfl, fun _ => rfl, Bool.noConfusion⟩
  have ended := upholds_iff.1 told _ off
  rw [yields_bind] at ended
  exact ended

/-! ## Runs -/

theorem inStep_step (h : InStep false w) (hs : W.LoopStep EnvironmentStep w w') :
    InStep false w' := by
  cases hs with
  | call c r hc => exact inStep_perform c w r w' hc h
  | tick more running ht =>
    have awake : InStep true w := { h with awake := fun _ => running }
    exact { inStep_tick hW w more w' ht awake with awake := nofun }
  | shutdown polls hp => exact inStep_shutdown hW polls w () w' hp
  | outside ho => exact h.level ho.level

/-- In every run of a session that ticks only while a run of its loop goes on, over any transport
that raises its notices only when it is updated: the gauge is 1 if and only if the session is ready,
and as long as the session does not run the gauge is 0 and the session is not ready. -/
theorem gauge_shows_readiness {w₀ : World χ π} (h₀ : W.Fresh w₀)
    (unset : w₀.metrics.ready = false) (h : ReflTransGen (W.LoopStep EnvironmentStep) w₀ w) :
    (Service.reading "ready" w.metrics = some 1 ↔ w.session.ready = true) ∧
      (w.session.running = false →
        Service.reading "ready" w.metrics = some 0 ∧ w.session.ready = false) := by
  have inStep : InStep false w := by
    induction h with
    | refl =>
      refine ⟨?_, fun _ => ?_, nofun⟩
      · rw [unset, h₀.session_eq]
      · rw [h₀.session_eq]
    | tail _ hs ih => exact inStep_step hW ih hs
  rw [Service.reading_ready, inStep.gauge]
  constructor
  · cases w.session.ready <;> simp
  · intro asleep
    have off := inStep.asleep asleep
    simp [off]

end Subscribers

theorem LoopStep.mono {E E' : World χ π → World χ π → Prop} (hE : ∀ w w', E w w' → E' w w')
    (h : W.LoopStep E w w') : W.LoopStep E' w w' := by
  cases h with
  | call c r h => exact .call c r h
  | tick more running h => exact .tick more running h
  | shutdown polls h => exact .shutdown polls h
  | outside h => exact .outside (hE _ _ h)

/-- A script whose ticks all happen while a run goes on is a run over any transport. -/
theorem aroundSteps_of_loop {ν : Type} {W : Wiring (Wired ν) π ι} {script : List Cue}
    {w w' : World (Wired ν) π} (h : W.loop script w = some w') :
    ReflTransGen (W.LoopStep EnvironmentStep) w w' :=
  ReflTransGen.mono (fun _ _ hs => hs.mono World.NetworkStep.environmentStep) _ _
    (loopSteps_of_loop h)

end Wiring

namespace Rehearsal

open Wiring

/-- A session gets a link, and two heartbeats on it. -/
def readied : List Cue :=
  [.call .start, .call .requestConnect, .tick, welcoming 0, .tick, beating 0, beating 0, .tick]

/-- The session is stopped. -/
def stopped : List Cue :=
  [.call .stop, .tick, .shutdown 1]

theorem gauge_shows_readiness_stopped :
    ∃ w w', ReflTransGen ((echoing modest).LoopStep EnvironmentStep) (opening modest) w ∧
      w.session.ready = true ∧ Service.reading "ready" w.metrics = some 1 ∧
      ReflTransGen ((echoing modest).LoopStep EnvironmentStep) w w' ∧ w'.session.running = false ∧
      Service.reading "ready" w'.metrics = some 0 ∧ w'.session.ready = false := by
  have played : (((echoing modest).loop readied (opening modest)).bind fun w =>
      ((echoing modest).loop stopped w).map fun w' =>
        (w.session.ready, w'.session.running)) = some (true, false) := by
    decide +kernel
  obtain ⟨w, hw, rest⟩ := Option.bind_eq_some_iff.1 played
  obtain ⟨w', hw', facts⟩ := Option.map_eq_some_iff.1 rest
  obtain ⟨ready, running⟩ := Prod.mk.inj facts
  have steps := aroundSteps_of_loop hw
  have steps' := aroundSteps_of_loop hw'
  have onlyCall := echoing_onlyCall modest EnvironmentStep
  have shown := gauge_shows_readiness onlyCall modest_fresh rfl steps
  have off := gauge_shows_readiness onlyCall modest_fresh rfl (steps.trans steps')
  exact ⟨w, w', steps, ready, shown.1.2 ready, steps', running, off.2 running⟩

end Rehearsal

end Teleop
