import Teleop.Proofs.Session.Attention
import Teleop.Proofs.Session.CoupledRuns

/-!
# Readiness over a datagram channel

A session over a datagram channel becomes ready at the first heartbeat that it takes in while the
link it came in on is still connected, and at most once on each link. At that moment its idle
message is handed over, and so is every idle message that is set while the session is ready; no
other idle message ever is.

* `Held`: the session is coupled with its channel and agrees with its history;
* `held_takeNotice`, `held_update`, `held_maintain`, `held_tick`, `held_shutdown`: everything that a
  session does keeps it so;
* `LoopStep`: the steps of a run whose ticks happen only inside the loop;
* `Wiring.ready_once_per_link`: the statement for all runs.
-/

namespace Teleop

open Relation

variable {χ ν π ι : Type}

namespace Wiring

open Act

theorem reports_taking (w : World χ π) (channel : χ) (events : List ChannelEvent) :
    w.Reports (w.taking channel events) := by
  refine ⟨⟨rfl, _, rfl, fun e he => ?_⟩, rfl⟩
  obtain ⟨e, -, rfl⟩ := List.mem_map.1 (List.mem_reverse.1 he)
  exact Event.report_ofChannel e

theorem NetworkStep.routine {w w' : World (Wired ν) π} (h : w.NetworkStep w') :
    w.Same Session.attention Event.routine w' := by
  cases h with
  | changed => exact ⟨rfl, [], by simp⟩
  | arrived a => exact (reporting_routine.around (reports_taking w _ _)).toSame
  | noted entry => exact ⟨rfl, [_], rfl, by simp [Event.routine]⟩

section Datagrams

variable {W : Wiring (Wired ν) π ι} {net : Network ν} {awake : Bool} {st : Standing}
  {ns : List (Nat × Notice)} {w w' : World (Wired ν) π}

theorem Attentive.doing (h : Attentive awake none st w)
    (hd : ReflTransGen (W.Doing World.NetworkStep) w w') : Attentive awake none st w' := by
  induction hd with
  | refl => exact h
  | tail _ hd ih =>
    cases hd with
    | call c r hc => exact attentive_perform c _ r _ hc ih
    | outside ho => exact ih.routine (NetworkStep.routine ho)

/-! ## Subscribers -/

section Subscribers

variable (hW : W.CallbacksOnlyCall World.NetworkStep)

include hW

theorem attentive_present (text : Text) :
    ∀ subscribers, Upholds (Attentive awake none st) (W.present text subscribers)
  | [] => .pure _
  | (_, s) :: rest => by
    have reacted : Upholds (Attentive awake none st) (W.react s text) :=
      fun w => (hW.react s text w).mono fun _ _ hd h => Attentive.doing h hd
    exact .bind (attentive_of_routine (routine_record rfl)) fun _ =>
      .bind reacted fun _ => attentive_present text rest

theorem attentive_publish (endOfTick : Bool) :
    Upholds (Attentive awake none st) (W.publish endOfTick) := by
  refine .bind .get fun w => ?_
  refine .bind (attentive_of_routine (routine_remember fun _ => rfl)) fun _ => ?_
  split
  · exact .pure _
  · exact .bind (attentive_of_routine (reporting_routine.log _ _ _)) fun _ =>
      attentive_present hW _ _

theorem attentive_explain (reason : Text) : Upholds (Attentive awake none st) (do
    remember fun s => { s with reason }
    W.publish false) :=
  .bind (attentive_of_routine (routine_remember fun _ => rfl)) fun _ => attentive_publish hW false

/-- A link ends. -/
theorem attentive_disconnected (link : Option Nat) (reason : Text)
    (h : Attentive awake none st w) :
    Yields (W.takeNotice link (.disconnected reason)) w fun _ w' =>
      Attentive awake none .away w' := by
  refine (yields_bind _ _).2 ((yields_modify _).2 ?_)
  have parting : Parting awake (w.note (.noticed link (.disconnected reason))) :=
    h.ended (.inr ⟨link, reason, rfl⟩)
  refine (yields_bind _ _).2 ((reporting_routine.log _ _ _ _).mono fun _ w₁ logged => ?_)
  refine (yields_bind _ _).2 ((parting_unready (parting.routine logged)).mono fun _ w₂ h₂ => ?_)
  exact upholds_iff.1 (attentive_explain hW reason) w₂ h₂

end Subscribers

/-! ## Notices -/

/-- A session that is coupled with its channel and agrees with its history. -/
structure Held (config : SessionConfig) (awake : Bool) (st : Standing) (ns : List (Nat × Notice))
    (w : World (Wired ν) π) : Prop where
  coupled : Coupled config {} st ns w
  attentive : Attentive awake none st w

theorem Held.changed {config : SessionConfig} (h : Held config awake st ns w) (calm : w.Calm w')
    (routine : w.Routine w') : Held config awake st ns w' :=
  ⟨h.coupled.calm calm, h.attentive.routine routine.toSame⟩

/-- A session that is held, whatever its link. -/
def HeldAtRest (config : SessionConfig) (awake : Bool) (w : World (Wired ν) π) : Prop :=
  ∃ st, Held config awake st [] w

variable {config : SessionConfig}

theorem held_of_calm {α : Type} {x : Act (Wired ν) π α} (calm : Keeps World.Calm x)
    (routine : Keeps World.Routine x) : Upholds (HeldAtRest config awake) x :=
  fun w => ((calm w).and (routine w)).mono fun _ _ h' ⟨st, h⟩ => ⟨st, h.changed h'.1 h'.2⟩

theorem held_log (level : Log.Level) (message : String) (fields : Log.Fields) :
    Upholds (HeldAtRest config awake) (log level message fields : Act (Wired ν) π Unit) :=
  held_of_calm (calm_log _ _ _) (reporting_routine.log _ _ _)

theorem held_count (f : Metrics → Metrics) :
    Upholds (HeldAtRest config awake) (count f : Act (Wired ν) π Unit) :=
  held_of_calm (calm_count _) (reporting_routine.count _)

variable (hnet : W.transport = net.transport) (hW : W.CallbacksOnlyCall World.NetworkStep)

include hnet hW

theorem held_publish (endOfTick : Bool) :
    Upholds (HeldAtRest config awake) (W.publish endOfTick) :=
  upholds_iff.2 fun w ⟨st, h⟩ => ((coupled_publish hnet hW endOfTick w).and
    (attentive_publish hW endOfTick w)).mono fun _ _ h' =>
      ⟨st, h'.1 h.coupled, h'.2 h.attentive⟩

omit hW in
/-- Without a connection the link that was up is closed. -/
theorem closed_of_coupled {link : Nat} (h : Coupled config {} (.up link) ns w)
    (lost : W.transport.connected w.channel = false) : .link (.closed link) ∈ w.history := by
  rcases h.told.of_up with up | away
  · obtain ⟨phase, -⟩ := Channel.standing_eq_up.1 up
    rw [hnet] at lost
    simp [Network.transport, Channel.connected, phase] at lost
  · exact (h.closed link rfl).resolve_left (by simp [away, Standing.link?])

theorem held_takeNotice {link : Nat} {n : Notice} (h : Held W.config awake st ((link, n) :: ns) w) :
    Yields (W.takeNotice (some link) n) w fun _ w' => ∃ st', Held W.config awake st' ns w' := by
  obtain ⟨coupled, attentive⟩ := h
  cases coupled.told with
  | cons heard told =>
    cases heard with
    | connected link session =>
      refine ((coupled_connected hnet coupled told).and
        (attentive_connected session attentive (coupled.unused link rfl))).mono ?_
      exact fun _ _ h' => ⟨_, h'.1, h'.2⟩
    | message link m =>
      obtain ⟨session, up⟩ := coupled.greeted link rfl
      refine ((coupled_message hnet coupled).and (attentive_message attentive
        ⟨_, up, rfl⟩ (closed_of_coupled hnet coupled))).mono ?_
      exact fun _ _ h' => ⟨_, h'.1, h'.2⟩
    | dropped link reason | ended link reason =>
      exact ((coupled_disconnected hnet hW coupled).and
        (attentive_disconnected hW _ _ attentive)).mono fun _ _ h' => ⟨_, h'.1, h'.2⟩

theorem held_follow (ns : List (Nat × Notice)) : ∀ {st : Standing} {w : World (Wired ν) π}
    {x : Wired ν}, Held W.config awake st ns { w with channel := x } →
      Yields (W.follow (Wired.raising (ns.map some) x)) w fun _ w' =>
        HeldAtRest W.config awake w' := by
  induction ns with
  | nil => exact fun h => (yields_modify _).2 ⟨_, h⟩
  | cons n ns ih =>
    intro st w x h
    refine (yields_bind _ _).2 ((yields_modify _).2 ((yields_bind _ _).2 ?_))
    refine (held_takeNotice hnet hW h).mono ?_
    rintro _ w' ⟨st', h'⟩
    exact (yields_bind _ _).2 (yields_get.2 (ih h'))

theorem held_update : Upholds (HeldAtRest W.config awake) W.update := by
  refine upholds_iff.2 fun w ⟨st, h⟩ => yields_update hnet fun u hu v hv => ?_
  obtain ⟨ns, hns, coupled⟩ := (h.coupled.calm (.noting (e := .update) rfl)).updated net hu
  have noted : Attentive awake none st (w.note .update) :=
    h.attentive.routine ⟨rfl, [_], rfl, by simp [Event.routine]⟩
  have updated : Held W.config awake st ns
      ((w.note .update).settling net (u.channel, u.events)) :=
    ⟨coupled, noted.reports (reports_taking _ _ _)⟩
  rw [hns]
  exact held_follow hnet hW ns (by rwa [hv])

/-! ## Dropping the link -/

omit hW in
theorem held_disconnect (h : Held config awake st [] w) :
    Yields W.disconnect w fun _ w' => Dropped config {} w' ∧ Parting awake w' :=
  (coupled_disconnect hnet h.coupled).and (parting_disconnect h.attentive)

omit hnet hW in
theorem held_unready (dropped : Dropped config {} w) (parting : Parting awake w) :
    Yields (setReady false : Act (Wired ν) π Unit) w fun _ w' => Held config awake .away [] w' :=
  (dropped.unready.and (parting_unready parting)).mono fun _ _ h' => ⟨h'.1, h'.2⟩

omit hW in
theorem held_resetLink : Upholds (HeldAtRest config awake) W.resetLink := by
  refine .bind .get fun _ => .bind (held_of_calm ?_ (routine_remember fun _ => rfl)) fun _ => ?_
  · exact calm_remember (fun _ hr => ⟨hr, rfl⟩) fun _ => id
  · refine .ite (.bind (held_log _ _ _) fun _ => upholds_iff.2 fun w ⟨st, h⟩ => ?_) (.pure _)
    refine (yields_bind _ _).2 ((held_disconnect hnet h).mono fun _ w₁ h₁ => ?_)
    exact (held_unready h₁.1 h₁.2).mono fun _ _ h' => ⟨_, h'⟩

theorem held_enforceLiveness : Upholds (HeldAtRest config awake) W.enforceLiveness := by
  have late : Upholds (HeldAtRest config awake) (record .overdue : Act (Wired ν) π Unit) :=
    held_of_calm (calm_record rfl) (routine_record rfl)
  refine .bind .get fun _ => .ite (.bind late fun _ => .bind (held_log _ _ _) fun _ =>
    .bind (held_count _) fun _ => upholds_iff.2 fun w ⟨st, h⟩ => ?_) (.pure _)
  refine (yields_bind _ _).2 ((held_disconnect hnet h).mono fun _ w₁ h₁ => ?_)
  refine (yields_bind _ _).2 ((held_unready h₁.1 h₁.2).mono fun _ w₂ h₂ => ?_)
  refine upholds_iff.1 (.bind ?_ fun _ => held_publish hnet hW false) w₂ ⟨_, h₂⟩
  refine held_of_calm ?_ (routine_remember fun _ => rfl)
  exact calm_remember (fun _ hr => ⟨hr, rfl⟩) fun _ => id

/-! ## Ticks -/

theorem held_ensureConnected (h : HeldAtRest W.config true w)
    (wanted : w.session.connectRequested = true) :
    Yields W.ensureConnected w fun kept w' => HeldAtRest W.config true w' ∧
      (kept = false → Held W.config true .away [] w') := by
  have onlyMove := hW.onlyMove fun w w' h => (World.NetworkStep.environmentStep w w' h).passing
  refine (yields_bind _ _).2 (((upholds_iff.1 (held_enforceLiveness hnet hW) w h).and
    (gentle_moves.enforceLiveness onlyMove w)).mono ?_)
  rintro _ w₁ ⟨⟨st₁, h₁⟩, moves⟩
  refine (yields_bind _ _).2 (yields_get.2 ((yields_bind _ _).2 ((yields_modify _).2 ?_)))
  have h₂ := h₁.changed (.noting (e := .checked (W.transport.active w₁.channel)) rfl)
    ⟨⟨rfl, [_], rfl, by simp [Event.routine]⟩, rfl⟩
  refine (yields_ite _ _).2 ⟨fun _ => (yields_pure _).2 ⟨⟨_, h₂⟩, Bool.noConfusion⟩, fun idle => ?_⟩
  obtain rfl : st₁ = .away := by
    rw [← h₁.coupled.standing, Channel.standing_eq_away]
    rw [hnet] at idle
    exact Option.not_isSome_iff_eq_none.1 idle
  refine (yields_ite _ _).2 ⟨fun _ => (yields_pure _).2 ⟨⟨_, h₂⟩, fun _ => h₂⟩, fun _ => ?_⟩
  refine (yields_bind _ _).2 ((yields_modify _).2 ((yields_bind _ _).2 ?_))
  -- There is no link, so what is known of the heartbeats is not about the one that is asked for.
  have h₃ : Held W.config true .away [] _ := h₂.changed
    (.remembering (f := fun s => { s with tries := s.tries + 1 }) (fun h => ⟨h, rfl⟩) id)
    ⟨⟨rfl, [], by simp⟩, rfl⟩
  refine ((coupled_attempt hnet _ h₃.coupled (moves.wanting wanted)).and
    (routine_attempt _ _)).mono ?_
  rintro _ w₄ ⟨⟨st₄, down, coupled⟩, routine⟩
  have h₄ : Held W.config true st₄ [] w₄ :=
    ⟨coupled, (h₃.attentive.routine routine.toSame).asked down⟩
  refine (yields_bind _ _).2 ((upholds_iff.1 (held_update hnet hW) w₄ ⟨_, h₄⟩).mono ?_)
  exact fun _ w₅ h₅ => (yields_pure _).2 ⟨h₅, Bool.noConfusion⟩

omit hnet hW in
/-- A session without a link may cease to want one. -/
theorem held_giveUp (h : Held config awake .away [] w) :
    Yields (giveUp : Act (Wired ν) π Unit) w fun _ w' => HeldAtRest config awake w' := by
  refine (yields_bind _ _).2 ((yields_modify _).2 ?_)
  have discarded : Held config awake .away [] (w.remember discardWork) :=
    ⟨h.coupled.of_away rfl rfl rfl id, h.attentive.routine ⟨rfl, [], by simp⟩⟩
  refine upholds_iff.1 (.bind ?_ fun _ => .bind .get fun _ => .bind (held_count _) fun _ =>
    held_log _ _ _) _ ⟨_, discarded⟩
  exact held_of_calm (calm_record rfl) (routine_record rfl)

theorem held_maintain : Upholds (HeldAtRest W.config true) W.maintain := by
  refine upholds_iff.2 fun w h => (yields_bind _ _).2 (yields_get.2 ?_)
  cases wanted : w.session.connectRequested with
  | false => exact (yields_pure _).2 h
  | true =>
    refine (yields_bind _ _).2 ((held_ensureConnected hnet hW h wanted).mono ?_)
    rintro kept w₁ ⟨h₁, spent⟩
    cases kept with
    | true => exact (yields_pure _).2 h₁
    | false =>
      refine (yields_bind _ _).2 ((held_giveUp (spent rfl)).mono fun _ _ h' => ?_)
      exact (yields_pure _).2 h'

omit hW in
theorem held_dispatch (request : Option Message) (pending : List Message) :
    Upholds (HeldAtRest config awake) (W.dispatch request pending) :=
  upholds_iff.2 fun w ⟨st, h⟩ => ((coupled_dispatch hnet request pending w).and
    (routine_dispatch request pending w)).mono fun _ _ h' =>
      ⟨st, h'.1 h.coupled, h.attentive.routine h'.2.toSame⟩

theorem held_tick : Upholds (HeldAtRest W.config true) W.tick := by
  have rest (request : Option Message) (pending : List Message) :
      Upholds (HeldAtRest W.config true) (do
        W.dispatch request pending
        W.publish true
        return true) :=
    .bind (held_dispatch hnet request pending) fun _ =>
      .bind (held_publish hnet hW true) fun _ => .pure _
  refine .bind .get fun _ => .ite (.pure _) ?_
  refine .bind (held_of_calm clerical_calm.takeWork clerical_routine.takeWork) fun work => ?_
  refine .bind (held_resetLink hnet) fun _ => .bind (held_update hnet hW) fun _ => ?_
  refine .bind (held_maintain hnet hW) fun kept => ?_
  cases kept with
  | true => exact rest _ _
  | false => exact rest _ _

/-! ## Shutdown -/

omit hW in
/-- Without a link an update brings no notices. -/
theorem parting_update (dropped : Dropped config {} w) (parting : Parting awake w) :
    Yields W.update w fun _ w' => Parting awake w' := by
  refine yields_update hnet fun u hu v hv => ?_
  obtain ⟨ns, hns, coupled⟩ := (dropped.calm (.noting (e := .update) rfl)).updated net hu
  obtain ⟨rfl, -⟩ := coupled.told.of_away
  rw [hns]
  refine (yields_modify _).2 ?_
  rw [hv]
  -- What is left of the update are reports.
  refine parting.routine (IsTrans.trans _ (w.note .update) _ ?_ ?_)
  · exact ⟨⟨rfl, [_], rfl, by simp [Event.routine]⟩, rfl⟩
  · exact reporting_routine.around (reports_taking _ _ _)

omit hW in
theorem parting_drainTransport (polls : Nat) :
    Upholds (fun w => Dropped config {} w ∧ Parting awake w) (W.drainTransport polls) := by
  have poll : Upholds (fun w => Dropped config {} w ∧ Parting awake w) W.poll := by
    refine upholds_iff.2 fun w ⟨dropped, parting⟩ => (yields_bind _ _).2 ?_
    refine ((upholds_iff.1 (dropped_update hnet) w dropped).and
      (parting_update hnet dropped parting)).mono fun _ w₁ h₁ => ?_
    refine (yields_bind _ _).2 (yields_get.2 ?_)
    rw [hnet]
    exact yields_adopt.2 h₁
  induction polls with
  | zero => exact .bind poll fun _ => .pure _
  | succ polls ih => exact .bind poll fun _ => .ite ih (.pure _)

theorem held_shutdown (polls : Nat) (h : HeldAtRest W.config awake w) :
    Yields (W.shutdown polls) w fun _ w' => HeldAtRest W.config false w' := by
  obtain ⟨st, h⟩ := h
  refine (yields_bind _ _).2 ((held_disconnect hnet h).mono fun _ w₁ h₁ => ?_)
  have drained := upholds_iff.1 (parting_drainTransport hnet polls) w₁ h₁
  refine (yields_bind _ _).2 (drained.mono fun drained w₂ h₂ => ?_)
  have noted : Keeps World.Routine (W.noteDrain drained) :=
    .ite (.pure _) (reporting_routine.log _ _ _)
  have dropped := upholds_iff.1 (dropped_noteDrain (W := W) drained) w₂ h₂.1
  refine (yields_bind _ _).2 ((dropped.and (noted w₂)).mono ?_)
  rintro _ w₃ ⟨dropped, routine⟩
  refine (yields_bind _ _).2 ((yields_modify _).2 ?_)
  have stopped : Held W.config false .away [] (w₃.remember fun s =>
      { discardWork s with running := false, ready := false }) :=
    ⟨dropped.of_away rfl rfl rfl nofun, (h₂.2.routine routine).stopped⟩
  refine upholds_iff.1 (.bind ?_ fun _ => .bind .get fun _ => .bind (held_count _) fun _ =>
    .bind (held_publish hnet hW true) fun _ => held_log _ _ _) _ ⟨_, stopped⟩
  exact held_of_calm (calm_record rfl) (routine_record rfl)

end Datagrams

/-! ## Runs -/

/-- One step of a run whose ticks happen only inside the loop, between a start and the end of a
shutdown. -/
inductive LoopStep (W : Wiring χ π ι) (E : World χ π → World χ π → Prop) :
    World χ π → World χ π → Prop
  | call {w w' : World χ π} (c : Call) (r : CallReply) (h : (W.perform c).run w = .ok (r, w')) :
    LoopStep W E w w'
  | tick {w w' : World χ π} (more : Bool) (running : w.session.running = true)
    (h : W.tick.run w = .ok (more, w')) : LoopStep W E w w'
  | shutdown {w w' : World χ π} (polls : Nat) (h : (W.shutdown polls).run w = .ok ((), w')) :
    LoopStep W E w w'
  | outside {w w' : World χ π} (h : E w w') : LoopStep W E w w'

section Runs

variable {W : Wiring (Wired ν) π ι} {net : Network ν} (hnet : W.transport = net.transport)
  (hW : W.CallbacksOnlyCall World.NetworkStep)

include hnet hW

theorem held_step {w w' : World (Wired ν) π} (h : HeldAtRest W.config false w)
    (hs : W.LoopStep World.NetworkStep w w') : HeldAtRest W.config false w' := by
  obtain ⟨st, h⟩ := h
  cases hs with
  | call c r hc =>
    exact ⟨st, coupled_perform hnet c w r w' hc h.coupled,
      attentive_perform c w r w' hc h.attentive⟩
  | tick more running ht =>
    -- Nothing ends the run during a tick, so it is known to go on when a link is asked for.
    have awake : Attentive true none st w := { h.attentive with running := fun _ => running }
    obtain ⟨st', h'⟩ := held_tick hnet hW w more w' ht ⟨st, h.coupled, awake⟩
    exact ⟨st', h'.coupled, { h'.attentive with running := nofun }⟩
  | shutdown polls hp => exact held_shutdown hnet hW polls ⟨st, h⟩ () w' hp
  | outside ho =>
    exact ⟨st, h.coupled.calm ho.calm, h.attentive.routine (NetworkStep.routine ho)⟩

omit hnet hW in
theorem Fresh.held {w : World (Wired ν) π} (h : W.Fresh w) {c : ChannelConfig}
    (hc : w.channel.channel = Channel.new c) : Held W.config false .away [] w := by
  refine ⟨h.coupled hc, ?_, ?_, ?_, nofun, nofun, fun _ => rfl⟩
  · rw [h.history]
    exact .nil
  · rw [h.history, h.session_eq]
    rfl
  · rw [h.history, h.session_eq]
    rfl

/-- In every run of a session over a datagram channel that nobody else drives, and that ticks only
while a run of its loop goes on: the session becomes ready at most once on each link, namely at the
first heartbeat that it takes in while the link is connected; then the idle message that is
registered is handed over at once, and so is each one that is set while the session is ready; no
other idle message is handed over. -/
theorem ready_once_per_link {w₀ w : World (Wired ν) π} (h₀ : W.Fresh w₀) {c : ChannelConfig}
    (hc : w₀.channel.channel = Channel.new c)
    (h : ReflTransGen (W.LoopStep World.NetworkStep) w₀ w) :
    Each Dutiful w.history ∧ (watch w.history).turned.Nodup ∧
      w.session.ready = (watch w.history).ready ∧ w.session.idle = (watch w.history).idle ∧
      (watch w.history).hearing = none ∧ (watch w.history).handed = (watch w.history).due := by
  have held : HeldAtRest W.config false w := by
    induction h with
    | refl => exact ⟨_, h₀.held hc⟩
    | tail _ hs ih => exact held_step hnet hW ih hs
  obtain ⟨st, -, attentive⟩ := held
  obtain ⟨each, hearing, settled, tidy, -⟩ := attentive.composed
  exact ⟨each, tidy.nodup, attentive.ready, attentive.idle, hearing, by simpa using settled⟩

end Runs

/-- Plays a script whose ticks all happen while a run goes on. -/
def loop (W : Wiring (Wired ν) π ι) : List Cue → World (Wired ν) π → Option (World (Wired ν) π)
  | [], w => some w
  | cue :: rest, w =>
    if cue = .tick → w.session.running = true then (W.cued w cue).bind (W.loop rest) else none

theorem loopSteps_of_loop {W : Wiring (Wired ν) π ι} :
    ∀ {script : List Cue} {w w' : World (Wired ν) π}, W.loop script w = some w' →
      ReflTransGen (W.LoopStep World.NetworkStep) w w'
  | [], _, _, h => by
    cases h
    exact .refl
  | _ :: _, _, _, h => by
    unfold loop at h
    split at h
    · next running =>
      obtain ⟨w₁, h₁, h₂⟩ := Option.bind_eq_some_iff.1 h
      refine .head ?_ (loopSteps_of_loop h₂)
      cases cued_cases h₁ with
      | call c r h => exact .call c r h
      | tick more h => exact .tick more (running rfl) h
      | shutdown polls h => exact .shutdown polls h
      | outside _ h => exact .outside h
    · cases h

end Wiring

namespace Rehearsal

open Wiring

/-- The message with this payload. -/
def idling (payload : Bytes) : Message :=
  .raw applicationTag payload

/-- A session has a first link with two heartbeats and sets another idle message then. After a reset
its second link ends as soon as a heartbeat comes in. The third one gets two heartbeats again. -/
def relinked : List Cue :=
  [.call (.setIdle (some (idling [1]))), .call .start, .call .requestConnect, .tick, welcoming 0,
    .tick, beating 0, beating 0, .tick, .call (.setIdle (some (idling [2]))), .call .reset, .tick,
    welcoming 1, .tick, beating 1, fromPeer 1 Frame.bye, .call .requestConnect, .tick, welcoming 2,
    .tick, beating 2, .tick, beating 2, .tick]

/-- The session became ready once on each of the links that a heartbeat counted on, and each time it
handed over the idle message of that moment. -/
theorem ready_once_per_link_relinked :
    ∃ w, ReflTransGen ((echoing modest).LoopStep World.NetworkStep) (opening modest) w ∧
      Each Dutiful w.history ∧ (watch w.history).counted = [0, 0, 2, 2] ∧
      (watch w.history).turned = [0, 2] ∧ w.session.ready = true ∧
      w.session.idle = some (idling [2]) ∧
      (watch w.history).handed = [idling [1], idling [2], idling [2]] := by
  have played : ((echoing modest).loop relinked (opening modest)).map (fun w =>
      watch w.history == { watch w.history with
        ready := true, idle := some (idling [2]), counted := [0, 0, 2, 2], turned := [0, 2]
        due := [idling [1], idling [2], idling [2]] }) = some true := by
    decide +kernel
  obtain ⟨w, hw, facts⟩ := Option.map_eq_some_iff.1 played
  have seen := eq_of_beq facts
  have steps := loopSteps_of_loop hw
  obtain ⟨each, -, ready, idle, -, settled⟩ :=
    ready_once_per_link rfl (echoing_onlyCall modest _) modest_fresh rfl steps
  refine ⟨w, steps, each, ?_, ?_, ?_, ?_, ?_⟩
  · rw [seen]
  · rw [seen]
  · rw [ready, seen]
  · rw [idle, seen]
  · rw [settled, seen]

end Rehearsal

end Teleop
