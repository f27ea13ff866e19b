import Teleop.Proofs.Session.Liveness
import Teleop.Proofs.Session.Reasons

/-!
# The status text tells the state

The state of a session and its status text are worked out separately, the state on demand and the
text when it is shown. After a tick the two agree: what a tick does last is to show the status, and
subscribers change nothing that the state depends on.

* `SessionState.text`: the text for a state, given the latest reason of a disconnect;
* `Wiring.CallbacksKeepRunAndLink`: what subscribers and interruptions may do;
  `CallbacksKeepRunAndLink.of_steadfast`: over a transport whose link does not change when a message
  is sent, it is enough that subscribers only call the session;
* `Wiring.Since`: where the status was last shown at the end of a tick or a shutdown;
* `Wiring.status_tells_state`: the statement for all runs.
-/

namespace Teleop

open Relation

variable {χ ν π ι : Type}

/-- The text for a state; without a link, it is the latest reason if there is one. -/
def SessionState.text (reason? : Option Text) : SessionState → Text
  | lagging => Status.lagging
  | ready => Status.connected
  | waitingForHeartbeat => Status.waiting
  | connecting => Status.connecting
  | disconnected =>
    match reason? with
    | none | some [] => Status.disconnected
    | some reason => reason

/-- What the state and the status text depend on, of what a session remembers. -/
def Session.told (s : Session) : Bool × Instant × Text × Text :=
  (s.ready, s.lastHeartbeat, s.reason, s.status.last)

/-- While time stands still, nothing changes that the state and the status text depend on, apart
from the link. -/
structure World.Settled (w w' : World χ π) : Prop where
  same : w.Same Session.told Event.silent w'
  clock : w'.clock = w.clock

instance : IsPreorder (World χ π) World.Settled where
  refl w := ⟨Std.Refl.refl w, rfl⟩
  trans _ _ _ h h' := ⟨h.same.trans h'.same, h'.clock.trans h.clock⟩

theorem World.Same.silent {w w' : World χ π} (h : w.Same Session.told Event.silent w') :
    w.Silent w' :=
  ⟨congrArg (·.2.2.1) h.part, h.journal⟩

/-- Sending a message changes neither whether there is a link nor whether it is up. -/
def Transport.Steadfast (T : Transport χ ι) : Prop :=
  ∀ m c r, T.send m c = .ok r → T.active r.channel = T.active c ∧
    T.connected r.channel = T.connected c

namespace Wiring

open Act

variable {W : Wiring χ π ι} {w w' : World χ π}

theorem text_facts {reason? : Option Text} (h : w.session.reason = reason?.getD []) (last : Text) :
    (W.facts w).text last = (W.state w).text reason? := by
  simp only [StatusFacts.text, facts, state, SessionState.derive, h]
  cases W.lagging w with
  | true => rfl
  | false =>
    cases W.transport.connected w.channel with
    | true => cases w.session.ready <;> rfl
    | false =>
      cases W.transport.active w.channel with
      | true => rfl
      | false =>
        -- Without a reason the text does not depend on the one shown before.
        rcases reason? with _ | _ | ⟨b, reason⟩ <;> simp [SessionState.text]

section CallbacksKeepRunAndLink

variable (W)

/-- Whether there is a link and whether it is up. -/
def link (w : World χ π) : Bool × Bool :=
  (W.transport.active w.channel, W.transport.connected w.channel)

def SameLink (w w' : World χ π) : Prop :=
  W.link w' = W.link w

instance : IsPreorder (World χ π) W.SameLink where
  refl _ := rfl
  trans _ _ _ h h' := Eq.trans h' h

/-- A call other than a start, or something that happens outside. -/
inductive Deed (E : World χ π → World χ π → Prop) : World χ π → World χ π → Prop
  | call {w w' : World χ π} (c : Call) (hc : c ≠ .start) (r : CallReply)
    (h : (W.perform c).run w = .ok (r, w')) : Deed E w w'
  | outside {w w' : World χ π} (h : E w w') : Deed E w w'

/-- Subscribers do nothing but call the session, and never start it; interruptions may also bring
notices. The link stays as it is while the status is shown. -/
structure CallbacksKeepRunAndLink : Prop where
  react : ∀ s t, Keeps (ReflTransGen (W.Deed EnvironmentStep)) (W.react s t)
  interrupt : ∀ i, Keeps (ReflTransGen (W.Doing W.EnvironmentOrNotice)) (W.interrupt i)
  link : Keeps W.SameLink (W.publish true)

end CallbacksKeepRunAndLink

/-! ## Calls -/

section Calls

variable {R : World χ π → World χ π → Prop} [IsPreorder (World χ π) R]
  (noted : ∀ e : Event, e.silent = true → Keeps R (record e : Act χ π Unit))
  (kept : ∀ (w : World χ π) (f : Session → Session), (f w.session).told = w.session.told →
    R w (w.remember f))
  (sent : ∀ label m, Keeps R (W.send label m))

include noted kept sent

/-- A call other than a start records, remembers and sends. -/
theorem perform_keeps {c : Call} (hc : c ≠ .start) : Keeps R (W.perform c) := by
  have keep {f : Session → Session} (h : ∀ s, (f s).told = s.told) :
      Keeps R (remember f : Act χ π Unit) :=
    fun w => (yields_modify _).2 (kept w f (h w.session))
  have want : Keeps R (requestConnect : Act χ π Unit) :=
    .bind (noted _ rfl) fun _ => keep fun _ => rfl
  have request (m : Option Message) : Keeps R (setRequest m : Act χ π Unit) :=
    .bind (noted _ rfl) fun _ => .bind (keep fun _ => rfl) fun _ => want
  have built (b : Message.Built) : Keeps R (requestBuilt b : Act χ π CallReply) :=
    .ite (.bind (request _) fun _ => .pure _) (.bind (.pure _) fun _ => .pure _)
  have look (number : Nat) : Keeps R (queue number : Act χ π Queue) := by
    refine .bind .get fun w => ?_
    split
    · exact .pure _
    · exact .throw _
  have change (number : Nat) (f : Queue → Queue) : Keeps R (changeQueue number f : Act χ π Unit) :=
    keep fun _ => rfl
  cases c with
  | start => exact absurd rfl hc
  | stop =>
    refine .bind (keep fun s => ?_) fun _ => .pure _
    split <;> rfl
  | reset => exact .bind (keep fun _ => rfl) fun _ => .pure _
  | requestConnect => exact .bind want fun _ => .pure _
  | setRequest m => exact .bind (request m) fun _ => .pure _
  | sendAnimation name => exact built _
  | readAnimationFile path => exact built _
  | setIdle m =>
    exact .bind (.bind (keep fun _ => rfl) fun _ => .bind .get fun _ =>
      .bind (noted _ rfl) fun _ => .ite (sent _ _) (.pure _)) fun _ => .pure _
  | send m =>
    refine .bind (.bind .get fun _ => .bind (.lift _) fun _ => .bind (noted _ rfl) fun _ =>
      .bind (keep fun _ => rfl) fun _ => .bind (.ite ?_ (.pure _)) fun _ => want) fun _ => .pure _
    exact .bind (noted _ rfl) fun _ => noted _ rfl
  | createQueue interval =>
    exact .bind (.bind .get fun _ => .bind (keep fun _ => rfl) fun _ => .pure _) fun _ => .pure _
  | putBatch number batch =>
    exact .bind (.bind (look _) fun _ => .ite (.bind (noted _ rfl) fun _ =>
      .bind (change _ _) fun _ => want) (.pure _)) fun _ => .pure _
  | clearQueue number =>
    exact .bind (look _) fun _ => .bind (noted _ rfl) fun _ => .bind (change _ _) fun _ => .pure _
  | closeQueue number =>
    exact .bind (look _) fun _ => .bind (noted _ rfl) fun _ => .bind (change _ _) fun _ => .pure _
  | subscribe s =>
    refine .bind (fun w => ?_) fun _ => .pure _
    refine (yields_bind _ _).2 (yields_get.2 ((yields_bind _ _).2 ((yields_modify _).2 ?_)))
    exact (yields_pure _).2 (kept w (fun m => { m with status := (w.session.status.add s).2 }) rfl)
  | unsubscribe id => exact .bind (keep fun _ => rfl) fun _ => .pure _

end Calls

/-! ## What subscribers do -/

theorem told_perform {c : Call} (hc : c ≠ .start) :
    Keeps (World.Same Session.told Event.silent) (W.perform c) :=
  perform_keeps (fun _ => silent_record) (fun _ _ h => ⟨h, [], rfl, by simp⟩) silent_send hc

theorem silent_perform (c : Call) : Keeps World.Silent (W.perform c) := by
  by_cases hc : c = .start
  · subst hc
    exact .bind silent_start fun _ => .pure _
  · exact fun w => (told_perform hc w).mono fun _ _ h => h.silent

theorem Deed.told (h : ReflTransGen (W.Deed EnvironmentStep) w w') :
    w.Same Session.told Event.silent w' := by
  induction h with
  | refl => exact Std.Refl.refl w
  | tail _ hd ih =>
    refine ih.trans ?_
    cases hd with
    | call c hc r h => exact told_perform hc _ r _ h
    | outside h => exact h.same

theorem EnvironmentOrNotice.recalls (react : ∀ s t, Keeps World.Silent (W.react s t))
    (h : W.EnvironmentOrNotice w w') : w.Recalls w' := by
  cases h with
  | environment h => exact World.Silent.recalls h.same
  | notice link n h => exact recalls_takeNotice react link n _ _ _ h

theorem CallbacksKeepRunAndLink.told (hW : W.CallbacksKeepRunAndLink) (s : Subscriber) (t : Text) :
    Keeps (World.Same Session.told Event.silent) (W.react s t) :=
  fun w => (hW.react s t w).mono fun _ _ => Deed.told

theorem CallbacksKeepRunAndLink.recalling (hW : W.CallbacksKeepRunAndLink) : W.Recalling := by
  have react (s : Subscriber) (t : Text) : Keeps World.Silent (W.react s t) :=
    fun w => (hW.told s t w).mono fun _ _ h => h.silent
  refine ⟨react, fun i w => (hW.interrupt i w).mono fun _ w' h => ?_⟩
  induction h with
  | refl => exact Std.Refl.refl w
  | tail _ hd ih =>
    refine IsTrans.trans _ _ _ ih ?_
    cases hd with
    | call c r h => exact World.Silent.recalls (silent_perform c _ r _ h)
    | outside h => exact h.recalls react

theorem Recalling.steadily (hW : W.Recalling) (fault : Fault) : (W.steadily fault).Recalling where
  react s t w := (keeps_atOnce (hW.react s t) fault w).mono fun _ _ h => h.1
  interrupt i w := (keeps_atOnce (hW.interrupt i) fault w).mono fun _ _ h => h.1

/-! A transport whose link does not change when a message is sent -/

section Steadfast

variable (hT : W.transport.Steadfast)

include hT

theorem sameLink_send (label : Label) (m : Option Message) : Keeps W.SameLink (W.send label m) := by
  have aside {f : World χ π → World χ π} (h : ∀ w, (f w).channel = w.channel) :
      Keeps W.SameLink (modify f : Act χ π Unit) :=
    fun w => (yields_modify _).2 (by rw [SameLink, link, link, h])
  refine fun w => (yields_bind _ _).2 (yields_get.2 ((yields_bind _ _).2 ((yields_lift _).2 ?_)))
  intro reply sent
  obtain ⟨active, connected⟩ := hT m w.channel reply sent
  have adopted : W.SameLink w (w.taking reply.channel reply.events) := Prod.ext active connected
  refine (yields_bind _ _).2 (yields_adopt.2 (Yields.mono ((?_ : Keeps W.SameLink _) _)
    fun _ _ h => IsTrans.trans _ _ _ adopted h))
  refine .bind (aside fun _ => rfl) fun _ => ?_
  split
  · exact aside fun _ => rfl
  · refine .bind (aside fun _ => rfl) fun _ => ?_
    split
    · exact .throw _
    · exact aside fun _ => rfl

theorem CallbacksKeepRunAndLink.of_steadfast
    (react : ∀ s t, Keeps (ReflTransGen (W.Deed fun w w' => EnvironmentStep w w' ∧ W.SameLink w w'))
      (W.react s t))
    (interrupt : ∀ i, Keeps (ReflTransGen (W.Doing W.EnvironmentOrNotice)) (W.interrupt i)) :
    W.CallbacksKeepRunAndLink where
  react s t w := (react s t w).mono fun _ _ h => ReflTransGen.mono (fun _ _ hd => by
    cases hd with
    | call c hc r h => exact .call c hc r h
    | outside h => exact .outside h.1) _ _ h
  interrupt := interrupt
  link := by
    -- Subscribers reach the transport only through the messages that their calls send.
    have noted (e : Event) : Keeps W.SameLink (record e : Act χ π Unit) :=
      fun _ => (yields_modify _).2 rfl
    refine fun w => (publish_yields (fun e _ => noted e) (fun s t w => ?_) true w).mono
      fun _ _ h => h
    refine (react s t w).mono fun _ w' h => ?_
    induction h with
    | refl => exact Std.Refl.refl w
    | tail _ hd ih =>
      refine IsTrans.trans _ _ _ ih ?_
      cases hd with
      | call c hc r h =>
        exact perform_keeps (fun e _ => noted e) (fun _ _ _ => rfl) (sameLink_send hT) hc _ r _ h
      | outside h => exact h.2

end Steadfast

/-! ## Ticks that show the status -/

section Since

variable (W)

/-- A tick that lets the loop go on, or a shutdown: both show the status at their end. -/
inductive Concludes : World χ π → World χ π → Prop
  | tick {w w' : World χ π} (h : W.tick.run w = .ok (true, w')) : Concludes w w'
  | shutdown {w w' : World χ π} (polls : Nat) (h : (W.shutdown polls).run w = .ok ((), w')) :
    Concludes w w'

/-- Any other step. -/
inductive Lull (E : World χ π → World χ π → Prop) : World χ π → World χ π → Prop
  | call {w w' : World χ π} (c : Call) (r : CallReply) (h : (W.perform c).run w = .ok (r, w')) :
    Lull E w w'
  | tick {w w' : World χ π} (h : W.tick.run w = .ok (false, w')) : Lull E w w'
  | outside {w w' : World χ π} (h : E w w') : Lull E w w'

/-- In a run from `w₀` to `w`, the status was last shown at the end of a tick or of a shutdown in
`v`, or never, and then `v` is `w₀`. -/
structure Since (E : World χ π → World χ π → Prop) (w₀ v w : World χ π) : Prop where
  shown : v = w₀ ∨ ∃ u, W.Reaches E w₀ u ∧ W.Concludes u v
  lull : ReflTransGen (W.Lull E) v w

variable {W} {w₀ v : World χ π}

theorem Reaches.exists_since {E : World χ π → World χ π → Prop} (h : W.Reaches E w₀ w) :
    ∃ v, W.Since E w₀ v w := by
  induction h with
  | refl => exact ⟨w₀, .inl rfl, .refl⟩
  | tail run step ih =>
    obtain ⟨v, shown, lull⟩ := ih
    cases step with
    | call c r h => exact ⟨v, shown, lull.tail (.call c r h)⟩
    | outside h => exact ⟨v, shown, lull.tail (.outside h)⟩
    | shutdown polls h => exact ⟨_, .inr ⟨_, run, .shutdown polls h⟩, .refl⟩
    | tick more h =>
      cases more with
      | true => exact ⟨_, .inr ⟨_, run, .tick h⟩, .refl⟩
      | false => exact ⟨v, shown, lull.tail (.tick h)⟩

theorem Concludes.reason (hW : W.Recalling) (h : W.Concludes w w') : w'.session.reason = [] := by
  cases h with
  | shutdown polls h => exact hW.shutdown polls w _ _ h
  | tick h =>
    obtain ⟨more, _⟩ | ⟨_, w₁, _, shown⟩ := hW.tick w _ _ h
    · cases more
    · exact hW.publish w₁ _ _ shown

theorem Lull.recalls (hW : W.Recalling) (h : W.Lull W.EnvironmentOrNotice w w') : w.Recalls w' := by
  cases h with
  | call c r h => exact World.Silent.recalls (silent_perform c _ r _ h)
  | outside h => exact h.recalls hW.react
  | tick h =>
    obtain ⟨_, rfl⟩ | ⟨more, _⟩ := hW.tick w _ _ h
    · exact Std.Refl.refl _
    · cases more

/-- No reason is older than the status that was last shown at the end of a tick. -/
theorem Since.reason (hW : W.Recalling) (h₀ : W.Fresh w₀)
    (h : W.Since W.EnvironmentOrNotice w₀ v w) : v.session.reason = [] ∧ v.Recalls w := by
  obtain ⟨shown, lull⟩ := h
  constructor
  · rcases shown with rfl | ⟨u, _, concluded⟩
    · rw [h₀.session_eq]
    · exact concluded.reason hW
  · induction lull with
    | refl => exact Std.Refl.refl v
    | tail _ step ih => exact IsTrans.trans _ _ _ ih (step.recalls hW)

end Since

/-- The status shown at the end of a tick, while time stands still. -/
theorem CallbacksKeepRunAndLink.closing (hW : W.CallbacksKeepRunAndLink) (fault : Fault)
    (shown : ((W.steadily fault).publish true).run w = .ok ((), w')) :
    (W.published true w).Settled w' ∧ W.SameLink w w' := by
  have noted (e : Event) (he : e.silent = true) : Keeps World.Settled (record e : Act χ π Unit) :=
    fun w => (yields_modify _).2 ⟨silent_record he w _ _ rfl, rfl⟩
  refine ⟨publish_yields (W := W.steadily fault) noted (fun s t w => ?_) true w _ _ shown, ?_⟩
  · exact (keeps_atOnce (hW.told s t) fault w).mono fun _ _ h => ⟨h.1, h.2⟩
  · exact hW.link w _ _ (steadily_publish W fault true w _ _ shown)

theorem state_of_settled (h : w.Settled w') (link : W.SameLink w w') : W.state w' = W.state w := by
  have told := h.same.part
  simp only [Session.told, Prod.mk.injEq] at told
  simp only [SameLink, Wiring.link, Prod.mk.injEq] at link
  obtain ⟨ready, beat, _⟩ := told
  obtain ⟨active, connected⟩ := link
  rw [state, state, lagging, lagging, ready, beat, h.clock, active, connected]

variable {w₀ : World χ π}

/-- After a tick during which time stands still, the text shown last is the one for the state. If
there is no link, it is the latest reason that has come up since the status was last shown at the
end of a tick; so a reason is shown for one tick only. -/
theorem status_tells_state (hW : W.CallbacksKeepRunAndLink) (h₀ : W.Fresh w₀)
    (h : W.Reaches W.EnvironmentOrNotice w₀ w) :
    (∃ v, W.Since W.EnvironmentOrNotice w₀ v w) ∧
    ∀ v w', W.Since W.EnvironmentOrNotice w₀ v w → W.tick.run w = .ok (true, w') → W.Steady w →
      w'.session.status.last = (W.state w').text (lastReason? (w'.since v)) ∧
      ((∀ e ∈ w'.since v, e.reason? = none) → W.state w' = .disconnected →
        w'.session.status.last = Status.disconnected) := by
  refine ⟨h.exists_since, fun v w' since tick steady => ?_⟩
  obtain ⟨used, recalled⟩ := since.reason hW.recalling h₀
  obtain ⟨fault, more, v', steady⟩ := steady
  -- The tick that breaks off when the clock moves has come to the same end.
  obtain ⟨rfl, rfl⟩ :=
    Prod.mk.inj (Except.ok.inj ((steadily_tick W fault w _ _ steady).symm.trans tick))
  obtain ⟨more, _⟩ | ⟨_, w₁, recalled₁, shown⟩ := (hW.recalling.steadily fault).tick w _ _ steady
  · cases more
  obtain ⟨settled, link⟩ := hW.closing fault shown
  obtain ⟨es, hh, reason⟩ : v.Recalls w₁ := IsTrans.trans _ _ _ recalled recalled₁
  obtain ⟨es', hh', silent⟩ := settled.same.history
  have since : v'.since v = es ++ es' := by
    apply World.since_eq
    rw [hh', published, World.history_remember, hh, List.append_assoc]
  have state : W.state v' = W.state w₁ := (state_of_settled settled link).trans rfl
  have text : v'.session.status.last = (W.state v').text (lastReason? (v'.since v)) := by
    have last := congrArg (·.2.2.2) settled.same.part
    rw [since, lastReason?_append_of_silent silent, state, ← text_facts (by rw [reason, used]),
      ← published_last true]
    exact last
  refine ⟨text, fun none gone => ?_⟩
  have silent : lastReason? (v'.since v) = Option.none :=
    lastReason?_of_silent fun e he => Option.isNone_iff_eq_none.2 (none e he)
  rw [text, gone, silent]
  rfl

end Wiring

/-! ## Datagrams -/

namespace Channel

theorem link_arrive (c : Channel) (a : Arrival) :
    (c.arrive a).1.active = c.active ∧ (c.arrive a).1.connected = c.connected := by
  cases a with
  | datagram link sender bytes =>
    simp only [arrive, receive]
    split
    · exact ⟨rfl, rfl⟩
    · split
      · exact ⟨rfl, rfl⟩
      · split <;> exact ⟨rfl, rfl⟩
  | failure link reason => exact ⟨Option.isSome_map, rfl⟩

theorem link_arriveAll (c : Channel) (as : List Arrival) :
    (c.arriveAll as).1.active = c.active ∧ (c.arriveAll as).1.connected = c.connected := by
  induction as generalizing c with
  | nil => exact ⟨rfl, rfl⟩
  | cons a as ih =>
    obtain ⟨active, connected⟩ := ih (c.arrive a).1
    obtain ⟨active', connected'⟩ := link_arrive c a
    exact ⟨active.trans active', connected.trans connected'⟩

theorem link_send (c : Channel) (m : Message) :
    (c.send m).channel.active = c.active ∧ (c.send m).channel.connected = c.connected := by
  rcases c.send_cases m with ⟨e, refused⟩ | ⟨l, payload, -, -, hl, -, sent⟩
  · rw [refused]
    exact ⟨rfl, rfl⟩
  · rw [sent]
    exact ⟨by simp [active, hl], rfl⟩

end Channel

/-- Messages are only queued by a channel, and what comes in is only kept. -/
theorem Network.steadfast (net : Network ν) :
    (net.transport : Transport (Wired ν) ι).Steadfast := by
  intro m c r h
  simp only [transport] at h ⊢
  split at h
  · cases h
  · next m =>
    obtain ⟨active, connected⟩ := c.channel.link_send m
    split at h
    · cases h
      exact ⟨active, connected⟩
    · cases h
      obtain ⟨active', connected'⟩ := (c.channel.send m).channel.link_arriveAll
        (net.arrivals (net.after c.network (c.channel.send m).events))
      exact ⟨active'.trans active, connected'.trans connected⟩

/-! ## A rehearsal -/

namespace Rehearsal

open Wiring

theorem echoing_keepsRunAndLink (config : SessionConfig) :
    (echoing config).CallbacksKeepRunAndLink := by
  refine .of_steadfast (Network.steadfast _) (fun s t w _ w' h => ?_) nofun
  have h : (submit (some (.raw applicationTag s.name))).run w = .ok ((), w') := h
  refine .single (.call (.send (some (.raw applicationTag s.name))) nofun .none ?_)
  change (submit (some (.raw applicationTag s.name)) >>= fun _ => pure CallReply.none).run w = _
  rw [StateT.run_bind, h]
  rfl

/-- Nobody answers the first connect attempt. -/
def unanswered : List Cue :=
  [.call .start, .call .requestConnect, .tick, .wait (6 * Duration.second)]

/-- Nobody answers the second one either: the session gives up and shows why, and after one more
tick it no longer does. -/
theorem status_tells_state_unanswered : ∃ v w w' w'',
    (echoing modest).Since (echoing modest).EnvironmentOrNotice (opening modest) v w ∧
    (echoing modest).tick.run w = .ok (true, w') ∧ (echoing modest).Steady w ∧
    (echoing modest).state w' = .disconnected ∧
    w'.session.status.last = utf8 "connect timed out" ∧
    (echoing modest).tick.run w' = .ok (true, w'') ∧ (echoing modest).Steady w' ∧
    (echoing modest).state w'' = .disconnected ∧
    w''.session.status.last = Status.disconnected := by
  have played : ((echoing modest).play unanswered (opening modest)).bind (fun u =>
      ((echoing modest).ticks 1 u).bind fun v =>
        ((echoing modest).cued v (.wait (6 * Duration.second))).bind fun w =>
          (((echoing modest).steadily .missingHandler).ticks 1 w).bind fun w' =>
            (((echoing modest).steadily .missingHandler).ticks 1 w').map fun w'' =>
              ((echoing modest).state w', lastReason? (w'.since v), (echoing modest).state w'',
                (w''.since w').filterMap Event.reason?)) =
      some (.disconnected, some (utf8 "connect timed out"), .disconnected, []) := by
    decide +kernel
  obtain ⟨u, hu, played⟩ := Option.bind_eq_some_iff.1 played
  obtain ⟨v, hv, played⟩ := Option.bind_eq_some_iff.1 played
  obtain ⟨w, hw, played⟩ := Option.bind_eq_some_iff.1 played
  obtain ⟨w', steady, played⟩ := Option.bind_eq_some_iff.1 played
  obtain ⟨w'', steady', facts⟩ := Option.map_eq_some_iff.1 played
  simp only [Prod.mk.injEq, List.filterMap_eq_nil_iff] at facts
  obtain ⟨state, reason, state', silent⟩ := facts
  have steady := tick_of_ticks steady
  have steady' := tick_of_ticks steady'
  have tick := steadily_tick _ _ w _ _ steady
  have tick' := steadily_tick _ _ w' _ _ steady'
  have run : (echoing modest).Reaches (echoing modest).EnvironmentOrNotice (opening modest) u :=
    (reaches_of_play hu).mono fun w w' h => .environment (World.NetworkStep.environmentStep w w' h)
  have run₁ := run.tail (.tick true (tick_of_ticks hv))
  have wait : (echoing modest).EnvironmentOrNotice v w := by
    cases hw
    exact .environment (.changed v _ [] _ _)
  have run₂ := run₁.tail (.outside wait)
  have since : (echoing modest).Since (echoing modest).EnvironmentOrNotice (opening modest) v w :=
    ⟨.inr ⟨u, run, .tick (tick_of_ticks hv)⟩, .single (.outside wait)⟩
  have since' :
      (echoing modest).Since (echoing modest).EnvironmentOrNotice (opening modest) w' w' :=
    ⟨.inr ⟨w, run₂, .tick tick⟩, .refl⟩
  have fresh := opening_fresh (show modest.validate = .ok () by decide +kernel)
  have tells := (status_tells_state (echoing_keepsRunAndLink modest) fresh run₂).2 v w' since tick
    ⟨_, _, _, steady⟩
  have tells' := (status_tells_state (echoing_keepsRunAndLink modest) fresh
    (run₂.tail (.tick true tick))).2 w' w'' since' tick' ⟨_, _, _, steady'⟩
  refine ⟨v, w, w', w'', since, tick, ⟨_, _, _, steady⟩, state, ?_, tick', ⟨_, _, _, steady'⟩,
    state', tells'.2 silent state'⟩
  rw [tells.1, state, reason]
  rfl

end Rehearsal

end Teleop
