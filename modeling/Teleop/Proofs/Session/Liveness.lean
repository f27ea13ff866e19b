import Teleop.Proofs.Session.CoupledRuns

/-!
# Overdue heartbeats

A ready session that has not heard a heartbeat for longer than its liveness timeout lags. It looks
for that only while a connection is wanted, which is enough, since a session is ready only over a
link that is up, and a link is there only as long as it is wanted.

* `World.Prompt`: while the clock stands still, whatever makes a session ready is a heartbeat of
  just now, so that a session which did not lag does not lag;
* `timely_tick`: after a tick under a steady clock the session does not lag;
* `coupled_silent_update`: an update that brings no heartbeat leaves a lagging session as it is, or
  ends its link;
* `Wiring.liveness_enforced`: the statement for all runs.
-/

namespace Teleop

open Relation

variable {χ ν π ι : Type}

/-! ## Prompt changes -/

namespace World

variable {w w' : World χ π}

/-- The session and its clock stay as they are. -/
structure Unmoved (w w' : World χ π) : Prop where
  session : w'.session = w.session
  clock : w'.clock = w.clock

instance : IsPreorder (World χ π) Unmoved where
  refl _ := ⟨rfl, rfl⟩
  trans _ _ _ h h' := ⟨h'.session.trans h.session, h'.clock.trans h.clock⟩

/-- The clock stands still, and if the session is ready, then because of a heartbeat of just now or
because it was ready before. -/
structure Prompt (w w' : World χ π) : Prop where
  clock : w'.clock = w.clock
  beat : w'.session.ready = true → w'.session.lastHeartbeat = w.clock ∨
    w.session.ready = true ∧ w'.session.lastHeartbeat = w.session.lastHeartbeat

theorem Prompt.of_unbeaten (clock : w'.clock = w.clock) (h : w.Unbeaten w') : w.Prompt w' :=
  ⟨clock, fun hr => .inr (h hr)⟩

instance : IsPreorder (World χ π) Prompt where
  refl _ := .of_unbeaten rfl (.of_eq rfl)
  trans _ _ _ h h' := by
    refine ⟨h'.clock.trans h.clock, fun hr => ?_⟩
    rcases h'.beat hr with beat | ⟨hr, beat⟩
    · exact .inl (beat.trans h.clock)
    · rw [beat]
      exact h.beat hr

end World

theorem Instant.since_self (t : Instant) : t.since t = 0 := by
  rw [since, Int.sub_self]
  decide

namespace Wiring

section Prompt

variable {W : Wiring χ π ι} {w w' : World χ π}

theorem lagging_of_unready (h : w.session.ready = false) : W.lagging w = false := by
  simp [lagging, isLagging, h]

theorem state_eq_lagging : W.state w = .lagging ↔ W.lagging w = true := by
  unfold state SessionState.derive
  grind

theorem lagging_of_unmoved (h : w.Unmoved w') : W.lagging w' = W.lagging w := by
  rw [lagging, lagging, h.session, h.clock]

/-- A heartbeat of just now is not overdue. -/
theorem lagging_of_prompt (timeout : 0 < W.config.livenessTimeout) (h : w.Prompt w')
    (timely : W.lagging w = false) : W.lagging w' = false := by
  cases hr : w'.session.ready with
  | false => exact lagging_of_unready hr
  | true =>
    rcases h.beat hr with beat | ⟨hr₀, beat⟩
    · have recent : ¬W.config.livenessTimeout < 0 := Int.not_lt.2 (Int.le_of_lt timeout)
      simp [lagging, isLagging, beat, h.clock, Instant.since_self, recent]
    · rw [← timely, lagging, lagging, hr, hr₀, beat, h.clock]

theorem outward_unmoved : Outward (World.Unmoved : World χ π → World χ π → Prop) where
  around h := ⟨h.part, h.clock⟩
  note _ _ _ := ⟨rfl, rfl⟩

theorem gentle_prompt : Gentle (World.Prompt : World χ π → World χ π → Prop) where
  around h := .of_unbeaten h.clock (.of_eq h.part)
  note _ _ _ := .of_unbeaten rfl (.of_eq rfl)
  remember _ _ _ _ := .of_unbeaten rfl fun hr => ⟨hr, rfl⟩
  unready _ := ⟨rfl, nofun⟩
  beat _ := ⟨rfl, fun _ => .inl rfl⟩

/-- Attempts and work bring no heartbeat. -/
theorem prompt_of_routine {α : Type} {x : Act χ π α} (h : Keeps World.Routine x) :
    Keeps World.Prompt x :=
  fun w => (h w).mono fun _ _ h => .of_unbeaten h.clock (.of_attention h.part)

end Prompt

/-! ## Ticks under a steady clock -/

section Steady

/-- Does something that takes no time, or else breaks off. -/
def atOnce (fault : Fault) (x : Act χ π Unit) : Act χ π Unit := do
  let before ← get
  x
  let after ← get
  if after.clock ≠ before.clock then throw fault

/-- The same session, but it breaks off once the clock has moved under a subscriber or an
interruption. -/
def steadily (W : Wiring χ π ι) (fault : Fault) : Wiring χ π ι :=
  { W with
    react := fun s t => atOnce fault (W.react s t)
    interrupt := fun i => atOnce fault (W.interrupt i) }

/-- Nobody moves the clock during a tick that starts in `w`: the tick goes through even if it would
break off then. -/
def Steady (W : Wiring χ π ι) (w : World χ π) : Prop :=
  ∃ fault more w', (W.steadily fault).tick.run w = .ok (more, w')

/-! As long as the clock does not move, a session does what it always does. -/

section Refinement

variable (W : Wiring χ π ι) (fault : Fault)

theorem atOnce_refines (x : Act χ π Unit) : Refines (atOnce fault x) x := by
  refine fun w => (yields_bind _ _).2 (yields_get.2 ((yields_bind _ _).2 fun _ w' e => ?_))
  refine (yields_bind _ _).2 (yields_get.2 ((yields_ite _ _).2 ⟨fun _ => ?_, fun _ => ?_⟩))
  · exact (yields_throw _).2 trivial
  · exact (yields_pure _).2 e

theorem steadily_present (text : Text) : ∀ subscribers,
    Refines ((W.steadily fault).present text subscribers) (W.present text subscribers)
  | [] => .refl _
  | (_, _) :: rest =>
    .bind (.refl _) fun _ => .bind (atOnce_refines fault _) fun _ => steadily_present text rest

theorem steadily_publish (endOfTick : Bool) :
    Refines ((W.steadily fault).publish endOfTick) (W.publish endOfTick) := by
  refine .bind (.refl _) fun w => ?_
  have facts : (W.steadily fault).facts w = W.facts w := rfl
  rw [facts]
  obtain ⟨text, subscribers?, status⟩ := w.session.status.update (W.facts w)
  refine .bind (.refl _) fun _ => ?_
  cases subscribers? with
  | none => exact .refl _
  | some subscribers => exact .bind (.refl _) fun _ => steadily_present W fault _ _

theorem steadily_takeNotice (link : Option Nat) (n : Notice) :
    Refines ((W.steadily fault).takeNotice link n) (W.takeNotice link n) := by
  refine .bind (.refl _) fun _ => ?_
  cases n with
  | connected session => exact .refl _
  | disconnected reason =>
    exact .bind (.refl _) fun _ => .bind (.refl _) fun _ => .bind (.refl _) fun _ =>
      steadily_publish W fault _
  | message m =>
    cases m with
    | none => exact .refl _
    | some m => cases m <;> exact .refl _

theorem steadily_follow (a : Activity χ ι) :
    Refines ((W.steadily fault).follow a) (W.follow a) := by
  induction a with
  | done channel => exact .refl _
  | fault f => exact .refl _
  | notice link n channel next ih =>
    exact .bind (.refl _) fun _ => .bind (steadily_takeNotice W fault link n) fun _ =>
      .bind (.refl _) fun w => ih w.channel
  | interrupt i channel next ih =>
    exact .bind (.refl _) fun _ => .bind (atOnce_refines fault _) fun _ =>
      .bind (.refl _) fun w => ih w.channel

theorem steadily_update : Refines (W.steadily fault).update W.update :=
  .bind (.refl _) fun _ => .bind (.refl _) fun _ => .bind (.refl _) fun _ =>
    steadily_follow W fault _

theorem steadily_enforceLiveness :
    Refines (W.steadily fault).enforceLiveness W.enforceLiveness := by
  refine .bind (.refl _) fun _ => .ite (.bind (.refl _) fun _ => ?_) (.refl _)
  exact .bind (.refl _) fun _ => .bind (.refl _) fun _ => .bind (.refl _) fun _ =>
    .bind (.refl _) fun _ => .bind (.refl _) fun _ => steadily_publish W fault _

theorem steadily_maintain : Refines (W.steadily fault).maintain W.maintain := by
  refine .bind (.refl _) fun _ => .ite (.refl _) (.bind ?_ fun _ => .ite (.refl _) (.refl _))
  refine .bind (steadily_enforceLiveness W fault) fun _ => .bind (.refl _) fun _ =>
    .bind (.refl _) fun _ => .ite (.refl _) (.ite (.refl _) (.bind (.refl _) fun _ => ?_))
  exact .bind (.refl _) fun _ => .bind (steadily_update W fault) fun _ => .refl _

theorem steadily_tick : Refines (W.steadily fault).tick W.tick := by
  refine .bind (.refl _) fun _ => .ite (.refl _) (.bind (.refl _) fun _ => ?_)
  refine .bind (.refl _) fun _ => .bind (steadily_update W fault) fun _ => ?_
  refine .bind (steadily_maintain W fault) fun _ => .ite ?_ ?_
  · exact .bind (.refl _) fun _ => .bind (steadily_publish W fault _) fun _ => .refl _
  · exact .bind (.refl _) fun _ => .bind (steadily_publish W fault _) fun _ => .refl _

end Refinement

theorem keeps_atOnce {R : World χ π → World χ π → Prop} {x : Act χ π Unit} (h : Keeps R x)
    (fault : Fault) : Keeps (fun w w' => R w w' ∧ w'.clock = w.clock) (atOnce fault x) := by
  refine fun w => (yields_bind _ _).2 (yields_get.2 ((yields_bind _ _).2 ?_))
  refine (h w).mono fun _ w' hr => (yields_bind _ _).2 (yields_get.2 ?_)
  refine (yields_ite _ _).2 ⟨fun _ => (yields_throw _).2 trivial, fun still => ?_⟩
  exact (yields_pure _).2 ⟨hr, not_not.1 still⟩

variable {W : Wiring χ π ι} {E R : World χ π → World χ π → Prop}

theorem Heeds.steadily (hW : W.Heeds R) (fault : Fault) :
    (W.steadily fault).Heeds fun w w' => R w w' ∧ w'.clock = w.clock where
  react s t := keeps_atOnce (hW.react s t) fault
  interrupt i := keeps_atOnce (hW.interrupt i) fault

theorem CallbacksOnlyCall.steadily (hW : W.CallbacksOnlyCall E) (fault : Fault) :
    (W.steadily fault).CallbacksOnlyCall E := by
  refine (Heeds.steadily hW fault).mono fun w w' h => ReflTransGen.mono (fun w w' hd => ?_) _ _ h.1
  cases hd with
  | call c r h => exact .call c r (by cases c <;> exact h)
  | outside h => exact .outside h

end Steady

section Timely

open Act

variable {W : Wiring (Wired ν) π ι} {net : Network ν} {w w' : World (Wired ν) π}

/-- Calls bring no heartbeat. -/
theorem unbeaten_perform (c : Call) : Keeps World.Unbeaten (W.perform c) := by
  by_cases hc : ∃ m, c = .setIdle m
  · obtain ⟨m, rfl⟩ := hc
    have set : Keeps World.Unbeaten
        (remember fun s => { s with idle := m } : Act (Wired ν) π Unit) :=
      fun _ => (yields_modify _).2 fun hr => ⟨hr, rfl⟩
    have sent : Keeps World.Unbeaten (W.send .idle m) :=
      fun w => (outward_unmoved.sendPassing rfl m w).mono fun _ _ h => .of_eq h.session
    have noted (ready : Bool) : Keeps World.Unbeaten
        (record (.idleSet m ready) : Act (Wired ν) π Unit) :=
      fun _ => (yields_modify _).2 (.of_eq rfl)
    exact .bind (.bind set fun _ => .bind .get fun _ => .bind (noted _) fun _ =>
      .ite sent (.pure _)) fun _ => .pure _
  · exact fun w => (calm_perform W (fun m hm => hc ⟨m, hm⟩) w).mono fun _ _ h => h.unbeaten

theorem Doing.unbeaten (h : ReflTransGen (W.Doing World.NetworkStep) w w') : w.Unbeaten w' := by
  induction h with
  | refl => exact .of_eq rfl
  | tail _ hd ih =>
    refine IsTrans.trans _ _ _ ih ?_
    cases hd with
    | call c r h => exact unbeaten_perform c _ r _ h
    | outside h => exact h.calm.unbeaten

theorem CallbacksOnlyCall.prompt (hW : W.CallbacksOnlyCall World.NetworkStep) (fault : Fault) :
    (W.steadily fault).Heeds World.Prompt :=
  (Heeds.steadily hW fault).mono fun _ _ h => .of_unbeaten h.2 (Doing.unbeaten h.1)

variable {era : Era} (hnet : W.transport = net.transport)
  (hW : W.CallbacksOnlyCall World.NetworkStep) (hp : W.Heeds World.Prompt)
  (timeout : 0 < W.config.livenessTimeout)

include hnet hW hp timeout

/-- A session that looks after its link has dropped one with an overdue heartbeat. -/
theorem timely_ensureConnected (h : AtRest W.config era w) :
    Yields W.ensureConnected w fun _ w' => w.Prompt w' ∧ W.lagging w' = false := by
  obtain ⟨st, h⟩ := h
  refine (yields_bind _ _).2 (((coupled_enforceLiveness hnet hW h).and
    (gentle_prompt.enforceLiveness hp w)).mono ?_)
  rintro _ w₁ ⟨enforced, prompt₁⟩
  have timely : W.lagging w₁ = false := by
    rcases enforced with ⟨_, h₁⟩ | ⟨timely, rfl⟩
    · exact lagging_of_unready h₁.unready
    · exact timely
  refine Yields.mono ((Keeps.bind .get fun _ => .bind (prompt_of_routine (routine_record rfl))
    fun _ => ?_ : Keeps World.Prompt _) w₁) fun _ w' prompt =>
      ⟨IsTrans.trans _ _ _ prompt₁ prompt, lagging_of_prompt timeout prompt timely⟩
  refine .ite (.pure _) (.ite (.pure _) (.bind (prompt_of_routine ?_) fun _ => ?_))
  · exact routine_remember fun _ => rfl
  · exact .bind (prompt_of_routine (routine_attempt _)) fun _ =>
      .bind (gentle_prompt.update hp) fun _ => .pure _

theorem timely_maintain (h : AtRest W.config era w) :
    Yields W.maintain w fun _ w' => w.Prompt w' ∧ W.lagging w' = false := by
  refine (yields_bind _ _).2 (yields_get.2 ?_)
  cases wanted : w.session.connectRequested with
  | false =>
    -- A session that wants no link has none, so it is not ready.
    obtain ⟨st, h⟩ := h
    have away : st = .away := by
      by_contra hst
      cases (h.wanted hst).symm.trans wanted
    subst away
    exact (yields_pure _).2 ⟨Std.Refl.refl w, lagging_of_unready h.unready⟩
  | true =>
    refine (yields_bind _ _).2 ((timely_ensureConnected hnet hW hp timeout h).mono ?_)
    rintro kept w₁ ⟨prompt₁, timely⟩
    cases kept with
    | true => exact (yields_pure _).2 ⟨prompt₁, timely⟩
    | false =>
      refine (yields_bind _ _).2 ((prompt_of_routine routine_giveUp w₁).mono fun _ w₂ prompt₂ => ?_)
      refine (yields_pure _).2 ?_
      exact ⟨IsTrans.trans _ _ _ prompt₁ prompt₂, lagging_of_prompt timeout prompt₂ timely⟩

/-- After a tick under a steady clock the session does not lag. -/
theorem timely_tick (h : AtRest W.config era w) :
    Yields W.tick w fun more w' => w'.clock = w.clock ∧ (more = true → W.lagging w' = false) := by
  refine (yields_bind _ _).2 (yields_get.2 ?_)
  refine (yields_ite _ _).2 ⟨fun _ => (yields_pure _).2 ⟨rfl, nofun⟩, fun _ => ?_⟩
  refine (yields_bind _ _).2 (((upholds_iff.1 (atRest_of_calm clerical_calm.takeWork) w h).and
    (prompt_of_routine clerical_routine.takeWork w)).mono ?_)
  rintro ⟨request, pending⟩ w₁ ⟨⟨st₁, h₁⟩, prompt₁⟩
  refine (yields_bind _ _).2 (((coupled_resetLink hnet h₁).and
    (gentle_prompt.resetLink w₁)).mono ?_)
  rintro _ w₂ ⟨h₂, prompt₂⟩
  have h₂ : AtRest W.config era w₂ := h₂.elim (⟨_, ·⟩) (⟨_, ·.1⟩)
  refine (yields_bind _ _).2 (((upholds_iff.1 (coupled_update hnet hW) w₂ h₂).and
    (gentle_prompt.update hp w₂)).mono ?_)
  rintro _ w₃ ⟨h₃, prompt₃⟩
  refine (yields_bind _ _).2 ((timely_maintain hnet hW hp timeout h₃).mono ?_)
  rintro kept w₄ ⟨prompt₄, timely⟩
  have clock : w₄.clock = w.clock := by
    rw [prompt₄.clock, prompt₃.clock, prompt₂.clock, prompt₁.clock]
  have rest (request : Option Message) (pending : List Message) :
      Yields (W.dispatch request pending >>= fun _ => W.publish true >>= fun _ => pure true) w₄
        fun more w' => w'.clock = w.clock ∧ (more = true → W.lagging w' = false) := by
    refine Yields.mono ((Keeps.bind (prompt_of_routine (routine_dispatch _ _)) fun _ =>
      .bind (gentle_prompt.publish hp true) fun _ => .pure _ : Keeps World.Prompt _) w₄) ?_
    exact fun _ w' prompt =>
      ⟨prompt.clock.trans clock, fun _ => lagging_of_prompt timeout prompt timely⟩
  cases kept with
  | true => exact rest _ _
  | false => exact rest _ _

end Timely

end Wiring

/-! ## Updates without a heartbeat -/

namespace Wiring

section Silent

open Act

/-- The notices of an update are taken in one after the other. -/
theorem follow_notices {W : Wiring (Wired ν) π ι} (hW : W.CallbacksOnlyMove)
    (ns : List (Nat × Notice)) :
    ∀ {w : World (Wired ν) π} {x : Wired ν},
      Yields (W.follow (Wired.raising (ns.map some) x)) w fun _ w' => ∃ es,
        w'.history = w.history ++ es ∧ ∀ n ∈ ns, .noticed (some n.1) n.2 ∈ es := by
  induction ns with
  | nil => exact (yields_modify _).2 ⟨[], by simp [World.history]⟩
  | cons n ns ih =>
    intro w x
    refine (yields_bind _ _).2 ((yields_modify _).2 ((yields_bind _ _).2 ?_))
    refine (yields_bind _ _).2 ((yields_modify _).2 ?_)
    refine (gentle_moves.onNotice hW n.2 _).mono fun _ w₁ moves => ?_
    obtain ⟨es, hes, _⟩ : World.Adds (fun _ => true) _ w₁ := moves.adds (by simp) (.refl _)
    refine (yields_bind _ _).2 (yields_get.2 (ih.mono ?_))
    rintro _ w' ⟨es', hes', mem⟩
    refine ⟨.noticed (some n.1) n.2 :: (es ++ es'), ?_, ?_⟩
    · rw [hes', hes]
      simp [World.history]
    · intro n' hn'
      rcases List.mem_cons.1 hn' with rfl | hn'
      · exact List.mem_cons_self
      · exact List.mem_cons_of_mem _ (List.mem_append_right _ (mem n' hn'))

variable {W : Wiring (Wired ν) π ι} {net : Network ν} {config : SessionConfig} {era : Era}
  {st : Standing} (hnet : W.transport = net.transport) (hW : W.CallbacksOnlyCall World.NetworkStep)

include hnet hW

/-- Without a heartbeat among its notices an update ends the link or leaves the session as it is. -/
theorem coupled_silent_follow (ns : List (Nat × Notice))
    (silent : ∀ n ∈ ns, n.2.isHeartbeat = false) :
    ∀ {w : World (Wired ν) π} {x : Wired ν}, Coupled W.config era st ns { w with channel := x } →
      (∀ link, st ≠ .waiting link) →
      Yields (W.follow (Wired.raising (ns.map some) x)) w fun _ w' =>
        Coupled W.config era .away [] w' ∨
          Coupled W.config era st [] w' ∧ W.lagging w' = W.lagging w := by
  induction ns with
  | nil => exact fun h _ => (yields_modify _).2 (.inr ⟨h, rfl⟩)
  | cons n ns ih =>
    intro w x h hst
    refine (yields_bind _ _).2 ((yields_modify _).2 ((yields_bind _ _).2 ?_))
    cases h.told with
    | cons heard told =>
      cases heard with
      | connected link => exact absurd rfl (hst link)
      | dropped link => exact absurd rfl (hst link)
      | ended link reason =>
        -- Nothing can be left to be told once the link has ended.
        obtain ⟨rfl, -⟩ := told.of_away
        refine (coupled_disconnected hnet hW h).mono fun _ w₁ h₁ => ?_
        exact (yields_bind _ _).2 (yields_get.2 ((yields_modify _).2 (.inl h₁)))
      | message link m =>
        have quiet : (some m).bind Message.kind? ≠ some .agentStatus := by
          simpa [Notice.isHeartbeat] using silent _ List.mem_cons_self
        have unmoved : Keeps World.Unmoved (W.takeNotice (some link) (.message (some m))) :=
          .bind (outward_unmoved.record rfl) fun _ =>
            outward_unmoved.onMessage quiet fun _ _ => outward_unmoved.record rfl
        refine ((coupled_message hnet h).and (unmoved _)).mono ?_
        rintro _ w₁ ⟨h₁, unmoved₁⟩
        refine (yields_bind _ _).2 (yields_get.2 ?_)
        refine (ih (fun n hn => silent n (List.mem_cons_of_mem _ hn)) h₁ hst).mono fun _ w' => ?_
        refine Or.imp_right (And.imp_right fun same => same.trans ?_)
        exact lagging_of_unmoved ⟨unmoved₁.session, unmoved₁.clock⟩

theorem coupled_silent_update {w : World (Wired ν) π} (h : Coupled W.config era st [] w)
    (hst : ∀ link, st ≠ .waiting link) :
    Yields W.update w fun _ w' => (∀ e ∈ w'.since w, e.isHeartbeat = false) →
      Coupled W.config era .away [] w' ∨
        Coupled W.config era st [] w' ∧ W.lagging w' = W.lagging w := by
  have onlyMove := hW.onlyMove fun w w' h => (World.NetworkStep.environmentStep w w' h).passing
  refine yields_update hnet fun u hu v hv => ?_
  obtain ⟨ns, hns, h'⟩ := (h.calm (.noting (e := .update) rfl)).updated net hu
  rw [← hv] at h'
  have unmoved : w.Unmoved v := ⟨(congrArg World.session hv :), (congrArg World.clock hv :)⟩
  obtain ⟨es₀, before⟩ : ∃ es, v.history = w.history ++ es := by
    have history := congrArg World.history hv
    rw [World.history_settling, World.history_note, List.append_assoc] at history
    exact ⟨_, history⟩
  rw [hns]
  intro _ w' hw' silent
  obtain ⟨es, hes, noticed⟩ := follow_notices onlyMove ns _ w' hw'
  have since : w'.since w = es₀ ++ es := World.since_eq (by rw [hes, before, List.append_assoc])
  have silent (n : Nat × Notice) (hn : n ∈ ns) : n.2.isHeartbeat = false :=
    silent (.noticed (some n.1) n.2) (by rw [since]; exact List.mem_append_right _ (noticed n hn))
  rw [← lagging_of_unmoved unmoved]
  exact coupled_silent_follow hnet hW ns silent h' hst _ w' hw'

end Silent

/-! ## Liveness -/

/-- The first update of a tick that starts in `w` leads from `w₁` to `w₂`. -/
inductive FirstUpdate (W : Wiring χ π ι) (w w₁ w₂ : World χ π) : Prop
  | intro {w₀ : World χ π} (request : Option Message) (pending : List Message)
    (taken : takeWork.run w = .ok ((request, pending), w₀))
    (reset : W.resetLink.run w₀ = .ok ((), w₁)) (updated : W.update.run w₁ = .ok ((), w₂))

section Overdue

variable {W : Wiring (Wired ν) π ι} {net : Network ν} {era : Era} {w w₁ w₂ : World (Wired ν) π}

theorem lagging_takeWork (w : World (Wired ν) π) :
    Yields takeWork w fun _ w' => W.lagging w' = W.lagging w := by
  refine (yields_bind _ _).2 (yields_get.2 ((yields_bind _ _).2 ((yields_lift _).2 fun _ _ => ?_)))
  exact (yields_bind _ _).2 ((yields_modify _).2 ((yields_pure _).2 rfl))

variable (hnet : W.transport = net.transport) (hW : W.CallbacksOnlyCall World.NetworkStep)

include hnet hW

/-- Until it looks after its link, a session that lags either loses it or goes on lagging. -/
theorem coupled_overdue_update {link : Nat} (h : Coupled W.config era (.up link) [] w)
    (late : W.lagging w = true) (reset : W.resetLink.run w = .ok ((), w₁))
    (updated : W.update.run w₁ = .ok ((), w₂))
    (silent : ∀ e ∈ w₂.since w₁, e.isHeartbeat = false) :
    Coupled W.config era .away [] w₂ ∨
      Coupled W.config era (.up link) [] w₂ ∧ W.lagging w₂ = true := by
  rcases coupled_resetLink hnet h _ w₁ reset with h₁ | ⟨h₁, late₁⟩
  · exact .inl ((coupled_silent_update hnet hW h₁ nofun _ w₂ updated silent).elim id (·.1))
  · refine (coupled_silent_update hnet hW h₁ nofun _ w₂ updated silent).imp_right ?_
    exact And.imp_right fun late₂ => late₂.trans (late₁.trans late)

/-- After a tick a session that lagged has at most a new link, unless a heartbeat came in. -/
theorem coupled_overdue_tick {link : Nat} (h : Coupled W.config era (.up link) [] w)
    (late : W.lagging w = true) (first : W.FirstUpdate w w₁ w₂)
    (silent : ∀ e ∈ w₂.since w₁, e.isHeartbeat = false) :
    Yields W.tick w fun more w' =>
      more = true → AtRest W.config { floor := w.channel.channel.opened } w' := by
  obtain ⟨request, pending, taken, reset, updated⟩ := first
  have h₀ := h.rebased.calm (clerical_calm.takeWork w _ _ taken)
  have late₀ := (lagging_takeWork w _ _ taken).trans late
  refine (yields_bind _ _).2 (yields_get.2 ?_)
  refine (yields_ite _ _).2 ⟨fun _ => (yields_pure _).2 nofun, fun _ => ?_⟩
  refine (yields_bind _ _).2 (yields_of_run taken ((yields_bind _ _).2 (yields_of_run reset ?_)))
  refine (yields_bind _ _).2 (yields_of_run updated ?_)
  have floor : Era.floor { floor := w.channel.channel.opened } = w.channel.channel.opened := rfl
  rcases coupled_overdue_update hnet hW h₀ late₀ reset updated silent with h₂ | ⟨h₂, late₂⟩
  · refine (coupled_rest hnet hW floor request pending h₂ fun _ => ?_).mono fun _ _ h' _ => h'
    exact h₂.of_away rfl rfl rfl id
  · refine (coupled_rest hnet hW floor request pending h₂ fun h => ?_).mono fun _ _ h' _ => h'
    rcases h with timely | unwanted
    · cases timely.symm.trans late₂
    · cases unwanted.symm.trans (h₂.wanted nofun)

end Overdue

variable {W : Wiring (Wired ν) π ι} {net : Network ν} {w₀ w : World (Wired ν) π}

/-- In every run of a session over a datagram channel that nobody else drives: a ready session has a
link that is up, and wants it; a tick during which the clock stands still leaves no session that
lags; and if a session lags before a tick and the first update of that tick brings no heartbeat,
then the link that it had is gone after the tick. -/
theorem liveness_enforced (hnet : W.transport = net.transport)
    (hW : W.CallbacksOnlyCall World.NetworkStep) (h₀ : W.Fresh w₀) {c : ChannelConfig}
    (hc : w₀.channel.channel = Channel.new c)
    (h : W.Reaches World.NetworkStep w₀ w) :
    (w.session.ready = true →
      W.transport.connected w.channel = true ∧ w.session.connectRequested = true) ∧
    ∀ w', W.tick.run w = .ok (true, w') →
      (W.Steady w → w'.clock = w.clock ∧ W.state w' ≠ .lagging) ∧
      ∀ w₁ w₂, W.FirstUpdate w w₁ w₂ → (∀ e ∈ w₂.since w₁, e.isHeartbeat = false) →
        W.lagging w = true → ∃ l, w.channel.channel.current = some l ∧
          ∀ l', w'.channel.channel.current = some l' → l'.id ≠ l.id := by
  obtain ⟨st, coupled⟩ := Reaches.coupled hnet hW h₀ hc h
  have up (hr : w.session.ready = true) : ∃ link, st = .up link := by
    obtain ⟨link, hst, _⟩ := coupled.ready hr
    exact ⟨link, hst⟩
  refine ⟨fun hr => ?_, fun w' tick => ⟨fun steady => ?_, fun w₁ w₂ first silent late => ?_⟩⟩
  · obtain ⟨link, rfl⟩ := up hr
    obtain ⟨phase, _⟩ := Channel.standing_eq_up.1 coupled.standing
    rw [hnet]
    exact ⟨by simp [Network.transport, Channel.connected, phase], coupled.wanted nofun⟩
  · obtain ⟨timeout, _⟩ := SessionConfig.of_validate h₀.validate
    obtain ⟨fault, more, v, steady⟩ := steady
    -- The tick that breaks off when the clock moves has come to the same end.
    obtain ⟨rfl, rfl⟩ :=
      Prod.mk.inj (Except.ok.inj ((steadily_tick W fault w _ _ steady).symm.trans tick))
    obtain ⟨clock, timely⟩ := timely_tick (W := W.steadily fault) hnet (hW.steadily fault)
      (hW.prompt fault) timeout ⟨st, coupled⟩ _ v steady
    refine ⟨clock, fun lagging => ?_⟩
    cases (timely rfl).symm.trans (state_eq_lagging.1 lagging)
  · obtain ⟨link, rfl⟩ := up (Bool.and_eq_true_iff.1 late).1
    obtain ⟨_, l, current, rfl⟩ := Channel.standing_eq_up.1 coupled.standing
    refine ⟨l, current, fun l' current' same => ?_⟩
    obtain ⟨st', coupled'⟩ :=
      coupled_overdue_tick hnet hW coupled late first silent _ w' tick rfl
    have hst' : st'.link? = some l'.id := by
      rw [← coupled'.standing, Channel.link?_standing, current', Option.map_some]
    have floor : w.channel.channel.opened ≤ l'.id :=
      (coupled'.link _ hst').2.resolve_right nofun
    have below := (coupled.link l.id rfl).1
    omega

end Wiring

namespace Rehearsal

open Wiring

/-- The session gets a link and a heartbeat on it, and then none for six seconds. -/
def overdue : List Cue :=
  [.call .start, .call .requestConnect, .tick, welcoming 0, .tick, beating 0, .tick,
    .wait (6 * Duration.second)]

theorem liveness_enforced_overdue : ∃ w w' w₁ w₂,
    (echoing modest).Reaches World.NetworkStep (opening modest) w ∧ w.session.ready = true ∧
    (echoing modest).tick.run w = .ok (true, w') ∧ (echoing modest).Steady w ∧
    (echoing modest).FirstUpdate w w₁ w₂ ∧ (∀ e ∈ w₂.since w₁, e.isHeartbeat = false) ∧
    (echoing modest).lagging w = true ∧
    w.channel.channel.connected = true ∧ w.session.connectRequested = true ∧
    w'.clock = w.clock ∧ (echoing modest).state w' ≠ .lagging ∧
    ∃ l l', w.channel.channel.current = some l ∧ w'.channel.channel.current = some l' ∧
      l'.id ≠ l.id := by
  have played : ((echoing modest).play overdue (opening modest)).bind (fun w =>
      (leaves takeWork w).bind fun w₀ => (leaves (echoing modest).resetLink w₀).bind fun w₁ =>
        (leaves (echoing modest).update w₁).bind fun w₂ =>
          (((echoing modest).steadily .missingHandler).ticks 1 w).map fun w' =>
            ((w₂.since w₁).any (·.isHeartbeat), (echoing modest).lagging w,
              w'.channel.channel.current.map (·.id))) = some (false, true, some 1) := by
    decide +kernel
  obtain ⟨w, hw, played⟩ := Option.bind_eq_some_iff.1 played
  obtain ⟨w₀, taken, played⟩ := Option.bind_eq_some_iff.1 played
  obtain ⟨w₁, reset, played⟩ := Option.bind_eq_some_iff.1 played
  obtain ⟨w₂, updated, played⟩ := Option.bind_eq_some_iff.1 played
  obtain ⟨w', steady, facts⟩ := Option.map_eq_some_iff.1 played
  simp only [Prod.mk.injEq, List.any_eq_false, Bool.not_eq_true] at facts
  obtain ⟨silent, late, current'⟩ := facts
  obtain ⟨⟨request, pending⟩, taken⟩ := leaves_eq_some taken
  obtain ⟨⟨⟩, reset⟩ := leaves_eq_some reset
  obtain ⟨⟨⟩, updated⟩ := leaves_eq_some updated
  have steady := tick_of_ticks steady
  have tick := steadily_tick _ _ w _ _ steady
  have first : (echoing modest).FirstUpdate w w₁ w₂ := ⟨request, pending, taken, reset, updated⟩
  have run := reaches_of_play hw
  have fresh := opening_fresh (show modest.validate = .ok () by decide +kernel)
  obtain ⟨linked, ticked⟩ :=
    Wiring.liveness_enforced rfl (echoing_onlyCall modest _) fresh rfl run
  have ready : w.session.ready = true := (Bool.and_eq_true_iff.1 late).1
  obtain ⟨connected, wanted⟩ := linked ready
  obtain ⟨timely, dropped⟩ := ticked w' tick
  obtain ⟨clock, state⟩ := timely ⟨_, _, _, steady⟩
  obtain ⟨l, current, gone⟩ := dropped w₁ w₂ first silent late
  obtain ⟨l', current', _⟩ := Option.map_eq_some_iff.1 current'
  exact ⟨w, w', w₁, w₂, run, ready, tick, ⟨_, _, _, steady⟩, first, silent, late, connected, wanted,
    clock, state, l, l', current, current', gone l' current'⟩

end Rehearsal

end Teleop
