import Teleop.Proofs.Session.Frames
import Teleop.Proofs.Session.Routine

/-!
# Readiness and the idle message in a history

A session is ready from the first heartbeat that counts until its link ends. Its idle message is due
when it becomes ready, and whenever one is set while it is ready. All of this can be told from the
history alone.

* `watch` reads off a history whether the session is ready, what its idle message is, on which links
  it became ready, and which idle messages were due and handed over;
* `Dutiful` is what the history before an event demands of it, and a `Composed` history is one of
  dutiful events;
* `Attentive` says that a session agrees with its history, which is composed; `attentive_perform`,
  `attentive_connected`, `attentive_message`: what a session does keeps it so, whatever its
  transport.
-/

namespace Teleop

variable {χ π ι : Type}

/-! ## Watching a history -/

/-- What a history tells about the readiness and the idle message. -/
structure Watch where
  ready : Bool := false
  /-- The idle message that is registered. -/
  idle : Option Message := none
  /-- A heartbeat has come in on this link, and the session has yet to look at it. -/
  hearing : Option (Option Nat) := none
  /-- The links on which a heartbeat counted, once for each heartbeat. -/
  counted : List Nat := []
  /-- The links on which the session became ready, once for each time. -/
  turned : List Nat := []
  /-- The idle messages that were to be handed over. -/
  due : List Message := []
  /-- The idle messages that were handed over. -/
  handed : List Message := []
  deriving DecidableEq

namespace Watch

/-- The heartbeat that came in counts. If the session was not ready, its idle message is due. -/
def heartbeat (v : Watch) : Watch :=
  { v with
    ready := true
    hearing := none
    counted := v.counted ++ v.hearing.join.toList
    turned := if v.ready then v.turned else v.turned ++ v.hearing.join.toList
    due := if v.ready then v.due else v.due ++ v.idle.toList }

/-- The session became ready at most once on each link, and only at heartbeats that counted. -/
structure Tidy (v : Watch) : Prop where
  nodup : v.turned.Nodup
  turned : ∀ link ∈ v.turned, link ∈ v.counted

theorem Tidy.heartbeat {v : Watch} {link : Nat} (hv : v.Tidy)
    (hearing : v.hearing = some (some link)) (first : v.ready = true ↔ link ∈ v.counted) :
    v.heartbeat.Tidy := by
  have counted : v.heartbeat.counted = v.counted ++ [link] := by simp [Watch.heartbeat, hearing]
  cases hr : v.ready with
  | true =>
    have turned : v.heartbeat.turned = v.turned := by simp [Watch.heartbeat, hr]
    refine ⟨turned ▸ hv.nodup, fun l hl => ?_⟩
    rw [counted]
    exact List.mem_append_left _ (hv.turned l (turned ▸ hl))
  | false =>
    have turned : v.heartbeat.turned = v.turned ++ [link] := by
      simp [Watch.heartbeat, hr, hearing]
    -- A link on which the session turned ready has counted, and then the session would be ready.
    have new : link ∉ v.turned := fun hl => by
      cases hr.symm.trans (first.2 (hv.turned link hl))
    refine ⟨?_, fun l hl => ?_⟩
    · rw [turned, List.perm_append_comm.nodup_iff]
      exact List.nodup_cons.2 ⟨new, hv.nodup⟩
    · rw [turned, List.mem_append] at hl
      rw [counted, List.mem_append]
      exact hl.imp_left (hv.turned l)

/-- What an event adds. -/
def see (v : Watch) : Event → Watch
  | .noticed _ (.connected _) | .noticed _ (.disconnected _) | .disconnect | .started =>
    { v with ready := false }
  | .noticed link (.message m) =>
    if (Notice.message m).isHeartbeat then { v with hearing := some link } else v
  | .beat connected _ => if connected then v.heartbeat else { v with hearing := none }
  | .idleSet m _ => { v with idle := m, due := if v.ready then v.due ++ m.toList else v.due }
  | .handOff .idle m _ => { v with handed := v.handed ++ m.toList }
  | _ => v

theorem see_of_routine {e : Event} (h : e.routine = true) (v : Watch) : v.see e = v := by
  cases e with
  | handOff label m accepted =>
    cases label with
    | idle => cases h
    | _ => rfl
  | noticed link n =>
    cases n with
    | message m =>
      have quiet : (Notice.message m).isHeartbeat = false := by simpa [Event.routine] using h
      simp [see, quiet]
    | _ => cases h
  | disconnect | started | idleSet | beat => cases h
  | _ => rfl

end Watch

/-- What a history tells. -/
def watch (h : List Event) : Watch :=
  h.foldl Watch.see {}

@[simp] theorem watch_nil : watch [] = {} := rfl

@[simp] theorem watch_concat (h : List Event) (e : Event) : watch (h ++ [e]) = (watch h).see e := by
  simp [watch]

theorem watch_append_routine (h : List Event) {es : List Event}
    (hes : ∀ e ∈ es, e.routine = true) : watch (h ++ es) = watch h := by
  induction es generalizing h with
  | nil => simp
  | cons e es ih =>
    obtain ⟨he, hes⟩ := List.forall_mem_cons.1 hes
    rw [List.append_cons, ih _ hes, watch_concat, Watch.see_of_routine he]

/-- What the history before an event demands of it. -/
structure Dutiful (before : List Event) (e : Event) : Prop where
  /-- The session looks at a heartbeat at once. -/
  prompt : (watch before).hearing ≠ none → ∃ connected ready, e = .beat connected ready
  /-- Whenever it looks, it is at a heartbeat on some link, and it sees rightly whether it is ready.
  It finds the transport not connected only if that link was closed, and otherwise it is not ready
  exactly if no heartbeat on that link has counted yet. -/
  beat : ∀ connected ready, e = .beat connected ready → ∃ link,
    (watch before).hearing = some (some link) ∧ ready = (watch before).ready ∧
      (connected = false → .link (.closed link) ∈ before) ∧
      (connected = true → (ready = false ↔ link ∉ (watch before).counted))
  /-- So it does when the idle message is set. -/
  idleSet : ∀ m ready, e = .idleSet m ready → ready = (watch before).ready
  /-- An idle message is handed over only if it is due. -/
  handed : ∀ m accepted, e = .handOff .idle m accepted → ∃ message, m = some message ∧
    (watch before).handed ++ [message] = (watch before).due
  /-- And once it is due nothing else comes first, apart from reports. -/
  settled : e.report = false → (∀ m accepted, e ≠ .handOff .idle m accepted) →
    (watch before).handed = (watch before).due

/-! ## Histories of dutiful events -/

/-- A history of dutiful events, after which the idle message `owed` is still to be handed over. -/
structure Composed (owed : Option Message) (h : List Event) : Prop where
  each : Each Dutiful h
  hearing : (watch h).hearing = none
  settled : (watch h).handed ++ owed.toList = (watch h).due
  tidy : (watch h).Tidy
  used : ∀ link ∈ (watch h).counted, ∃ e ∈ h, e.use? = some link

namespace Composed

variable {owed : Option Message} {h : List Event}

theorem nil : Composed none [] where
  each := .nil
  hearing := rfl
  settled := rfl
  tidy := ⟨List.nodup_nil, nofun⟩
  used := nofun

/-- One more event that leaves the links and the heartbeats alone. -/
theorem concat (hc : Composed owed h) {owed' : Option Message} {e : Event} (he : Dutiful h e)
    (hearing : ((watch h).see e).hearing = none)
    (settled : ((watch h).see e).handed ++ owed'.toList = ((watch h).see e).due)
    (turned : ((watch h).see e).turned = (watch h).turned)
    (counted : ((watch h).see e).counted = (watch h).counted) : Composed owed' (h ++ [e]) where
  each := hc.each.concat he
  hearing := by rw [watch_concat, hearing]
  settled := by rw [watch_concat, settled]
  tidy := by
    rw [watch_concat]
    exact ⟨turned ▸ hc.tidy.nodup, turned ▸ counted ▸ hc.tidy.turned⟩
  used link hl := by
    rw [watch_concat, counted] at hl
    obtain ⟨e', he', hu⟩ := hc.used link hl
    exact ⟨e', List.mem_append_left _ he', hu⟩

/-- An event that is neither a look at a heartbeat nor has to do with the idle message. -/
theorem dutiful (hc : Composed owed h) {e : Event} (beat : ∀ c r, e ≠ .beat c r)
    (idleSet : ∀ m r, e ≠ .idleSet m r) (handOff : ∀ m a, e ≠ .handOff .idle m a)
    (quiet : owed = none ∨ e.report = true) : Dutiful h e where
  prompt := absurd hc.hearing
  beat c r he := absurd he (beat c r)
  idleSet m r he := absurd he (idleSet m r)
  handed m a he := absurd he (handOff m a)
  settled report _ := by
    rcases quiet with rfl | quiet
    · simpa using hc.settled
    · cases report.symm.trans quiet

theorem routine (hc : Composed owed h) {es : List Event} (hes : ∀ e ∈ es, e.routine = true)
    (quiet : owed = none ∨ ∀ e ∈ es, e.report = true) : Composed owed (h ++ es) := by
  induction es generalizing h with
  | nil => simpa using hc
  | cons e es ih =>
    obtain ⟨he, hes⟩ := List.forall_mem_cons.1 hes
    have quiet' : owed = none ∨ e.report = true :=
      quiet.imp_right fun quiet => quiet e List.mem_cons_self
    have dutiful : Dutiful h e := by
      refine hc.dutiful ?_ ?_ ?_ quiet' <;> rintro _ _ rfl <;> cases he
    have same := Watch.see_of_routine he (watch h)
    rw [List.append_cons]
    refine ih (hc.concat dutiful ?_ ?_ ?_ ?_) hes
      (quiet.imp_right fun quiet e he => quiet e (List.mem_cons_of_mem _ he))
    · rw [same, hc.hearing]
    · rw [same, hc.settled]
    · rw [same]
    · rw [same]

/-- The link comes up or ends, or a run begins. -/
theorem unready (hc : Composed none h) {e : Event}
    (he : ∀ v : Watch, v.see e = { v with ready := false }) (beat : ∀ c r, e ≠ .beat c r)
    (idleSet : ∀ m r, e ≠ .idleSet m r) (handOff : ∀ m a, e ≠ .handOff .idle m a) :
    Composed none (h ++ [e]) := by
  refine hc.concat (hc.dutiful beat idleSet handOff (.inl rfl)) ?_ ?_ ?_ ?_ <;> rw [he]
  · exact hc.hearing
  · exact hc.settled

theorem idleSet (hc : Composed none h) (m : Option Message) :
    Composed (if (watch h).ready then m else none) (h ++ [.idleSet m (watch h).ready]) := by
  have settled : (watch h).handed = (watch h).due := by simpa using hc.settled
  have dutiful : Dutiful h (.idleSet m (watch h).ready) := {
    prompt := absurd hc.hearing
    beat := nofun
    idleSet := by
      rintro _ _ ⟨⟩
      rfl
    handed := nofun
    settled := fun _ _ => settled }
  refine hc.concat dutiful hc.hearing ?_ rfl rfl
  cases hr : (watch h).ready <;> simp [Watch.see, hr, settled]

theorem handOff {message : Message} (hc : Composed (some message) h) (accepted : Bool) :
    Composed none (h ++ [.handOff .idle (some message) accepted]) := by
  have dutiful : Dutiful h (.handOff .idle (some message) accepted) := {
    prompt := absurd hc.hearing
    beat := nofun
    idleSet := nofun
    handed := by
      rintro _ _ ⟨⟩
      exact ⟨message, rfl, hc.settled⟩
    settled := fun _ other => absurd rfl (other _ _) }
  refine hc.concat dutiful hc.hearing ?_ rfl rfl
  simpa [Watch.see] using hc.settled

/-! A heartbeat comes in on a link, and the session looks at it. -/

section Heartbeat

variable {link : Nat} {m : Message} (status : m.kind? = some .agentStatus)

include status

theorem watch_heard : watch (h ++ [.noticed (some link) (.message (some m))]) =
    { watch h with hearing := some (some link) } := by
  simp [Watch.see, Notice.isHeartbeat, status]

theorem watch_beat (connected ready : Bool) :
    watch (h ++ [.noticed (some link) (.message (some m)), .beat connected ready]) =
      if connected then { watch h with hearing := some (some link) }.heartbeat
      else { watch h with hearing := none } := by
  rw [List.append_cons, watch_concat, watch_heard status]
  rfl

variable {connected : Bool} (gone : connected = false → .link (.closed link) ∈ h)
  (first : (watch h).ready = true ↔ link ∈ (watch h).counted)

include gone first

theorem each_beat (hc : Composed none h) : Each Dutiful
    (h ++ [.noticed (some link) (.message (some m)), .beat connected (watch h).ready]) := by
  have noticed : Dutiful h (.noticed (some link) (.message (some m))) :=
    hc.dutiful nofun nofun nofun (.inl rfl)
  have looked : Dutiful (h ++ [.noticed (some link) (.message (some m))])
      (.beat connected (watch h).ready) := {
    prompt := fun _ => ⟨_, _, rfl⟩
    beat := by
      rintro _ _ ⟨⟩
      rw [watch_heard status]
      refine ⟨link, rfl, rfl, fun hd => List.mem_append_left _ (gone hd), fun _ => ?_⟩
      rw [← first, Bool.not_eq_true]
    idleSet := nofun
    handed := nofun
    settled := fun _ _ => by
      rw [watch_heard status]
      simpa using hc.settled }
  rw [List.append_cons]
  exact (hc.each.concat noticed).concat looked

theorem beat (hc : Composed none h) (used : ∃ e ∈ h, e.use? = some link) :
    Composed (if connected && !(watch h).ready then (watch h).idle else none)
      (h ++ [.noticed (some link) (.message (some m)), .beat connected (watch h).ready]) := by
  have settled : (watch h).handed = (watch h).due := by simpa using hc.settled
  -- Two events at a time: between them the heartbeat is heard but not yet looked at.
  have each := hc.each_beat status gone first
  have seen : watch (h ++ [.noticed (some link) (.message (some m)),
      .beat connected (watch h).ready]) = _ := watch_beat status connected _
  have mem {e : Event} (he : e ∈ h) : e ∈ h ++
      [.noticed (some link) (.message (some m)), .beat connected (watch h).ready] :=
    List.mem_append_left _ he
  cases connected with
  | false =>
    refine ⟨each, ?_, ?_, ?_, ?_⟩ <;> rw [seen]
    · rfl
    · simpa using settled
    · exact ⟨hc.tidy.nodup, hc.tidy.turned⟩
    · intro l hl
      obtain ⟨e, he, hu⟩ := hc.used l hl
      exact ⟨e, mem he, hu⟩
  | true =>
    refine ⟨each, ?_, ?_, ?_, ?_⟩ <;> rw [seen]
    · rfl
    · cases hr : (watch h).ready <;> simp [Watch.heartbeat, hr, settled]
    · exact Watch.Tidy.heartbeat ⟨hc.tidy.nodup, hc.tidy.turned⟩ rfl first
    · intro l hl
      obtain ⟨e, he, hu⟩ : ∃ e ∈ h, e.use? = some l := by
        rcases List.mem_append.1 hl with hl | hl
        · exact hc.used l hl
        · obtain rfl : l = link := by simpa using hl
          exact used
      exact ⟨e, mem he, hu⟩

end Heartbeat

end Composed

/-! ## Sessions that agree with their history -/

/-- A session that agrees with its history and believes its link to stand as `st`. The idle message
`owed` is still to be handed over. A session that does not run has no link; `awake` says that it is
known to run. -/
structure Attentive (awake : Bool) (owed : Option Message) (st : Standing) (w : World χ π) :
    Prop where
  composed : Composed owed w.history
  ready : w.session.ready = (watch w.history).ready
  idle : w.session.idle = (watch w.history).idle
  counted : ∀ link, st = .up link →
    (w.session.ready = true ↔ link ∈ (watch w.history).counted)
  running : awake = true → w.session.running = true
  stopped : w.session.running = false → st = .away

namespace Attentive

variable {awake : Bool} {owed : Option Message} {st : Standing} {w w' : World χ π}

theorem grow (h : Attentive awake owed st w) {es : List Event}
    (history : w'.history = w.history ++ es)
    (attention : w'.session.attention = w.session.attention)
    (hes : ∀ e ∈ es, e.routine = true) (quiet : owed = none ∨ ∀ e ∈ es, e.report = true) :
    Attentive awake owed st w' := by
  obtain ⟨running, ready, -, idle⟩ := Session.attention_eq_iff.1 attention
  have same : watch w'.history = watch w.history := by
    rw [history, watch_append_routine _ hes]
  constructor
  · rw [history]
    exact h.composed.routine hes quiet
  · rw [ready, same, h.ready]
  · rw [idle, same, h.idle]
  · rw [ready, same]
    exact h.counted
  · rw [running]
    exact h.running
  · rw [running]
    exact h.stopped

/-- Routine leaves a session attentive, once nothing is owed. -/
theorem routine (h : Attentive awake none st w)
    (hs : w.Same Session.attention Event.routine w') : Attentive awake none st w' := by
  obtain ⟨es, history, hes⟩ := hs.history
  exact h.grow history hs.part hes (.inl rfl)

theorem reports (h : Attentive awake owed st w) (hr : w.Reports w') :
    Attentive awake owed st w' := by
  obtain ⟨es, history, hes⟩ := hr.history
  have session : w'.session = w.session := hr.part
  exact h.grow history (by rw [session]) (fun e he => Event.routine_of_report (hes e he)) (.inr hes)

theorem handOff {message : Message} (h : Attentive awake (some message) st w) (accepted : Bool) :
    Attentive awake none st (w.note (.handOff .idle (some message) accepted)) := by
  constructor <;> simp only [World.history_note, World.note_session, watch_concat]
  · exact h.composed.handOff accepted
  · exact h.ready
  · exact h.idle
  · exact h.counted
  · exact h.running
  · exact h.stopped

theorem idleSet (h : Attentive awake none st w) (m : Option Message) :
    Attentive awake (if w.session.ready then m else none) st
      ((w.remember fun s => { s with idle := m }).note (.idleSet m w.session.ready)) := by
  constructor <;> simp only [World.history_note, World.history_remember, World.note_session,
    World.remember_session, watch_concat]
  · rw [h.ready]
    exact h.composed.idleSet m
  · exact h.ready
  · rfl
  · exact h.counted
  · exact h.running
  · exact h.stopped

/-- A run begins, while there is no link. -/
theorem started (h : Attentive awake none st w) (stopped : w.session.running = false) (run : Text) :
    Attentive awake none st ((w.note .started).remember fun s =>
      { s with running := true, stopRequested := false, run, tries := 0, ready := false }) := by
  obtain rfl := h.stopped stopped
  constructor <;> simp only [World.history_note, World.history_remember, World.note_session,
    World.remember_session, watch_concat]
  · exact h.composed.unready (fun _ => rfl) nofun nofun nofun
  · rfl
  · exact h.idle
  · nofun
  · exact fun _ => trivial
  · nofun

/-- A link comes up that was not in use before. -/
theorem connected {link : Nat} (h : Attentive awake none (.waiting link) w) (session : Text)
    (unused : ∀ e ∈ w.history, e.use? ≠ some link) :
    Attentive awake none (.up link) ((w.note (.noticed (some link) (.connected session))).remember
      fun s => { s with ready := false }) := by
  constructor <;> simp only [World.history_note, World.history_remember, World.note_session,
    World.remember_session, watch_concat]
  · exact h.composed.unready (fun _ => rfl) nofun nofun nofun
  · rfl
  · exact h.idle
  · rintro _ ⟨⟩
    refine iff_of_false nofun fun counted => ?_
    obtain ⟨e, he, hu⟩ := h.composed.used link counted
    exact unused e he hu
  · exact h.running
  · intro stopped
    cases h.stopped stopped

/-- A link ends. -/
theorem ended (h : Attentive awake none st w) {e : Event}
    (he : e = .disconnect ∨ ∃ link reason, e = .noticed link (.disconnected reason)) :
    Attentive awake none .away ((w.note e).remember fun s => { s with ready := false }) := by
  have unready (v : Watch) : v.see e = { v with ready := false } := by
    rcases he with rfl | ⟨link, reason, rfl⟩ <;> rfl
  constructor <;> simp only [World.history_note, World.history_remember, World.note_session,
    World.remember_session, watch_concat, unready]
  · refine h.composed.unready unready ?_ ?_ ?_ <;> rintro _ _ rfl <;>
      rcases he with he | ⟨link, reason, he⟩ <;> cases he
  · exact h.idle
  · nofun
  · exact h.running
  · exact fun _ => trivial

/-- A running session may ask for a link. -/
theorem asked (h : Attentive true none .away w) (down : ∀ link, st ≠ .up link) :
    Attentive true none st w where
  composed := h.composed
  ready := h.ready
  idle := h.idle
  counted link up := absurd up (down link)
  running := h.running
  stopped stopped := by cases stopped.symm.trans (h.running rfl)

/-! A heartbeat comes in on the link that is up. -/

section Heartbeat

variable {link : Nat} {m : Message} (h : Attentive awake none (.up link) w)
  (status : m.kind? = some .agentStatus) (used : ∃ e ∈ w.history, e.use? = some link)

include h status used

theorem composed_beat (connected : Bool)
    (gone : connected = false → .link (.closed link) ∈ w.history) :
    Composed (if connected && !w.session.ready then w.session.idle else none)
      ((w.note (.noticed (some link) (.message (some m)))).note
        (.beat connected w.session.ready)).history := by
  have first := h.counted link rfl
  rw [h.ready] at first
  rw [World.history_note, World.history_note, List.append_assoc, h.ready, h.idle]
  exact h.composed.beat status gone first used

omit h used in
theorem watch_beat (w : World χ π) (link : Nat) (connected ready : Bool) : watch
    ((w.note (.noticed (some link) (.message (some m)))).note (.beat connected ready)).history =
      if connected then { watch w.history with hearing := some (some link) }.heartbeat
      else { watch w.history with hearing := none } := by
  rw [World.history_note, World.history_note, List.append_assoc]
  exact Composed.watch_beat status connected ready

/-- It does not count if the link is closed already. -/
theorem ignored {connected : Bool} (lost : connected = false)
    (gone : .link (.closed link) ∈ w.history) : Attentive awake none (.up link)
      ((w.note (.noticed (some link) (.message (some m)))).note
        (.beat connected w.session.ready)) := by
  subst lost
  have seen := watch_beat status w link false w.session.ready
  refine ⟨h.composed_beat status used false fun _ => gone, ?_, ?_, ?_, h.running, h.stopped⟩
  · rw [seen]
    exact h.ready
  · rw [seen]
    exact h.idle
  · rw [seen]
    exact h.counted

/-- If it counts, the idle message is owed unless the session was ready. -/
theorem beat {connected : Bool} (up : connected = true) (now : Instant) :
    Attentive awake (if w.session.ready then none else w.session.idle) (.up link)
      (((w.note (.noticed (some link) (.message (some m)))).note
        (.beat connected w.session.ready)).remember fun s =>
          { s with lastHeartbeat := now, ready := true }) := by
  subst up
  have seen := watch_beat status w link true w.session.ready
  have composed := h.composed_beat status used true nofun
  refine ⟨?_, ?_, ?_, ?_, h.running, h.stopped⟩
  · cases hr : w.session.ready <;> simpa [hr] using composed
  · rw [World.history_remember, seen]
    rfl
  · rw [World.history_remember, seen]
    exact h.idle
  · rintro _ ⟨⟩
    rw [World.history_remember, seen]
    exact iff_of_true rfl (List.mem_append_right _ List.mem_cons_self)

end Heartbeat

end Attentive

/-- A session that has dropped its link, though it may still believe that it is ready. -/
def Parting (awake : Bool) (w : World χ π) : Prop :=
  Attentive awake none .away (w.remember fun s => { s with ready := false })

theorem Parting.routine {awake : Bool} {w w' : World χ π} (h : Parting awake w)
    (hs : w.Routine w') : Parting awake w' := by
  obtain ⟨running, -, beat, idle⟩ := Session.attention_eq_iff.1 hs.part
  exact Attentive.routine h ⟨Session.attention_eq_iff.2 ⟨running, rfl, beat, idle⟩, hs.journal⟩

/-- A run ends once the link has been dropped. -/
theorem Parting.stopped {awake : Bool} {w : World χ π} (h : Parting awake w) :
    Attentive false none .away (w.remember fun s =>
      { Wiring.discardWork s with running := false, ready := false }) where
  composed := h.composed
  ready := h.ready
  idle := h.idle
  counted := nofun
  running := nofun
  stopped _ := rfl

namespace Wiring

open Act

/-! ## Operations -/

section Operations

variable {W : Wiring χ π ι} {awake : Bool} {owed : Option Message} {st : Standing} {w : World χ π}

theorem attentive_of_routine {α : Type} {x : Act χ π α} (h : Keeps World.Routine x) :
    Upholds (Attentive awake none st) x :=
  fun w => (h w).mono fun _ _ hr h => h.routine hr.toSame

theorem attentive_of_reports {α : Type} {x : Act χ π α} (h : Keeps World.Reports x) :
    Upholds (Attentive awake owed st) x :=
  fun w => (h w).mono fun _ _ hr h => h.reports hr

theorem parting_of_routine {α : Type} {x : Act χ π α} (h : Keeps World.Routine x) :
    Upholds (Parting awake) x :=
  fun w => (h w).mono fun _ _ hr h => h.routine hr

/-- The idle message that is owed is handed over. -/
theorem attentive_sendIdle {message : Message} (h : Attentive awake (some message) st w) :
    Yields (W.send .idle (some message)) w fun _ w' => Attentive awake none st w' := by
  refine (send_reports .idle (some message) w).mono ?_
  rintro _ w' ⟨accepted, w₁, before, after⟩
  exact ((h.reports before).handOff accepted).reports after

theorem attentive_start : Upholds (Attentive awake none st) W.start := by
  refine upholds_iff.2 fun w h => (yields_bind _ _).2 (yields_get.2 ?_)
  refine (yields_ite _ _).2 ⟨fun stopped => ?_, fun _ => (yields_pure _).2 h⟩
  refine (yields_bind _ _).2 ((yields_modify _).2 ((yields_bind _ _).2 ((yields_modify _).2 ?_)))
  refine (yields_bind _ _).2 ((yields_modify _).2 ?_)
  have drawn : Attentive awake none st { w with draws := w.draws + 1 } :=
    h.reports ⟨⟨rfl, [], rfl, by simp⟩, rfl⟩
  exact upholds_iff.1 (attentive_of_reports (reporting_reports.log _ _ _)) _
    (drawn.started (by simpa using stopped) _)

theorem attentive_setIdle (m : Option Message) :
    Upholds (Attentive awake none st) (W.setIdle m) := by
  refine upholds_iff.2 fun w h => (yields_bind _ _).2 ((yields_modify _).2 ?_)
  refine (yields_bind _ _).2 (yields_get.2 ((yields_bind _ _).2 ((yields_modify _).2 ?_)))
  have set := h.idleSet m
  refine (yields_ite _ _).2 ⟨fun due => ?_, fun notDue => ?_⟩
  · obtain ⟨ready, isSome⟩ : w.session.ready = true ∧ m.isSome = true :=
      Bool.and_eq_true_iff.1 due
    obtain ⟨message, rfl⟩ := Option.isSome_iff_exists.1 isSome
    rw [if_pos ready] at set
    exact attentive_sendIdle set
  · have owed : (if w.session.ready then m else none) = none := by
      cases m with
      | none => exact ite_self none
      | some message => exact if_neg fun ready => notDue (Bool.and_eq_true_iff.2 ⟨ready, rfl⟩)
    rw [owed] at set
    exact (yields_pure _).2 set

theorem attentive_perform (c : Call) : Upholds (Attentive awake none st) (W.perform c) := by
  by_cases start : c = .start
  · subst start
    exact .bind attentive_start fun _ => .pure _
  by_cases setIdle : ∃ m, c = .setIdle m
  · obtain ⟨m, rfl⟩ := setIdle
    exact .bind (attentive_setIdle m) fun _ => .pure _
  · exact attentive_of_routine (clerical_routine.perform start fun m hm => setIdle ⟨m, hm⟩)

theorem parting_disconnect (h : Attentive awake none st w) :
    Yields W.disconnect w fun _ w' => Parting awake w' := by
  refine (yields_bind _ _).2 ((yields_modify _).2 ((yields_bind _ _).2 (yields_get.2 ?_)))
  have dropped : Parting awake (w.note .disconnect) := h.ended (.inl rfl)
  exact upholds_iff.1 (parting_of_routine (reporting_routine.adopt _)) _ dropped

theorem parting_unready (h : Parting awake w) :
    Yields (setReady false : Act χ π Unit) w fun _ w' => Attentive awake none .away w' := by
  refine (yields_bind _ _).2 ((yields_modify _).2 ?_)
  exact upholds_iff.1 (attentive_of_reports (reporting_reports.count _)) _ h

/-- A link comes up that was not in use before. -/
theorem attentive_connected {link : Nat} (session : Text)
    (h : Attentive awake none (.waiting link) w)
    (unused : ∀ e ∈ w.history, e.use? ≠ some link) :
    Yields (W.takeNotice (some link) (.connected session)) w fun _ w' =>
      Attentive awake none (.up link) w' := by
  refine (yields_bind _ _).2 ((yields_modify _).2 ((yields_bind _ _).2 ((yields_bind _ _).2 ?_)))
  refine (yields_modify _).2 ((reporting_reports.count _ _).mono fun _ w₁ counted => ?_)
  have up := (h.connected session unused).reports counted
  exact upholds_iff.1 (attentive_of_routine (.bind (reporting_routine.log _ _ _) fun _ =>
    .bind (routine_offer _ _ _) fun _ => routine_offer _ _ _)) w₁ up

section Message

variable {link : Nat} {m : Message} (h : Attentive awake none (.up link) w)
  (used : ∃ e ∈ w.history, e.use? = some link)
  (gone : W.transport.connected w.channel = false → .link (.closed link) ∈ w.history)

include h used gone

theorem attentive_heartbeat (status : m.kind? = some .agentStatus) :
    Yields W.onHeartbeat (w.note (.noticed (some link) (.message (some m)))) fun _ w' =>
      Attentive awake none (.up link) w' := by
  refine (yields_bind _ _).2 (yields_get.2 ((yields_bind _ _).2 ((yields_modify _).2 ?_)))
  refine (yields_ite _ _).2 ⟨fun up => ?_, fun lost => (yields_pure _).2 ?_⟩
  · refine (yields_bind _ _).2 ((yields_modify _).2 ((yields_bind _ _).2 ?_))
    refine (reporting_reports.count _ _).mono fun _ w₁ counted => ?_
    have beat := (h.beat status used up w.clock).reports counted
    refine (yields_ite _ _).2 ⟨fun unready => ?_, fun ready => (yields_pure _).2 ?_⟩
    · have unready : ¬w.session.ready = true := by simpa using unready
      rw [if_neg unready] at beat
      refine (yields_bind _ _).2 ((reporting_reports.count _ _).mono fun _ w₂ marked => ?_)
      refine (yields_bind _ _).2 ((reporting_reports.log _ _ _ _).mono fun _ w₃ logged => ?_)
      have owing := (beat.reports marked).reports logged
      refine (yields_ite _ _).2 ⟨fun isSome => ?_, fun isNone => (yields_pure _).2 ?_⟩
      · obtain ⟨message, idle⟩ : ∃ message, w.session.idle = some message :=
          Option.isSome_iff_exists.1 isSome
        rw [idle] at owing
        change Yields (W.send .idle w.session.idle) w₃ _
        rw [idle]
        exact attentive_sendIdle owing
      · have idle : w.session.idle = none := Option.not_isSome_iff_eq_none.1 isNone
        rwa [idle] at owing
    · have ready : w.session.ready = true := by simpa using ready
      rwa [if_pos ready] at beat
  · exact h.ignored status used (by simpa using lost) (gone (by simpa using lost))

theorem attentive_message : Yields (W.takeNotice (some link) (.message (some m))) w fun _ w' =>
    Attentive awake none (.up link) w' := by
  by_cases status : m.kind? = some .agentStatus
  · have answer : W.onMessage (some m) = W.onHeartbeat := by
      cases m <;> first | rfl | cases status
    refine (yields_bind _ _).2 ((yields_modify _).2 ?_)
    change Yields (W.onMessage (some m)) _ _
    rw [answer]
    exact attentive_heartbeat h used gone status
  · have routine : Keeps World.Routine (W.takeNotice (some link) (.message (some m))) :=
      .bind (routine_record (by simpa [Event.routine, Notice.isHeartbeat] using status)) fun _ =>
        routine_onMessage status
    exact upholds_iff.1 (attentive_of_routine routine) w h

end Message

end Operations

end Wiring

end Teleop
