import Teleop.Proofs.Session.Moves

/-!
# What calls come to

A call leaves the work and the budget of a session alone, changes its queues, starts a run, or asks
for a connection, perhaps after handing in some work. `Wiring.Called` lists the cases and
`perform_cases` says that there are no others.
-/

namespace Teleop

variable {χ π ι : Type}

/-- The log entry about messages that the backlog dropped. -/
def overflowEntry (dropped : Nat) : Log.Entry where
  level := .warn
  message := utf8 "outgoing buffer full, dropped oldest messages"
  fields := [Log.intField "dropped" dropped]

/-- The world after the backlog reported how many messages it dropped. -/
def World.overflowing (dropped : Nat) (w : World χ π) : World χ π :=
  if 0 < dropped then
    (w.note (.overflowed dropped)).note (.logged .session (overflowEntry dropped))
  else w

/-- The work of a session, its budget, and whether a connection is wanted. -/
def Session.business (s : Session) : Backlog × Option Message × List Queue × Nat × Bool :=
  (s.backlog, s.request, s.queues, s.tries, s.connectRequested)

namespace Wiring

/-- Work is handed in, or none. -/
inductive Engaged : World χ π → World χ π → Prop
  | nothing (w : World χ π) : Engaged w w
  | requested (w : World χ π) (m : Option Message) :
    Engaged w ((w.note (.requested m)).remember fun s => { s with request := m })
  | submitted {w w' : World χ π} (m : Option Message) {dropped : Nat} {backlog : Backlog}
    (h : w.session.backlog.push m = .ok (dropped, backlog))
    (h' : w' = World.overflowing dropped ((w.note (.submitted m)).remember fun s =>
      { s with backlog })) : Engaged w w'
  | batched (w : World χ π) (number : Nat) (batch : List (Option Message)) {q : Queue}
    (h : w.session.queues[number]? = some q) (isOpen : q.closed = false) :
    Engaged w ((w.note (.batched number batch)).remember fun s =>
      { s with queues := s.queues.modify number (·.put batch) })

/-- What a call comes to. -/
inductive Called : World χ π → World χ π → Prop
  /-- Work and budget stay as they are. -/
  | quiet {w w' : World χ π} (h : w.Same Session.business Event.passing w') : Called w w'
  /-- There is a new queue. -/
  | created (w : World χ π) (interval : Duration) :
    Called w (w.remember fun s => { s with queues := s.queues ++ [{ interval }] })
  /-- A queue is emptied. -/
  | cleared (w : World χ π) (number : Nat) {q : Queue} (h : w.session.queues[number]? = some q) :
    Called w ((w.note (.cleared number)).remember fun s =>
      { s with queues := s.queues.modify number Queue.clear })
  /-- A queue is closed. -/
  | closed (w : World χ π) (number : Nat) {q : Queue} (h : w.session.queues[number]? = some q) :
    Called w ((w.note (.closed number)).remember fun s =>
      { s with queues := s.queues.modify number Queue.close })
  /-- A run begins. -/
  | started {w w' : World χ π} (run : Text) (h : w.session.running = false)
    (h' : ((w.note .started).remember fun s =>
      { s with running := true, stopRequested := false, run, tries := 0, ready := false }).Passing
      w') : Called w w'
  /-- A connection is asked for. -/
  | wanted {w w₁ : World χ π} (h : Engaged w w₁) :
    Called w ((w₁.note .wanted).remember fun s => { s with connectRequested := true, tries := 0 })

variable {W : Wiring χ π ι}

open Act

theorem noteOverflow_cases (dropped : Nat) (w : World χ π) :
    Yields (noteOverflow dropped) w fun _ w' => w' = World.overflowing dropped w := by
  unfold noteOverflow World.overflowing
  split
  · exact (yields_bind _ _).2 ((yields_modify _).2 ((yields_modify _).2 rfl))
  · exact (yields_pure _).2 rfl

theorem requestConnect_cases {w w₁ : World χ π} (h : Engaged w w₁) :
    Yields (requestConnect : Act χ π Unit) w₁ fun _ w' => Called w w' :=
  (yields_bind _ _).2 ((yields_modify _).2 ((yields_modify _).2 (.wanted h)))

theorem setRequest_cases (m : Option Message) (w : World χ π) :
    Yields (setRequest m : Act χ π Unit) w fun _ w' => Called w w' := by
  refine (yields_bind _ _).2 ((yields_modify _).2 ((yields_bind _ _).2 ((yields_modify _).2 ?_)))
  exact requestConnect_cases (.requested w m)

theorem requestBuilt_cases (b : Message.Built) (w : World χ π) :
    Yields (requestBuilt b : Act χ π CallReply) w fun _ w' => Called w w' := by
  unfold requestBuilt
  split
  · refine (yields_bind _ _).2 ((setRequest_cases _ w).mono fun _ w' h => (yields_pure _).2 h)
  · exact (yields_bind _ _).2 ((yields_pure _).2 ((yields_pure _).2 (.quiet ⟨rfl, [], by simp⟩)))

theorem submit_cases (m : Option Message) (w : World χ π) :
    Yields (submit m : Act χ π Unit) w fun _ w' => Called w w' := by
  refine (yields_bind _ _).2 (yields_get.2 ((yields_bind _ _).2 ((yields_lift _).2 ?_)))
  rintro ⟨dropped, backlog⟩ pushed
  refine (yields_bind _ _).2 ((yields_modify _).2 ((yields_bind _ _).2 ((yields_modify _).2 ?_)))
  refine (yields_bind _ _).2 ((noteOverflow_cases dropped _).mono fun _ w₁ h₁ => ?_)
  exact requestConnect_cases (.submitted m pushed h₁)

theorem putBatch_cases (number : Nat) (batch : List (Option Message)) (w : World χ π) :
    Yields (putBatch number batch : Act χ π Unit) w fun _ w' => Called w w' := by
  refine (yields_bind _ _).2 ((yields_bind _ _).2 (yields_get.2 ?_))
  split
  case h_1 q hq =>
    refine (yields_pure _).2 ((yields_ite _ _).2 ⟨fun isOpen => ?_, fun _ => ?_⟩)
    · refine (yields_bind _ _).2 ((yields_modify _).2 ?_)
      refine (yields_bind _ _).2 ((yields_modify _).2 ?_)
      exact requestConnect_cases (.batched w number batch hq (by simpa using isOpen))
    · exact (yields_pure _).2 (.quiet ⟨rfl, [], by simp⟩)
  case h_2 => exact (yields_throw _).2 trivial

theorem start_cases (w : World χ π) : Yields W.start w fun _ w' => Called w w' := by
  refine (yields_bind _ _).2 (yields_get.2 ((yields_ite _ _).2 ⟨fun h => ?_, fun _ => ?_⟩))
  · refine (yields_bind _ _).2 ((yields_modify _).2 ((yields_bind _ _).2 ((yields_modify _).2 ?_)))
    refine (yields_bind _ _).2 ((yields_modify _).2 ?_)
    refine (gentle_passing.log _ _ _ _).mono fun _ w' h' => ?_
    refine .started (W.uuid w.draws).text (by simpa using h) (World.Passing.trans ?_ h')
    exact .of_eq rfl rfl
  · exact (yields_pure _).2 (.quiet ⟨rfl, [], by simp⟩)

theorem setIdle_cases (m : Option Message) (w : World χ π) :
    Yields (W.setIdle m) w fun _ w' => Called w w' := by
  refine (yields_bind _ _).2 ((yields_modify _).2 ((yields_bind _ _).2 (yields_get.2 ?_)))
  refine (yields_bind _ _).2 ((yields_modify _).2 ?_)
  have quiet (w' : World χ π)
      (h : ((w.remember fun s => { s with idle := m }).note (.idleSet m w.session.ready)).Passing
        w') : Called w w' := by
    have set : w.Same Session.business Event.passing
        ((w.remember fun s => { s with idle := m }).note (.idleSet m w.session.ready)) :=
      ⟨rfl, [_], rfl, by simp [Event.passing]⟩
    exact .quiet (set.trans (h.same (fun _ _ _ _ _ _ => rfl) fun _ h => h))
  refine (yields_ite _ _).2 ⟨fun _ => ?_, fun _ => ?_⟩
  · exact (gentle_passing.sendPassing rfl m _).mono fun _ w' h => quiet w' h
  · exact (yields_pure _).2 (quiet _ (.refl _))

/-- What is done to a queue that exists is recorded and then done. -/
theorem changeQueue_cases (number : Nat) (e : Event) (f : Queue → Queue) (w : World χ π)
    (called : ∀ q, w.session.queues[number]? = some q →
      Called w ((w.note e).remember fun s => { s with queues := s.queues.modify number f })) :
    Yields (do let _ ← queue number; record e; changeQueue number f; return .none :
      Act χ π CallReply) w fun _ w' => Called w w' := by
  refine (yields_bind _ _).2 ((yields_bind _ _).2 (yields_get.2 ?_))
  split
  · next q hq =>
    refine (yields_pure _).2 ((yields_bind _ _).2 ((yields_modify _).2 ((yields_bind _ _).2 ?_)))
    exact (yields_modify _).2 ((yields_pure _).2 (called q hq))
  · exact (yields_throw _).2 trivial

theorem perform_cases (c : Call) (w : World χ π) :
    Yields (W.perform c) w fun _ w' => Called w w' := by
  have done {x : Act χ π Unit} (h : Yields x w fun _ w' => Called w w') :
      Yields (do x; return .none : Act χ π CallReply) w fun _ w' => Called w w' :=
    (yields_bind _ _).2 (h.mono fun _ _ h => (yields_pure _).2 h)
  have quiet (f : Session → Session) (hf : (f w.session).business = w.session.business) :
      Yields (Act.remember f : Act χ π Unit) w fun _ w' => Called w w' :=
    (yields_modify _).2 (.quiet ⟨hf, [], by simp⟩)
  cases c with
  | start => exact done (start_cases w)
  | stop =>
    refine done (quiet _ ?_)
    split <;> rfl
  | reset => exact done (quiet _ rfl)
  | requestConnect => exact done (requestConnect_cases (.nothing w))
  | setRequest m => exact done (setRequest_cases m w)
  | sendAnimation name => exact requestBuilt_cases _ w
  | readAnimationFile path => exact requestBuilt_cases _ w
  | setIdle m => exact done (setIdle_cases m w)
  | send m => exact done (submit_cases m w)
  | createQueue interval =>
    refine (yields_bind _ _).2 ((yields_bind _ _).2 (yields_get.2 ((yields_bind _ _).2 ?_)))
    exact (yields_modify _).2 ((yields_pure _).2 ((yields_pure _).2 (.created w interval)))
  | putBatch number batch => exact done (putBatch_cases number batch w)
  | clearQueue number => exact changeQueue_cases number _ _ w fun _ h => .cleared w number h
  | closeQueue number => exact changeQueue_cases number _ _ w fun _ h => .closed w number h
  | subscribe s =>
    refine (yields_bind _ _).2 ((yields_bind _ _).2 (yields_get.2 ((yields_bind _ _).2 ?_)))
    refine (yields_modify _).2 ((yields_pure _).2 ((yields_pure _).2 ?_))
    exact .quiet ⟨rfl, [], by simp⟩
  | unsubscribe id => exact done (quiet _ rfl)

/-- A session that wants a connection goes on wanting it. -/
theorem Moves.wanting {w w' : World χ π} (h : W.Moves w w')
    (hc : w.session.connectRequested = true) : w'.session.connectRequested = true := by
  refine Moves.invariant (I := fun w => w.session.connectRequested = true)
    (fun w w' hs hc => ?_) h hc
  cases hs with
  | passing h => exact h.wanting.trans hc
  | call c r h =>
    cases perform_cases c w r w' h with
    | quiet h =>
      have same := congrArg (fun b : Backlog × Option Message × List Queue × Nat × Bool =>
        b.2.2.2.2) h.part
      exact same.trans hc
    | created interval => exact hc
    | cleared number _ => exact hc
    | closed number _ => exact hc
    | started run _ h' => exact h'.wanting.trans hc
    | wanted h => rfl

end Wiring

end Teleop
