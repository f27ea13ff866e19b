import Mathlib.Data.List.Perm.Subperm
import Teleop.Proofs.Session.Budget
import Teleop.Proofs.Session.Ledger
import Teleop.Proofs.Session.Turns

/-!
# Work that waits

Messages wait in three places of a session, the request slot, the backlog and the queues, and in the
hand of a tick. Each label stands for the way from one of these places to the transport. A `Shift`
is all that a turn may do to the messages that wait: lose some, add those that are submitted, hand
the first one over, or discard all of them.

* `Wiring.Turn.shift`: every turn is a shift;
* `Wiring.waiting_work_wanted`: while work waits, a connection is wanted;
* `Wiring.discarded_work_gone`: what is handed over after work was discarded was submitted after
  that.
-/

namespace Teleop

variable {χ π ι : Type}

/-! ## Messages by label -/

/-- The messages that wait in a session, by the label under which they are to be sent. -/
def Session.stored (s : Session) : Label → List (Option Message)
  | .request => s.request.toList.map some
  | .fifo => s.backlog.items
  | .coalescing => s.queues.flatMap Queue.pending
  | _ => []

/-- Some work waits: a request, a message in the backlog or a batch in a queue. -/
def Session.HasWork (s : Session) : Prop :=
  s.request ≠ none ∨ s.backlog.items ≠ [] ∨ ∃ q ∈ s.queues, q.pending ≠ []

theorem Session.exists_stored_of_hasWork {s : Session} (h : s.HasWork) :
    ∃ label, s.stored label ≠ [] := by
  rcases h with h | h | ⟨q, hq, h⟩
  · refine ⟨.request, ?_⟩
    simpa [stored, Option.toList_eq_nil_iff] using h
  · exact ⟨.fifo, h⟩
  · refine ⟨.coalescing, fun empty => h ?_⟩
    exact List.flatMap_eq_nil_iff.1 empty q hq

namespace Event

/-- The messages that an event submits for sending under a label. -/
def submits : Event → Label → List (Option Message)
  | .requested m, .request => [m]
  | .submitted m, .fifo => [m]
  | .batched _ batch, .coalescing => batch
  | _, _ => []

/-- The messages that an event hands to the transport under a label. -/
def hands : Event → Label → List (Option Message)
  | .handOff label m _, label' => if label = label' then [m] else []
  | _, _ => []

/-- No work is submitted, handed over or discarded. -/
def inert : Event → Bool
  | .submitted _ | .requested _ | .batched .. | .gaveUp | .discarded => false
  | .handOff label _ _ => label.passing
  | _ => true

theorem inert_handOff (label : Label) (m : Option Message) (accepted : Bool) :
    (handOff label m accepted).inert = label.passing :=
  rfl

theorem inert_of_spare {e : Event} (h : e.spare = true) : e.inert = true := by
  cases e <;> first | rfl | exact h

theorem hands_of_inert {e : Event} (h : e.inert = true) {label : Label}
    (hl : label.passing = false) : e.hands label = [] := by
  cases e with
  | handOff label' m accepted =>
    have ne : label' ≠ label := by
      rintro rfl
      rw [inert_handOff, hl] at h
      cases h
    exact if_neg ne
  | _ => rfl

theorem discards_of_inert {e : Event} (h : e.inert = true) : e.discards = false := by
  cases e <;> first | rfl | cases h

end Event

/-- The messages that were submitted for sending under a label, in order. -/
def submittedUnder (label : Label) (h : List Event) : List (Option Message) :=
  h.flatMap (·.submits label)

/-- The messages that were handed to the transport under a label, in order. -/
def handedUnder (label : Label) (h : List Event) : List (Option Message) :=
  h.flatMap (·.hands label)

theorem submittedUnder_append (label : Label) (h h' : List Event) :
    submittedUnder label (h ++ h') = submittedUnder label h ++ submittedUnder label h' :=
  List.flatMap_append

theorem submittedUnder_concat (label : Label) (h : List Event) (e : Event) :
    submittedUnder label (h ++ [e]) = submittedUnder label h ++ e.submits label := by
  rw [submittedUnder_append, submittedUnder, submittedUnder, List.flatMap_singleton]

theorem handedUnder_append (label : Label) (h h' : List Event) :
    handedUnder label (h ++ h') = handedUnder label h ++ handedUnder label h' :=
  List.flatMap_append

theorem handedUnder_cons (label : Label) (e : Event) (h : List Event) :
    handedUnder label (e :: h) = e.hands label ++ handedUnder label h :=
  List.flatMap_cons

theorem handedUnder_concat (label : Label) (h : List Event) (e : Event) :
    handedUnder label (h ++ [e]) = handedUnder label h ++ e.hands label := by
  rw [handedUnder_append, handedUnder, handedUnder, List.flatMap_singleton]

theorem handedUnder_of_inert {h : List Event} (hh : ∀ e ∈ h, e.inert = true) {label : Label}
    (hl : label.passing = false) : handedUnder label h = [] :=
  List.flatMap_eq_nil_iff.2 fun e he => Event.hands_of_inert (hh e he) hl

theorem mem_handedUnder {label : Label} {m : Option Message} {h : List Event}
    (hm : m ∈ handedUnder label h) : ∃ accepted, .handOff label m accepted ∈ h := by
  obtain ⟨e, he, hands⟩ := List.mem_flatMap.1 hm
  cases e with
  | handOff label' m' accepted =>
    simp only [Event.hands, List.mem_ite_nil_right, List.mem_singleton] at hands
    obtain ⟨rfl, rfl⟩ := hands
    exact ⟨accepted, he⟩
  | _ => cases hands

/-! ## Shifts -/

/-- The messages that wait in the hand of a tick and in the session, by label. -/
def waiting (s : Hand × World χ π) (label : Label) : List (Option Message) :=
  s.1 label ++ s.2.session.stored label

/-- What may become of the messages that wait. -/
inductive Shift (s s' : Hand × World χ π) : Prop
  /-- None is added. -/
  | kept (es : List Event) (history : s'.2.history = s.2.history ++ es)
    (inert : ∀ e ∈ es, e.inert = true)
    (less : ∀ label, (waiting s' label).Subperm (waiting s label))
    (wanted : s.2.session.connectRequested = true → s'.2.session.connectRequested = true)
  /-- Some are submitted, and a connection is asked for. -/
  | submitted (e : Event) (es : List Event) (history : s'.2.history = s.2.history ++ e :: es)
    (engages : e.engages = true) (inert : ∀ e ∈ es, e.inert = true)
    (more : ∀ label, (waiting s' label).Subperm (waiting s label ++ e.submits label))
    (wanted : s'.2.session.connectRequested = true)
  /-- The first one under a label is handed over. -/
  | handed (e : Event) (history : s'.2.history = s.2.history ++ [e]) (keeps : e.discards = false)
    (first : ∀ label, waiting s label = e.hands label ++ waiting s' label)
    (wanted : s.2.session.connectRequested = true → s'.2.session.connectRequested = true)
  /-- All are discarded. -/
  | discarded (e : Event) (history : s'.2.history = s.2.history ++ [e])
    (discards : e.discards = true) (none : ∀ label, waiting s' label = [])

section Stores

theorem flatMap_pending_modify_put (number : Nat) (batch : List (Option Message))
    (queues : List Queue) : ((queues.modify number (·.put batch)).flatMap Queue.pending).Subperm
      (queues.flatMap Queue.pending ++ batch) := by
  induction queues generalizing number with
  | nil => simp
  | cons q rest ih =>
    cases number with
    | zero =>
      have put : (q.put batch).pending.Subperm (q.pending ++ batch) := by
        unfold Queue.put
        split
        · exact (List.sublist_append_left _ _).subperm
        · exact (List.sublist_append_right _ _).subperm
      have swap : (q.pending ++ batch ++ rest.flatMap Queue.pending).Perm
          (q.pending ++ rest.flatMap Queue.pending ++ batch) := by
        rw [List.append_assoc, List.append_assoc]
        exact List.perm_append_comm.append_left _
      exact ((List.subperm_append_right _).2 put).trans swap.subperm
    | succ number =>
      simp only [List.modify_succ_cons, List.flatMap_cons, List.append_assoc]
      exact (List.subperm_append_left _).2 (ih number)

theorem flatMap_pending_modify (number : Nat) {f : Queue → Queue} (hf : ∀ q, (f q).pending = [])
    (queues : List Queue) :
    ((queues.modify number f).flatMap Queue.pending).Sublist (queues.flatMap Queue.pending) := by
  induction queues generalizing number with
  | nil => simp
  | cons q rest ih =>
    cases number with
    | zero => simp [hf]
    | succ number =>
      simp only [List.modify_succ_cons, List.flatMap_cons]
      exact (ih number).append_left _

/-- What is taken out of the queues and what stays in them make up what was there. -/
theorem takeAll_perm (now : Instant) (queues : List Queue) :
    ((Queue.takeAll now queues).1 ++ (Queue.takeAll now queues).2.flatMap Queue.pending).Perm
      (queues.flatMap Queue.pending) := by
  induction queues with
  | nil => exact .refl _
  | cons q rest ih =>
    have head : (q.take now).1 ++ (q.take now).2.pending = q.pending := by
      unfold Queue.take
      split <;> simp
    have swap : ((q.take now).1 ++ (Queue.takeAll now rest).1 ++ ((q.take now).2.pending ++
        (Queue.takeAll now rest).2.flatMap Queue.pending)).Perm
        ((q.take now).1 ++ (q.take now).2.pending ++ ((Queue.takeAll now rest).1 ++
          (Queue.takeAll now rest).2.flatMap Queue.pending)) := by
      simp only [List.append_assoc]
      refine List.Perm.append_left _ ?_
      rw [← List.append_assoc, ← List.append_assoc]
      exact List.perm_append_comm.append_right _
    refine swap.trans ?_
    rw [head]
    exact ih.append_left _

theorem stored_of_work {s s' : Session} (h : s'.work = s.work) (label : Label) :
    s'.stored label = s.stored label := by
  simp only [Session.work, Prod.mk.injEq] at h
  obtain ⟨backlog, request, queues, -⟩ := h
  cases label <;> simp only [Session.stored, backlog, request, queues]

theorem stored_discardWork (s : Session) (label : Label) :
    (Wiring.discardWork s).stored label = [] := by
  cases label with
  | coalescing =>
    refine List.flatMap_eq_nil_iff.2 fun q hq => ?_
    obtain ⟨q, _, rfl⟩ := List.mem_map.1 hq
    rfl
  | _ => rfl

theorem World.overflowing_session (dropped : Nat) (w : World χ π) :
    (overflowing dropped w).session = w.session := by
  unfold overflowing
  split <;> rfl

end Stores

namespace Wiring

variable {W : Wiring χ π ι} {hand : Hand} {w w' : World χ π}

theorem shift_of_same (h : w.Same Session.work Event.inert w') : Shift (hand, w) (hand, w') := by
  obtain ⟨es, hh, he⟩ := h.history
  refine .kept es hh he (fun label => ?_) fun hc => ?_
  · rw [waiting, waiting, stored_of_work h.part]
  · exact (congrArg (·.2.2.2) h.part).trans hc

/-- Work is handed in and a connection is asked for. -/
theorem Engaged.shift (h : Engaged w w') :
    Shift (hand, w) (hand, (w'.note .wanted).remember fun s =>
      { s with connectRequested := true, tries := 0 }) := by
  cases h with
  | nothing =>
    refine .kept [.wanted] (by simp) (List.forall_mem_singleton.2 rfl) (fun label => ?_)
      fun _ => rfl
    cases label <;> exact .refl _
  | requested m =>
    refine .submitted (.requested m) [.wanted] (by simp) rfl (List.forall_mem_singleton.2 rfl)
      (fun label => ?_) rfl
    cases label with
    | request =>
      refine List.Sublist.subperm ?_
      change (hand .request ++ m.toList.map some).Sublist
        (hand .request ++ w.session.request.toList.map some ++ [m])
      rw [List.append_assoc]
      refine List.Sublist.append_left ((?_ : List.Sublist _ [m]).trans
        (List.sublist_append_right _ _)) _
      cases m <;> simp
    | _ => exact (List.sublist_append_left _ _).subperm
  | @submitted _ m dropped backlog pushed h' =>
    subst h'
    obtain ⟨es, hh, he⟩ : World.Adds Event.inert _ _ := (World.Adds.refl
      ((w.note (.submitted m)).remember fun s => { s with backlog })).overflowing dropped rfl rfl
    refine .submitted (.submitted m) (es ++ [.wanted]) ?_ rfl ?_ (fun label => ?_) rfl
    · simp [hh]
    · rw [List.forall_mem_append]
      exact ⟨he, List.forall_mem_singleton.2 rfl⟩
    · rw [waiting, World.remember_session, World.note_session, World.overflowing_session]
      cases label with
      | fifo =>
        refine List.Sublist.subperm ?_
        change (hand .fifo ++ backlog.items).Sublist
          (hand .fifo ++ w.session.backlog.items ++ [m])
        rw [(Backlog.push_eq_ok pushed).2, List.append_assoc]
        exact ((List.drop_sublist _ _).append_right _).append_left _
      | _ => exact (List.sublist_append_left _ _).subperm
  | batched number batch _ _ =>
    refine .submitted (.batched number batch) [.wanted] (by simp) rfl
      (List.forall_mem_singleton.2 rfl) (fun label => ?_) rfl
    cases label with
    | coalescing =>
      change (hand .coalescing ++ _).Subperm (hand .coalescing ++ _ ++ batch)
      rw [List.append_assoc]
      exact (List.subperm_append_left _).2 (flatMap_pending_modify_put number batch _)
    | _ => exact (List.sublist_append_left _ _).subperm

/-- A queue is emptied. -/
theorem shift_of_modify {number : Nat} {f : Queue → Queue} (hf : ∀ q, (f q).pending = [])
    {e : Event} (he : e.inert = true) : Shift (hand, w) (hand, (w.note e).remember fun s =>
      { s with queues := s.queues.modify number f }) := by
  refine .kept [e] (by simp) (by simpa using he) (fun label => ?_) id
  cases label with
  | coalescing => exact ((flatMap_pending_modify number hf _).append_left _).subperm
  | _ => exact .refl _

theorem Called.shift (h : Called w w') : Shift (hand, w) (hand, w') := by
  cases h with
  | quiet h =>
    obtain ⟨hp, es, hj, he⟩ := h
    refine shift_of_same ⟨?_, es, hj, fun e h => ?_⟩
    · exact congrArg (fun b : Backlog × Option Message × List Queue × Nat × Bool =>
        (b.1, b.2.1, b.2.2.1, b.2.2.2.2)) hp
    · exact Event.inert_of_spare (Event.spare_of_passing (he e h))
  | created interval =>
    refine .kept [] (by simp) (by simp) (fun label => ?_) id
    cases label with
    | coalescing => simpa [waiting, Session.stored] using List.Subperm.refl _
    | _ => exact .refl _
  | cleared number _ => exact shift_of_modify (fun _ => rfl) rfl
  | closed number _ => exact shift_of_modify (fun _ => rfl) rfl
  | @started _ run _ h' =>
    obtain ⟨hp, es, hj, he⟩ := h'.spare
    refine shift_of_same ⟨hp, es ++ [.started], ?_, ?_⟩
    · simpa using hj
    · rw [List.forall_mem_append]
      exact ⟨fun e h => Event.inert_of_spare (he e h), List.forall_mem_singleton.2 rfl⟩
  | wanted h => exact h.shift

/-- A turn does to the messages that wait no more than a shift. -/
theorem Turn.shift {s s' : Hand × World χ π} (h : Turn s s') : Shift s s' := by
  cases h with
  | spare h => exact shift_of_same ⟨h.part, by
      obtain ⟨es, hj, he⟩ := h.journal
      exact ⟨es, hj, fun e h => Event.inert_of_spare (he e h)⟩⟩
  | called h => exact h.shift
  | @taken w pending backlog h =>
    obtain ⟨items, none⟩ := Backlog.drain_eq_ok h
    refine .kept [] (by simp) (by simp) (fun label => ?_) id
    cases label with
    | request =>
      simpa [waiting, Hand.taking, Hand.empty, Session.stored] using List.Subperm.refl _
    | fifo =>
      simpa [waiting, Hand.taking, Hand.empty, Session.stored, items, none] using
        List.Subperm.refl _
    | _ => exact .refl _
  | gaveUp request pending w =>
    refine .discarded .gaveUp (by simp) rfl fun label => ?_
    exact stored_discardWork w.session label
  | discarded w =>
    refine .discarded .discarded (by simp) rfl fun label => ?_
    exact stored_discardWork w.session label
  | @handed hand w label m rest accepted h =>
    refine .handed (.handOff label m accepted) (by simp) rfl (fun label' => ?_) id
    by_cases hl : label = label'
    · subst hl
      simp [waiting, Event.hands, h]
    · simp [waiting, Event.hands, hl, Function.update_of_ne (Ne.symm hl)]
  | drained w =>
    refine .kept [_] (by simp; rfl) (by rw [List.forall_mem_singleton]; rfl) (fun label => ?_) id
    cases label with
    | coalescing => exact (takeAll_perm w.clock w.session.queues).subperm
    | _ => exact .refl _
  | @putBack w request pending dropped backlog h =>
    obtain ⟨es, hh, he⟩ : w.Adds Event.inert _ := ((World.Adds.refl w).remember fun s =>
      { s with request := s.request <|> request, backlog }).overflowing dropped rfl rfl
    refine .kept es hh he (fun label => ?_) fun hc => ?_
    · rw [waiting, World.overflowing_session]
      refine List.Sublist.subperm ?_
      cases label with
      | request =>
        change ((w.session.request <|> request).toList.map some).Sublist
          (request.toList.map some ++ w.session.request.toList.map some)
        cases w.session.request <;> simp
      | fifo =>
        change backlog.items.Sublist (pending.map some ++ w.session.backlog.items)
        rw [(Backlog.restore_eq_ok h).2]
        exact List.drop_sublist _ _
      | _ => exact .refl _
    · rw [World.overflowing_session]
      exact hc

/-! ## Work is wanted -/

/-- In every run, whenever work waits in the session, a connection is wanted. -/
theorem waiting_work_wanted (hW : W.CallbacksOnlyCall EnvironmentStep) {w₀ : World χ π}
    (h₀ : W.Fresh w₀) (h : W.Reaches W.EnvironmentOrNotice w₀ w) (work : w.session.HasWork) :
    w.session.connectRequested = true := by
  obtain ⟨label, stored⟩ := Session.exists_stored_of_hasWork work
  refine Reaches.invariant (I := fun hand w => (∃ label, waiting (hand, w) label ≠ []) →
    w.session.connectRequested = true) ?_ (hW.onlyMove fun _ _ => EnvironmentStep.passing) h ?_
    ⟨label, stored⟩
  · rintro s s' turn ih ⟨label, hwaiting⟩
    have grown {l : List (Option Message)} (h : (waiting s' label).Subperm l) : l ≠ [] := by
      rintro rfl
      exact hwaiting (List.subperm_nil.1 h)
    cases turn.shift with
    | kept es _ _ less wanted => exact wanted (ih ⟨label, grown (less label)⟩)
    | submitted e es _ _ _ _ wanted => exact wanted
    | handed e _ _ first wanted =>
      refine wanted (ih ⟨label, ?_⟩)
      rw [first label]
      exact List.append_ne_nil_of_right_ne_nil _ hwaiting
    | discarded e _ _ none => exact absurd (none label) hwaiting
  · rintro ⟨label, hwaiting⟩
    rw [waiting, h₀.session_eq] at hwaiting
    cases label <;> exact absurd rfl hwaiting

end Wiring

/-! ## Discarded work is gone -/

/-- A message that is handed over after work was discarded has been submitted since then, and more
often than it has been handed over since then. -/
def Renewed (before : List Event) (e : Event) : Prop :=
  ∀ label m accepted, e = .handOff label m accepted → label.passing = false →
    ∀ a d b, before = a ++ d :: b → d.discards = true →
      (handedUnder label b).count m < (submittedUnder label b).count m

/-- Since work was discarded, at least as many messages have been submitted as were handed over or
wait. -/
def Purged (h : List Event) (waiting : Label → List (Option Message)) : Prop :=
  ∀ a d b, h = a ++ d :: b → d.discards = true → ∀ label, label.passing = false → ∀ m,
    (handedUnder label b).count m + (waiting label).count m ≤ (submittedUnder label b).count m

namespace Purged

variable {h es : List Event} {e : Event} {ws ws' : Label → List (Option Message)}

theorem renewed (hp : Purged h ws)
    (hw : ∀ label m accepted, e = .handOff label m accepted → label.passing = false →
      m ∈ ws label) : Renewed h e := by
  intro label m accepted he hl a d b heq hd
  have count := hp a d b heq hd label hl m
  have pos := List.count_pos_iff.2 (hw label m accepted he hl)
  omega

/-- More events, and the messages that they submit and hand over. -/
theorem append (hp : Purged h ws) (keeps : ∀ e ∈ es, e.discards = false)
    (hw : ∀ label, label.passing = false → ∀ m, (handedUnder label es).count m +
      (ws' label).count m ≤ (ws label).count m + (submittedUnder label es).count m) :
    Purged (h ++ es) ws' := by
  intro a d b heq hd label hl m
  -- the discard is none of the new events
  have old : d ∉ es := fun hmem => by
    rw [keeps d hmem] at hd
    cases hd
  rcases List.append_eq_append_iff.1 heq with ⟨c, rfl, rfl⟩ | ⟨c, rfl, hc⟩
  · exact absurd (by simp) old
  · rcases List.cons_eq_append_iff.1 hc with ⟨rfl, rfl⟩ | ⟨b', rfl, rfl⟩
    · exact absurd List.mem_cons_self old
    · have before := hp a d b' rfl hd label hl m
      have added := hw label hl m
      rw [handedUnder_append, submittedUnder_append, List.count_append, List.count_append]
      omega

/-- Everything that waits is discarded. -/
theorem discard (hp : Purged h ws) (hd : e.discards = true) : Purged (h ++ [e]) fun _ => [] := by
  intro a d b heq hd' label hl m
  rcases concat_eq_append_cons heq with ⟨-, -, rfl⟩ | ⟨b', rfl, old⟩
  · simp [handedUnder, submittedUnder]
  · have before := hp a d b' old hd' label hl m
    have none : e.hands label = [] ∧ e.submits label = [] := by
      cases e <;> first | exact ⟨rfl, rfl⟩ | cases hd
    rw [handedUnder_concat, submittedUnder_concat, none.1, none.2, List.append_nil, List.append_nil,
      List.count_nil]
    omega

end Purged

/-- The history of a session, and the messages that wait in it and in the hand of a tick. -/
def World.Purged (hand : Hand) (w : World χ π) : Prop :=
  Each Renewed w.history ∧ Teleop.Purged w.history (waiting (hand, w))

theorem Renewed.of_inert {e : Event} (he : e.inert = true) (before : List Event) :
    Renewed before e := by
  rintro label m accepted rfl hl
  rw [Event.inert_handOff, hl] at he
  cases he

namespace Wiring

variable {W : Wiring χ π ι} {hand hand' : Hand} {w w' : World χ π}

theorem Turn.purged (h : Turn (hand, w) (hand', w')) (hs : w.Purged hand) : w'.Purged hand' := by
  obtain ⟨renewed, purged⟩ := hs
  cases h.shift with
  | kept es history inert less _ =>
    rw [World.Purged, history]
    refine ⟨renewed.append fun e he => .of_inert (inert e he), ?_⟩
    refine purged.append (fun e he => Event.discards_of_inert (inert e he)) fun label hl m => ?_
    have := (less label).count_le m
    rw [handedUnder_of_inert inert hl, List.count_nil]
    omega
  | submitted e es history engages inert more _ =>
    have keeps : e.discards = false ∧ ∀ label, e.hands label = [] := by
      cases e <;> first | exact ⟨rfl, fun _ => rfl⟩ | cases engages
    have first : Renewed w.history e := by
      rintro label m accepted rfl
      cases engages
    rw [World.Purged, history, List.append_cons]
    refine ⟨(renewed.concat first).append fun e he => .of_inert (inert e he), ?_⟩
    rw [List.append_assoc, List.singleton_append]
    refine purged.append ?_ fun label hl m => ?_
    · rw [List.forall_mem_cons]
      exact ⟨keeps.1, fun e he => Event.discards_of_inert (inert e he)⟩
    · have := (more label).count_le m
      rw [List.count_append] at this
      have handed : handedUnder label (e :: es) = [] := by
        rw [handedUnder_cons, keeps.2, handedUnder_of_inert inert hl]
        rfl
      rw [handed, List.count_nil, submittedUnder, List.flatMap_cons, List.count_append]
      omega
  | handed e history keeps first _ =>
    rw [World.Purged, history]
    refine ⟨renewed.concat (purged.renewed ?_), purged.append (by simpa using keeps) ?_⟩
    · rintro label m accepted rfl _
      rw [first label]
      simp [Event.hands]
    · intro label _ m
      rw [first label, handedUnder, List.flatMap_singleton, List.count_append]
      omega
  | discarded e history discards none =>
    have last : Renewed w.history e := by
      rintro label m accepted rfl
      cases discards
    rw [World.Purged, history]
    refine ⟨renewed.concat last, ?_⟩
    rw [funext none]
    exact purged.discard discards

/-- In every run: when a message from the request slot, the backlog or a queue is handed over at
some time after work was discarded, then since the discard the same message has been submitted there
more often than it has been handed over. So nothing is ever handed over that was submitted before a
give-up or a shutdown and discarded by it. -/
theorem discarded_work_gone (hW : W.CallbacksOnlyCall EnvironmentStep) {w₀ : World χ π}
    (h₀ : W.Fresh w₀) (h : W.Reaches W.EnvironmentOrNotice w₀ w) {a b c : List Event} {d : Event}
    {label : Label} {m : Option Message} {accepted : Bool}
    (history : w.history = a ++ d :: b ++ .handOff label m accepted :: c)
    (discards : d.discards = true) (work : label.passing = false) :
    (handedUnder label b).count m < (submittedUnder label b).count m := by
  have purged : w.Purged .empty := by
    have onlyMove := hW.onlyMove fun _ _ => EnvironmentStep.passing
    refine Reaches.invariant (fun s s' => Turn.purged) onlyMove h ?_
    rw [World.Purged, h₀.history]
    refine ⟨Each.nil, fun a d b heq => ?_⟩
    simp at heq
  exact purged.1 _ _ _ history label m accepted rfl work a d b rfl discards

end Wiring

namespace Rehearsal

open Wiring

/-- Work of every kind waits while the link is being made, some of it submitted by a subscriber in
the middle of a tick. -/
def pile : List Cue :=
  [.call (.subscribe { name := [9] }), .call .start, .call (.createQueue 0),
    .call (.setRequest (parcel 1)), .call (.send (parcel 2)), .call (.putBatch 0 [parcel 3]), .tick]

theorem waiting_work_wanted_piled : ∃ w : World (Wired Loopback) (Option PortSupply),
    (echoing modest).Reaches (echoing modest).EnvironmentOrNotice (opening modest) w ∧
    w.session.request = some (parcel 1) ∧
    w.session.backlog.items = [2, 9].map (some ∘ parcel) ∧
    w.session.queues.map Queue.pending = [[some (parcel 3)]] ∧
    w.session.connectRequested = true := by
  have played : ((echoing modest).play pile (opening modest)).map (fun w =>
      (w.session.request, w.session.backlog.items, w.session.queues.map Queue.pending)) =
      some (some (parcel 1), [2, 9].map (some ∘ parcel), [[some (parcel 3)]]) := by
    decide +kernel
  obtain ⟨w, hw, facts⟩ := Option.map_eq_some_iff.1 played
  simp only [Prod.mk.injEq] at facts
  obtain ⟨request, backlog, queues⟩ := facts
  have run := environmentOrNotice_of_play hw
  have work : w.session.HasWork := .inl (by simp [request])
  exact ⟨w, run, request, backlog, queues,
    waiting_work_wanted (echoing_onlyCall _ _) modest_fresh run work⟩

/-- The same message is submitted before a shutdown and again in the run after it, in which it is
sent. -/
def relaunch : List Cue :=
  [.call .start, .call (.send (parcel 1)), .call (.setRequest (parcel 2)), .shutdown 0,
    .call .start, .call (.send (parcel 1)), .tick, welcoming 0, .tick, beating 0, .tick]

theorem discarded_work_gone_relaunched : ∃ w : World (Wired Loopback) (Option PortSupply),
    (echoing modest).Reaches (echoing modest).EnvironmentOrNotice (opening modest) w ∧
    ∃ a d b accepted c,
      w.history = a ++ d :: b ++ .handOff .fifo (some (parcel 1)) accepted :: c ∧
      d.discards = true ∧ (submittedUnder .fifo a).count (some (parcel 1)) = 1 ∧
      (handedUnder .fifo b).count (some (parcel 1)) <
        (submittedUnder .fifo b).count (some (parcel 1)) := by
  have played : ((echoing modest).play relaunch (opening modest)).map (fun w =>
      ((w.history.dropWhile (!·.discards)).head?.any (·.discards),
        (submittedUnder .fifo (w.history.takeWhile (!·.discards))).count (some (parcel 1)),
        handedUnder .fifo (w.history.dropWhile (!·.discards)).tail)) =
      some (true, 1, [some (parcel 1)]) := by
    decide +kernel
  obtain ⟨w, hw, facts⟩ := Option.map_eq_some_iff.1 played
  simp only [Prod.mk.injEq] at facts
  obtain ⟨discards, once, handed⟩ := facts
  have run := environmentOrNotice_of_play hw
  have split := List.takeWhile_append_dropWhile (p := (!·.discards)) (l := w.history)
  cases later : w.history.dropWhile (!·.discards) with
  | nil =>
    rw [later] at discards
    cases discards
  | cons d rest =>
    rw [later] at discards handed split
    obtain ⟨accepted, hmem⟩ := mem_handedUnder (handed ▸ List.mem_singleton_self _)
    obtain ⟨b, c, rest_eq⟩ := List.append_of_mem hmem
    have history : w.history = w.history.takeWhile (!·.discards) ++ d :: b ++
        .handOff .fifo (some (parcel 1)) accepted :: c := by
      rw [← split, List.append_assoc, List.cons_append, ← rest_eq]
      simp [split]
    exact ⟨w, run, _, d, b, accepted, c, history, discards, once,
      discarded_work_gone (echoing_onlyCall _ _) modest_fresh run history discards rfl⟩

end Rehearsal

end Teleop
