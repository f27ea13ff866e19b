import Teleop.Proofs.Session.QueueHistory
import Teleop.Proofs.Session.Waiting

/-!
# The queues of a run

Every turn of a session is, for its queues, one event that they follow, a new queue, or nothing
(`QueueChange`). So the queues are the replay of the history (`Records`), and what a tick hands over
for them is what it took out of them (`World.Delivered`).

* `Wiring.Ticked.sending`: in a tick the batches are taken out and handed over after all other work,
  or not at all;
* `Wiring.Ticked.serves`: what a tick does for the queues, and when it leaves them alone;
* `Wiring.queues_coalesce`: the laws of the queues in every run.
-/

namespace Teleop

variable {χ π ι : Type}

/-! ## Several queues -/

namespace Queue

variable {now : Instant} {queues : List Queue} {e : Event}

/-- What an event does to all queues. -/
def followAll (queues : List Queue) (e : Event) : List Queue :=
  queues.mapIdx fun i q => q.follow i e

theorem getElem?_followAll (i : Nat) :
    (followAll queues e)[i]? = queues[i]?.map fun q => q.follow i e :=
  List.getElem?_mapIdx

theorem length_followAll : (followAll queues e).length = queues.length :=
  List.length_mapIdx

theorem modify_eq_followAll {number : Nat} {f : Queue → Queue}
    (hf : ∀ (i : Nat) (q : Queue), q.follow i e = if number = i then f q else q) :
    queues.modify number f = followAll queues e := by
  apply List.ext_getElem?
  intro i
  rw [List.getElem?_modify, getElem?_followAll]
  exact congrArg (Option.map · queues[i]?) (funext fun q => (hf i q).symm)

theorem map_clear_eq_followAll (he : ∀ (i : Nat) (q : Queue), q.follow i e = q.clear) :
    queues.map clear = followAll queues e := by
  apply List.ext_getElem?
  intro i
  rw [List.getElem?_map, getElem?_followAll]
  exact congrArg (Option.map · queues[i]?) (funext fun q => (he i q).symm)

theorem mem_dueBatches {i : Nat} {batch : List (Option Message)} :
    (i, batch) ∈ dueBatches now queues ↔
      ∃ q, queues[i]? = some q ∧ q.due now = true ∧ q.pending = batch := by
  unfold dueBatches
  constructor
  · intro h
    obtain ⟨⟨q, j⟩, hq, heq⟩ := List.mem_map.1 h
    obtain ⟨hmem, due⟩ := List.mem_filter.1 hq
    obtain ⟨rfl, rfl⟩ := Prod.mk.inj heq
    exact ⟨q, List.mem_zipIdx_iff_getElem?.1 hmem, due, rfl⟩
  · rintro ⟨q, hq, due, rfl⟩
    refine List.mem_map.2 ⟨(q, i), List.mem_filter.2 ⟨?_, due⟩, rfl⟩
    exact List.mem_zipIdx_iff_getElem?.2 hq

/-- Batches are taken out in the order of the queues. -/
theorem dueBatches_ordered (now : Instant) (queues : List Queue) :
    ((dueBatches now queues).map Prod.fst).Pairwise (· < ·) := by
  have numbers : (dueBatches now queues).map Prod.fst =
      (queues.zipIdx.filter (·.1.due now)).map Prod.snd := by
    unfold dueBatches
    rw [List.map_map]
    rfl
  have all : (queues.zipIdx.map Prod.snd).Pairwise (· < ·) := by
    rw [List.zipIdx_map_snd]
    exact List.pairwise_lt_range'
  rw [numbers]
  exact all.sublist (List.filter_sublist.map Prod.snd)

theorem takeAll_fst (now : Instant) (queues : List Queue) :
    (takeAll now queues).1 = (dueBatches now queues).flatMap Prod.snd := by
  -- the numbers do not matter, so they may begin anywhere
  have shifted (k : Nat) : (takeAll now queues).1 =
      ((queues.zipIdx k).filter (·.1.due now)).flatMap (·.1.pending) := by
    induction queues generalizing k with
    | nil => rfl
    | cons q rest ih =>
      have head : (takeAll now (q :: rest)).1 = (q.take now).1 ++ (takeAll now rest).1 := rfl
      rw [head, ih (k + 1), List.zipIdx_cons]
      by_cases due : q.due now = true
      · simp [take, due]
      · simp [take, due]
  rw [shifted 0, dueBatches, List.flatMap_map]

theorem takeAll_snd (now : Instant) (queues : List Queue) :
    (takeAll now queues).2 = queues.map fun q => (q.take now).2 := by
  induction queues with
  | nil => rfl
  | cons q rest ih =>
    have head : (takeAll now (q :: rest)).2 = (q.take now).2 :: (takeAll now rest).2 := rfl
    rw [head, ih, List.map_cons]

/-- Taking out the due batches is what the queues do when they follow the event that records it. -/
theorem takeAll_eq_followAll (now : Instant) (queues : List Queue) :
    (takeAll now queues).2 = followAll queues (.drained now (dueBatches now queues)) := by
  apply List.ext_getElem?
  intro i
  rw [takeAll_snd, List.getElem?_map, getElem?_followAll]
  cases hq : queues[i]? with
  | none => rfl
  | some q =>
    have any : (dueBatches now queues).any (·.1 == i) = true ↔ q.due now = true := by
      have drains := Event.drains_drained i now (dueBatches now queues)
      refine Iff.trans drains ⟨?_, fun due => ?_⟩
      · rintro ⟨batch, hb⟩
        obtain ⟨q', hq', due, -⟩ := mem_dueBatches.1 hb
        obtain rfl : q = q' := Option.some.inj (hq.symm.trans hq')
        exact due
      · exact ⟨q.pending, mem_dueBatches.2 ⟨q, hq, due, rfl⟩⟩
    by_cases due : q.due now = true
    · simp [take, follow_drained, due, any.2 due]
    · have none : (dueBatches now queues).any (·.1 == i) = false := by
        rw [← Bool.not_eq_true, any]
        exact due
      simp [take, follow_drained, due, none]

end Queue

/-! ## Records -/

/-- The event is no concern of the queues. -/
def Event.sparesQueues : Event → Bool
  | .batched .. | .cleared _ | .closed _ | .drained .. | .gaveUp | .discarded => false
  | _ => true

theorem Event.sparesQueues_of_spare {e : Event} (h : e.spare = true) : e.sparesQueues = true := by
  cases e <;> first | rfl | cases h

theorem Event.touches_of_sparesQueues {e : Event} (h : e.sparesQueues = true) (i : Nat) :
    e.touches i = false := by
  cases e <;> first | rfl | cases h

theorem Event.admits_of_sparesQueues {e : Event} (h : e.sparesQueues = true) (i : Nat)
    (q : Queue) : q.Admits i e := by
  cases e <;> trivial

/-- What a history tells about the queues that there are. -/
structure Records (h : List Event) (queues : List Queue) : Prop where
  recorded : ∀ (i : Nat) (q : Queue), queues[i]? = some q → q.Recorded i h
  /-- No event is about any other queue. -/
  known : ∀ e ∈ h, ∀ i, e.calls i = true ∨ e.drains i = true → i < queues.length
  ordered : ∀ now batches, .drained now batches ∈ h → (batches.map Prod.fst).Pairwise (· < ·)

/-- What may become of the queues while the history grows. -/
inductive QueueChange (h : List Event) (queues : List Queue) : List Event → List Queue → Prop
  /-- They are left alone. -/
  | idle (es : List Event) (spares : ∀ e ∈ es, e.sparesQueues = true) :
    QueueChange h queues (h ++ es) queues
  /-- They follow an event. -/
  | event (e : Event) (es : List Event) (spares : ∀ e ∈ es, e.sparesQueues = true)
    (admitted : ∀ (i : Nat) (q : Queue), queues[i]? = some q → q.Admits i e)
    (known : ∀ i, e.calls i = true ∨ e.drains i = true → i < queues.length)
    (ordered : ∀ now batches, e = .drained now batches → (batches.map Prod.fst).Pairwise (· < ·)) :
    QueueChange h queues (h ++ e :: es) (Queue.followAll queues e)
  /-- There is a new one. -/
  | created (interval : Duration) : QueueChange h queues h (queues ++ [({ interval } : Queue)])

namespace Records

variable {h h' es : List Event} {queues queues' : List Queue}

theorem follow {e : Event} (hr : Records h queues)
    (admitted : ∀ (i : Nat) (q : Queue), queues[i]? = some q → q.Admits i e)
    (known : ∀ i, e.calls i = true ∨ e.drains i = true → i < queues.length)
    (ordered : ∀ now batches, e = .drained now batches → (batches.map Prod.fst).Pairwise (· < ·)) :
    Records (h ++ [e]) (Queue.followAll queues e) := by
  constructor
  · intro i q' hq'
    rw [Queue.getElem?_followAll] at hq'
    obtain ⟨q, hq, rfl⟩ := Option.map_eq_some_iff.1 hq'
    have old := hr.recorded i q hq
    constructor
    · rw [Queue.interval_follow, Queue.replay_concat, old.replayed]
    · rw [Queue.interval_follow]
      refine old.admitted.concat ?_
      rw [old.replayed]
      exact admitted i q hq
  · intro e' he' i hi
    rw [Queue.length_followAll]
    rcases List.mem_append.1 he' with he' | he'
    · exact hr.known e' he' i hi
    · obtain rfl := List.mem_singleton.1 he'
      exact known i hi
  · intro now batches hd
    rcases List.mem_append.1 hd with hd | hd
    · exact hr.ordered now batches hd
    · exact ordered now batches (List.mem_singleton.1 hd).symm

theorem spared (hr : Records h queues) (spares : ∀ e ∈ es, e.sparesQueues = true) :
    Records (h ++ es) queues := by
  induction es generalizing h with
  | nil => simpa using hr
  | cons e es ih =>
    obtain ⟨he, hes⟩ := List.forall_mem_cons.1 spares
    have touches := Event.touches_of_sparesQueues he
    have same : Queue.followAll queues e = queues := by
      apply List.ext_getElem?
      intro i
      rw [Queue.getElem?_followAll]
      cases queues[i]? with
      | none => rfl
      | some q => exact congrArg some (Queue.follow_of_not_touches (touches i))
    have one : Records (h ++ [e]) (Queue.followAll queues e) := by
      refine hr.follow (fun i q _ => Event.admits_of_sparesQueues he i q) (fun i hi => ?_) ?_
      · obtain ⟨calls, drains, -⟩ := Event.touches_eq_false.1 (touches i)
        simp [calls, drains] at hi
      · rintro now batches rfl
        cases he
    rw [same] at one
    rw [List.append_cons]
    exact ih one hes

/-- A new queue has no history. -/
theorem created (hr : Records h queues) (interval : Duration) :
    Records h (queues ++ [({ interval } : Queue)]) := by
  constructor
  · intro i q hq
    by_cases hi : i < queues.length
    · rw [List.getElem?_append_left hi] at hq
      exact hr.recorded i q hq
    · have new : i = queues.length ∧ q = { interval } := by
        rw [List.getElem?_append_right (by omega), List.getElem?_singleton] at hq
        split at hq
        · exact ⟨by omega, (Option.some.inj hq).symm⟩
        · cases hq
      obtain ⟨rfl, rfl⟩ := new
      -- no event has touched it but those that empty all queues
      have unknown {e : Event} (he : e ∈ h) : e.calls queues.length = false ∧
          e.drains queues.length = false := by
        constructor
        · by_contra calls
          exact hi (hr.known e he _ (.inl (by simpa using calls)))
        · by_contra drains
          exact hi (hr.known e he _ (.inr (by simpa using drains)))
      have empty {a : List Event} (ha : a <+: h) :
          Queue.replay queues.length interval a = { interval } := by
        induction a using List.reverseRecOn with
        | nil => rfl
        | append_singleton a e ih =>
          have he := unknown (e := e) (ha.subset (by simp))
          rw [Queue.replay_concat, ih ((List.prefix_append a [e]).trans ha)]
          by_cases discards : e.discards = true
          · cases e <;> first | rfl | cases discards
          · refine Queue.follow_of_not_touches (Event.touches_eq_false.2 ⟨he.1, he.2, ?_⟩)
            simpa using discards
      refine ⟨empty List.prefix_rfl, ?_⟩
      rintro a e b rfl
      rw [empty (List.prefix_append a _)]
      have he := unknown (e := e) (by simp)
      cases e with
      | batched j batch => exact fun _ => rfl
      | drained now batches =>
        intro batch
        have none : (queues.length, batch) ∉ batches := fun hmem => by
          rw [(Event.drains_drained _ now batches).2 ⟨batch, hmem⟩] at he
          cases he.2
        simp [none, Queue.due]
      | _ => trivial
  · intro e he i hi
    have := hr.known e he i hi
    rw [List.length_append]
    omega
  · exact hr.ordered

theorem change (hr : Records h queues) (hc : QueueChange h queues h' queues') :
    Records h' queues' := by
  cases hc with
  | idle es spares => exact hr.spared spares
  | event e es spares admitted known ordered =>
    rw [List.append_cons]
    exact (hr.follow admitted known ordered).spared spares
  | created interval => exact hr.created interval

end Records

/-- Queues keep their numbers and intervals. -/
theorem QueueChange.intervals {h h' : List Event} {queues queues' : List Queue}
    (hc : QueueChange h queues h' queues') :
    queues.map Queue.interval <+: queues'.map Queue.interval := by
  cases hc with
  | idle => exact List.prefix_rfl
  | event e =>
    have same : (Queue.followAll queues e).map Queue.interval = queues.map Queue.interval := by
      apply List.ext_getElem?
      intro i
      rw [List.getElem?_map, List.getElem?_map, Queue.getElem?_followAll, Option.map_map]
      exact congrArg (Option.map · queues[i]?) (funext fun q => Queue.interval_follow i q e)
    simp only [same, List.prefix_rfl]
  | created interval =>
    rw [List.map_append]
    exact List.prefix_append _ _

/-! ## The queues in a turn -/

namespace QueueChange

variable {w w' : World χ π} {e : Event}

theorem of_adds (added : w.Adds Event.sparesQueues w')
    (same : w'.session.queues = w.session.queues) :
    QueueChange w.history w.session.queues w'.history w'.session.queues := by
  obtain ⟨es, hh, he⟩ := added
  rw [hh, same]
  exact .idle es he

/-- All queues are emptied. -/
theorem of_discards (he : e.discards = true) (hh : w'.history = w.history ++ [e])
    (emptied : w'.session.queues = w.session.queues.map Queue.clear) :
    QueueChange w.history w.session.queues w'.history w'.session.queues := by
  have clears : ∀ (i : Nat) (q : Queue), q.follow i e = q.clear := by
    intro i q
    cases e <;> first | rfl | cases he
  rw [hh, emptied, Queue.map_clear_eq_followAll clears]
  refine .event e [] (by simp) (fun i q _ => ?_) (fun i hi => ?_) ?_
  · cases e <;> trivial
  · rcases hi with hi | hi <;> cases e <;> first | cases hi | cases he
  · rintro now batches rfl
    cases he

/-- A call changes one queue. -/
theorem of_calls (e : Event) {number : Nat} {q : Queue} (hq : w.session.queues[number]? = some q)
    (he : e.calls number = true) {f : Queue → Queue}
    (hf : ∀ (i : Nat) (q : Queue), q.follow i e = if number = i then f q else q)
    (admitted : q.Admits number e) {es : List Event} (spares : ∀ e ∈ es, e.sparesQueues = true) :
    QueueChange w.history w.session.queues (w.history ++ e :: es)
      (w.session.queues.modify number f) := by
  have lt : number < w.session.queues.length := (List.getElem?_eq_some_iff.1 hq).1
  have only {i : Nat} (hi : e.calls i = true ∨ e.drains i = true) : number = i := by
    cases e <;> simp_all [Event.calls, Event.drains]
  rw [Queue.modify_eq_followAll hf]
  refine .event e es spares (fun i q' hq' => ?_) (fun i hi => only hi ▸ lt) ?_
  · by_cases hi : number = i
    · subst hi
      exact Option.some.inj (hq.symm.trans hq') ▸ admitted
    · cases e with
      | batched j batch =>
        have hj : j = number := by simpa [Event.calls] using he
        exact fun hji => absurd (hj.symm.trans hji) hi
      | drained now batches => cases he
      | _ => trivial
  · rintro now batches rfl
    cases he

end QueueChange

namespace Wiring

variable {W : Wiring χ π ι} {hand hand' : Hand} {w w' : World χ π}

/-- What a call does to the queues. -/
theorem Called.queueChange (h : Called w w') :
    QueueChange w.history w.session.queues w'.history w'.session.queues := by
  have refl : w.Adds Event.sparesQueues w := .refl w
  cases h with
  | quiet h =>
    refine .of_adds (h.adds fun e he => ?_) (congrArg (·.2.2.1) h.part)
    exact Event.sparesQueues_of_spare (Event.spare_of_passing he)
  | created interval => exact .created interval
  | cleared number hq =>
    rw [World.history_remember, World.history_note]
    exact .of_calls (.cleared number) hq (by simp [Event.calls]) (fun _ _ => rfl) trivial (by simp)
  | closed number hq =>
    rw [World.history_remember, World.history_note]
    exact .of_calls (.closed number) hq (by simp [Event.calls]) (fun _ _ => rfl) trivial (by simp)
  | @started _ run _ h' =>
    have begun := h'.spare.adds fun _ => Event.sparesQueues_of_spare
    exact .of_adds (((refl.note rfl).remember _).trans begun) (congrArg (·.2.2.1) h'.spare.part)
  | wanted h =>
    cases h with
    | nothing => exact .of_adds (refl.note rfl) rfl
    | requested m => exact .of_adds ((refl.note rfl).note rfl) rfl
    | @submitted _ m dropped backlog _ h' =>
      subst h'
      have added := ((refl.note (e := .submitted m) rfl).remember fun s =>
        { s with backlog }).overflowing dropped rfl rfl
      refine .of_adds (added.note rfl) ?_
      rw [World.remember_session, World.note_session, World.overflowing_session]
      rfl
    | @batched number batch q hq isOpen =>
      rw [World.history_remember, World.history_note, World.history_remember, World.history_note,
        List.append_assoc]
      exact .of_calls (.batched number batch) hq (by simp [Event.calls]) (fun _ _ => rfl)
        (fun _ => isOpen) (by simp [Event.sparesQueues])

/-- What a turn does to the queues. -/
theorem Turn.queueChange (h : Turn (hand, w) (hand', w')) :
    QueueChange w.history w.session.queues w'.history w'.session.queues := by
  have refl : w.Adds Event.sparesQueues w := .refl w
  cases h with
  | spare h =>
    exact .of_adds (h.adds fun _ => Event.sparesQueues_of_spare) (congrArg (·.2.2.1) h.part)
  | called h => exact h.queueChange
  | taken => exact .of_adds refl rfl
  | gaveUp => exact .of_discards rfl (World.history_note _ _) rfl
  | discarded => exact .of_discards rfl (World.history_note _ _) rfl
  | handed => exact .of_adds (refl.note rfl) rfl
  | drained =>
    rw [World.history_remember, World.history_note, World.remember_session, World.note_session]
    simp only [Queue.takeAll_eq_followAll]
    refine .event _ [] (by simp) (fun i q hq batch => ?_) (fun i hi => ?_) fun now batches he => ?_
    · rw [Queue.mem_dueBatches]
      constructor
      · rintro ⟨q', hq', due, rfl⟩
        obtain rfl : q = q' := Option.some.inj (hq.symm.trans hq')
        exact ⟨due, rfl⟩
      · rintro ⟨due, rfl⟩
        exact ⟨q, hq, due, rfl⟩
    · rcases hi with hi | hi
      · cases hi
      · obtain ⟨batch, hb⟩ := (Event.drains_drained _ _ _).1 hi
        obtain ⟨q, hq, -⟩ := Queue.mem_dueBatches.1 hb
        exact (List.getElem?_eq_some_iff.1 hq).1
    · obtain ⟨-, rfl⟩ := Event.drained.inj he
      exact Queue.dueBatches_ordered _ _
  | @putBack _ request pending dropped backlog h =>
    have added : w.Adds Event.sparesQueues _ := (refl.remember fun s =>
      { s with request := s.request <|> request, backlog }).overflowing dropped rfl rfl
    refine .of_adds added ?_
    rw [World.overflowing_session]
    rfl

theorem Turn.records (h : Turn (hand, w) (hand', w')) (hr : Records w.history w.session.queues) :
    Records w'.history w'.session.queues :=
  hr.change h.queueChange

end Wiring

/-! ## What is handed over -/

namespace Event

/-- The messages that an event takes out of the queues. -/
def batches : Event → List (Option Message)
  | .drained _ batches => batches.flatMap Prod.snd
  | _ => []

/-- Events that may come before the batches are taken out: nothing is taken out or handed over for
the queues, and no shutdown discards them. -/
def early : Event → Bool
  | .drained .. | .discarded => false
  | .handOff label _ _ => label != .coalescing
  | _ => true

/-- Events that may come after that: only batches are handed over, and none is taken out. -/
def late : Event → Bool
  | .handOff label _ _ => label == .coalescing || label.passing
  | e => e.aside

/-- Events of a tick that sends no work. -/
def unsent : Event → Bool
  | .weighed connected ready => !(connected && ready)
  | e => e.upkeep

theorem early_of_spare {e : Event} (h : e.spare = true) : e.early = true := by
  cases e with
  | handOff label m accepted =>
    cases label with
    | coalescing => cases h
    | _ => rfl
  | _ => first | rfl | cases h

theorem early_of_unsent {e : Event} (h : e.unsent = true) : e.early = true := by
  cases e with
  | handOff label m accepted =>
    cases label with
    | coalescing => cases h
    | _ => rfl
  | _ => first | rfl | cases h

theorem unsent_of_upkeep {e : Event} (h : e.upkeep = true) : e.unsent = true := by
  cases e <;> first | exact h | cases h

theorem unsent_of_aside {e : Event} (h : e.aside = true) : e.unsent = true :=
  unsent_of_upkeep (upkeep_of_aside h)

theorem early_of_aside {e : Event} (h : e.aside = true) : e.early = true :=
  early_of_unsent (unsent_of_aside h)

theorem late_of_aside {e : Event} (h : e.aside = true) : e.late = true := by
  cases e with
  | handOff label m accepted =>
    have passing : label.passing = true := h
    simp [late, passing]
  | _ => exact h

theorem hands_of_early {e : Event} (h : e.early = true) : e.hands .coalescing = [] := by
  cases e with
  | handOff label m accepted => exact if_neg (by simpa [early] using h)
  | _ => rfl

theorem batches_of_early {e : Event} (h : e.early = true) : e.batches = [] := by
  cases e <;> first | rfl | cases h

theorem hands_of_late {e : Event} (h : e.late = true) :
    e.hands .request = [] ∧ e.hands .fifo = [] := by
  cases e with
  | handOff label m accepted => cases label <;> first | exact ⟨rfl, rfl⟩ | cases h
  | _ => exact ⟨rfl, rfl⟩

end Event

/-- The messages that were taken out of the queues, in order. -/
def takenOut (h : List Event) : List (Option Message) :=
  h.flatMap Event.batches

/-- All that was taken out of the queues was handed over or is in the hand of a tick. -/
def World.Delivered (hand : Hand) (w : World χ π) : Prop :=
  handedUnder .coalescing w.history ++ hand .coalescing = takenOut w.history

theorem World.Delivered.early {hand hand' : Hand} {w w' : World χ π} (hd : w.Delivered hand)
    (added : w.Adds Event.early w') (same : hand' .coalescing = hand .coalescing) :
    w'.Delivered hand' := by
  obtain ⟨es, hh, he⟩ := added
  have handed : handedUnder .coalescing es = [] :=
    List.flatMap_eq_nil_iff.2 fun e h => Event.hands_of_early (he e h)
  have taken : es.flatMap Event.batches = [] :=
    List.flatMap_eq_nil_iff.2 fun e h => Event.batches_of_early (he e h)
  rw [Delivered, hh, handedUnder_append, handed, List.append_nil, same, takenOut,
    List.flatMap_append, taken, List.append_nil]
  exact hd

namespace Wiring

variable {W : Wiring χ π ι} {hand hand' : Hand} {w w' : World χ π}

theorem Turn.delivered (h : Turn (hand, w) (hand', w')) (hd : w.Delivered hand) :
    w'.Delivered hand' := by
  have refl : w.Adds Event.early w := .refl w
  cases h with
  | spare h => exact hd.early (h.adds fun _ => Event.early_of_spare) rfl
  | called h => exact hd.early (h.adds (fun _ => Event.early_of_aside) refl) rfl
  | taken => exact hd.early refl rfl
  | gaveUp => exact hd.early ((refl.remember _).note rfl) rfl
  | discarded =>
    unfold World.Delivered takenOut at hd ⊢
    rw [World.history_note, handedUnder_concat, List.flatMap_append]
    simpa [Event.hands, Event.batches] using hd
  | @handed _ _ label m rest accepted h =>
    by_cases coalescing : label = .coalescing
    · subst coalescing
      unfold World.Delivered takenOut at hd ⊢
      rw [h] at hd
      rw [World.history_note, handedUnder_concat, List.flatMap_append, ← hd, Function.update_self]
      simp [Event.hands, Event.batches]
    · refine hd.early (refl.note (by simpa [Event.early] using coalescing)) ?_
      exact Function.update_of_ne (Ne.symm coalescing) _ _
  | drained =>
    unfold World.Delivered takenOut at hd ⊢
    rw [World.history_remember, World.history_note, handedUnder_concat, List.flatMap_append, ← hd]
    simp [Event.hands, Event.batches, Hand.draining, Hand.empty, Queue.takeAll_fst]
  | @putBack _ request pending dropped backlog h =>
    exact hd.early ((refl.remember fun s =>
      { s with request := s.request <|> request, backlog }).overflowing dropped rfl rfl) rfl

/-! ## The queues in a tick -/

theorem HandedOff.hands {label : Label} {ms : List (Option Message)} (h : HandedOff label ms w w')
    (hl : label.passing = false) :
    ∃ es, w'.history = w.history ++ es ∧ handedUnder label es = ms := by
  have none {w w' : World χ π} (h : w.Passing w') :
      ∃ es, w'.history = w.history ++ es ∧ handedUnder label es = [] := by
    obtain ⟨es, hh, he⟩ := h.history
    refine ⟨es, hh, handedUnder_of_inert (fun e h => ?_) hl⟩
    exact Event.inert_of_spare (Event.spare_of_passing (he e h))
  induction h with
  | nil => exact ⟨[], by simp, rfl⟩
  | @cons m rest w w₁ w₂ w' accepted h₁ h₂ _ ih =>
    obtain ⟨es₁, hh₁, none₁⟩ := none h₁
    obtain ⟨es₂, hh₂, none₂⟩ := none h₂
    obtain ⟨es, hh, handed⟩ := ih
    refine ⟨es₁ ++ .handOff label m accepted :: es₂ ++ es, ?_, ?_⟩
    · rw [hh, hh₂, World.history_note, hh₁]
      simp
    · rw [handedUnder_append, handed, handedUnder_append, none₁, handedUnder_cons, none₂]
      simp [Event.hands]

/-- What happens in a tick: no work is sent, or it is, and the batches of the queues last. -/
inductive Sending (es : List Event) : Prop
  | unsent (h : ∀ e ∈ es, e.unsent = true)
  | sent (a b : List Event) (now : Instant) (batches : List (Nat × List (Option Message)))
    (heq : es = a ++ .drained now batches :: b) (weighed : .weighed true true ∈ a)
    (early : ∀ e ∈ a, e.early = true) (late : ∀ e ∈ b, e.late = true)
    (handed : handedUnder .coalescing b = batches.flatMap Prod.snd)

theorem Ticked.sending {more : Bool} (h : W.Ticked w more w') :
    ∃ es, w'.history = w.history ++ es ∧ Sending es := by
  rcases h with ⟨_, _, rfl⟩ | ⟨_, _, pending, backlog, kept, w₁, w₂, w₃, h⟩
  · exact ⟨[], by simp, .unsent (by simp)⟩
  · have before : w.Adds Event.unsent w₂ :=
      h.maintained.adds (fun _ => Event.unsent_of_upkeep)
        (h.updated.adds (fun _ => Event.unsent_of_aside) ((World.Adds.refl w).remember _))
    cases h.dispatched with
    | @sent w₄ w₅ _ connected ready h₁ h₂ h₃ =>
      have leading : (W.weighing w₂).Adds Event.early w₅ :=
        h₂.adds (fun _ => Event.early_of_aside) (fun _ _ => rfl)
          (h₁.adds (fun _ => Event.early_of_aside) (fun _ _ => rfl) (.refl _))
      have trailing : World.Adds Event.late _ w₃ :=
        h₃.adds (fun _ => Event.late_of_aside) (fun _ _ => rfl) (.refl _)
      have published : w₃.Adds Event.aside w' := h.published.adds (fun _ h => h) (.refl _)
      obtain ⟨es₁, hh₁, he₁⟩ := before
      obtain ⟨es₂, hh₂, he₂⟩ := leading
      obtain ⟨es₃, hh₃, he₃⟩ := trailing
      obtain ⟨es₄, hh₄, he₄⟩ := published
      obtain ⟨es₃', hh₃', handed⟩ := h₃.hands rfl
      obtain rfl := List.append_cancel_left (hh₃.symm.trans hh₃')
      refine ⟨_, ?_, .sent (es₁ ++ .weighed true true :: es₂) (es₃ ++ es₄) w₅.clock
        (Queue.dueBatches w₅.clock w₅.session.queues) rfl ?_ ?_ ?_ ?_⟩
      · rw [hh₄, hh₃, World.history_remember, World.history_note, hh₂, weighing, connected, ready,
          World.history_note, hh₁]
        simp
      · simp
      · rw [List.forall_mem_append, List.forall_mem_cons]
        exact ⟨fun e h => Event.early_of_unsent (he₁ e h), rfl, he₂⟩
      · rw [List.forall_mem_append]
        exact ⟨he₃, fun e h => Event.late_of_aside (he₄ e h)⟩
      · have none : handedUnder .coalescing es₄ = [] := List.flatMap_eq_nil_iff.2 fun e h =>
          Event.hands_of_early (Event.early_of_aside (he₄ e h))
        rw [handedUnder_append, handed, none, List.append_nil, Queue.takeAll_fst]
    | nothing unready =>
      have weighed : w.Adds Event.unsent (W.weighing w₂) :=
        before.note (by simp only [Event.unsent, unready, Bool.not_false])
      obtain ⟨es, hh, he⟩ := h.published.adds (fun _ => Event.unsent_of_aside) weighed
      exact ⟨es, hh, .unsent he⟩
    | @putBack _ dropped backlog unready _ h₂ =>
      subst h₂
      have weighed : w.Adds Event.unsent (W.weighing w₂) :=
        before.note (by simp only [Event.unsent, unready, Bool.not_false])
      obtain ⟨es, hh, he⟩ := h.published.adds (fun _ => Event.unsent_of_aside)
        ((weighed.remember _).overflowing dropped rfl rfl)
      exact ⟨es, hh, .unsent he⟩

/-- What a tick does for the queues. -/
structure Serves (w w' : World χ π) : Prop where
  grown : w'.history = w.history ++ w'.since w
  /-- The batches that it takes out it hands over one after the other, after the request and the
  backlog and in a session that is ready. -/
  sent : ∀ now batches, .drained now batches ∈ w'.since w → ∃ a b,
    w'.since w = a ++ .drained now batches :: b ∧ .weighed true true ∈ a ∧
    handedUnder .coalescing a = [] ∧ handedUnder .coalescing b = batches.flatMap Prod.snd ∧
    handedUnder .request b = [] ∧ handedUnder .fifo b = []
  /-- If it takes out none, it hands over none, and it found that the transport was not connected or
  the session not ready. -/
  unsent : (∀ now batches, .drained now batches ∉ w'.since w) →
    .weighed true true ∉ w'.since w ∧ handedUnder .coalescing (w'.since w) = []
  /-- A queue that no call changes in the meantime stays as it is unless the session gives up or can
  send the batch: the transport is connected, the session is ready and the interval has passed. -/
  intact : ∀ (i : Nat) (q : Queue), w.session.queues[i]? = some q → .gaveUp ∉ w'.since w →
    (∀ e ∈ w'.since w, e.calls i = false) →
    (.weighed true true ∉ w'.since w ∨ ∀ now batches, .drained now batches ∈ w'.since w →
      now.since q.lastDrain < q.interval) → w'.session.queues[i]? = some q

namespace Sending

variable {es : List Event}

theorem sent_of_mem (h : Sending es) {now : Instant}
    {batches : List (Nat × List (Option Message))} (hd : .drained now batches ∈ es) : ∃ a b,
      es = a ++ .drained now batches :: b ∧ .weighed true true ∈ a ∧
      handedUnder .coalescing a = [] ∧ handedUnder .coalescing b = batches.flatMap Prod.snd ∧
      handedUnder .request b = [] ∧ handedUnder .fifo b = [] := by
  cases h with
  | unsent h => cases h _ hd
  | sent a b now' batches' heq weighed early late handed =>
    subst heq
    obtain ⟨rfl, rfl⟩ : now = now' ∧ batches = batches' := by
      rcases List.mem_append.1 hd with hd | hd
      · cases early _ hd
      · rcases List.mem_cons.1 hd with hd | hd
        · exact Event.drained.inj hd
        · cases late _ hd
    refine ⟨a, b, rfl, weighed, ?_, handed, ?_, ?_⟩
    · exact List.flatMap_eq_nil_iff.2 fun e he => Event.hands_of_early (early e he)
    · exact List.flatMap_eq_nil_iff.2 fun e he => (Event.hands_of_late (late e he)).1
    · exact List.flatMap_eq_nil_iff.2 fun e he => (Event.hands_of_late (late e he)).2

theorem drained_iff (h : Sending es) :
    (∃ now batches, .drained now batches ∈ es) ↔ .weighed true true ∈ es := by
  cases h with
  | unsent h =>
    constructor
    · rintro ⟨now, batches, hd⟩
      cases h _ hd
    · intro hw
      cases h _ hw
  | sent a b now batches heq weighed =>
    subst heq
    exact ⟨fun _ => List.mem_append_left _ weighed, fun _ => ⟨now, batches, by simp⟩⟩

theorem unsent_of_notMem (h : Sending es) (none : ∀ now batches, .drained now batches ∉ es) :
    .weighed true true ∉ es ∧ handedUnder .coalescing es = [] := by
  constructor
  · intro weighed
    obtain ⟨now, batches, hd⟩ := h.drained_iff.2 weighed
    exact none now batches hd
  · cases h with
    | unsent h =>
      refine List.flatMap_eq_nil_iff.2 fun e he => ?_
      exact Event.hands_of_early (Event.early_of_unsent (h e he))
    | sent a b now batches heq => exact absurd (by simp [heq]) (none now batches)

/-- No shutdown discards work in the middle of a tick. -/
theorem discarded_notMem (h : Sending es) : .discarded ∉ es := by
  intro hd
  cases h with
  | unsent h => cases h _ hd
  | sent a b now batches heq _ early late =>
    subst heq
    rcases List.mem_append.1 hd with hd | hd
    · cases early _ hd
    · rcases List.mem_cons.1 hd with hd | hd
      · cases hd
      · cases late _ hd

end Sending

theorem Ticked.serves {more : Bool} (h : W.Ticked w more w')
    (hr : Records w.history w.session.queues) : Serves w w' := by
  have hr' : Records w'.history w'.session.queues :=
    Turns.invariant (I := fun _ w => Records w.history w.session.queues) (fun s s' => Turn.records)
      h.turns hr
  have intervals : w.session.queues.map Queue.interval <+: w'.session.queues.map Queue.interval :=
    Turns.invariant (I := fun _ w' => w.session.queues.map Queue.interval <+:
      w'.session.queues.map Queue.interval)
      (fun s s' turn before => before.trans turn.queueChange.intervals) h.turns List.prefix_rfl
  obtain ⟨es, hh, sending⟩ := h.sending
  have since := World.since_eq hh
  constructor
  · rw [since]
    exact hh
  · intro now batches hd
    rw [since] at hd ⊢
    exact sending.sent_of_mem hd
  · intro none
    rw [since] at none ⊢
    exact sending.unsent_of_notMem none
  · intro i q hq kept calls idle
    rw [since] at kept calls idle
    have found : (w'.session.queues.map Queue.interval)[i]? = some q.interval := by
      obtain ⟨rest, heq⟩ := intervals
      have lt : i < (w.session.queues.map Queue.interval).length := by
        rw [List.length_map]
        exact (List.getElem?_eq_some_iff.1 hq).1
      rw [← heq, List.getElem?_append_left lt, List.getElem?_map, hq]
      rfl
    rw [List.getElem?_map] at found
    obtain ⟨q', hq', hi⟩ := Option.map_eq_some_iff.1 found
    have old := hr.recorded i q hq
    have new := hr'.recorded i q' hq'
    rw [hh] at new
    have admitted := new.admitted
    have replayed := new.replayed
    rw [hi] at admitted replayed
    have same := Queue.replay_gated admitted (fun e he => ⟨calls e he, ?_⟩) fun now batches hd => ?_
    · rw [hq', ← replayed, same, old.replayed]
    · cases e with
      | gaveUp => exact absurd he kept
      | discarded => exact absurd he sending.discarded_notMem
      | _ => rfl
    · rw [old.replayed]
      rcases idle with unready | gated
      · exact absurd (sending.drained_iff.1 ⟨now, batches, hd⟩) unready
      · exact gated now batches hd

/-! ## The queues of a run -/

/-- A closed queue ignores a batch: nothing changes and nothing is recorded. -/
theorem perform_putBatch_of_closed {number : Nat} {q : Queue}
    (hq : w.session.queues[number]? = some q) (closed : q.closed = true)
    (batch : List (Option Message)) :
    (W.perform (.putBatch number batch)).run w = .ok (.none, w) := by
  have ignored : Returns (W.perform (.putBatch number batch)) w fun r w' => r = .none ∧ w' = w := by
    refine returns_bind (returns_bind (returns_bind (returns_get ?_)))
    rw [hq]
    refine returns_pure (returns_ite (fun isOpen => ?_) fun _ => returns_pure ?_)
    · simp [closed] at isOpen
    · exact returns_pure ⟨rfl, rfl⟩
  obtain ⟨r, w', run, rfl, rfl⟩ := ignored
  exact run

variable (W) in
/-- The laws of the queues of a session. -/
structure Coalescing (w : World χ π) : Prop where
  /-- Each queue is a slot for the latest batch behind a rate gate. -/
  lawful : ∀ (i : Nat) (q : Queue), w.session.queues[i]? = some q → q.Coalesces i w.history
  /-- A drain takes at most one batch out of each queue, in the order in which they were created. -/
  ordered : ∀ now batches, .drained now batches ∈ w.history →
    (batches.map Prod.fst).Pairwise (· < ·) ∧ ∀ b ∈ batches, b.1 < w.session.queues.length
  /-- What was taken out was handed over once, in the same order. -/
  delivered : handedUnder .coalescing w.history = takenOut w.history
  ticks : ∀ more w', W.tick.run w = .ok (more, w') → Serves w w'
  /-- A closed queue ignores what is put into it. -/
  shut : ∀ (i : Nat) (q : Queue) (batch : List (Option Message)), w.session.queues[i]? = some q →
    q.closed = true → (W.perform (.putBatch i batch)).run w = .ok (.none, w)

/-- In every run the queues obey their laws: what is handed over for a queue is always the whole of
the latest batch, at most once and at most once per interval; the first one is not held back; a tick
that cannot send leaves what waits as it is; batches come in the order of the queues and after all
other work; and closed queues stay empty. -/
theorem queues_coalesce (hW : W.CallbacksOnlyCall EnvironmentStep) {w₀ : World χ π}
    (h₀ : W.Fresh w₀) (h : W.Reaches W.EnvironmentOrNotice w₀ w) : W.Coalescing w := by
  have onlyMove : W.CallbacksOnlyMove := hW.onlyMove fun _ _ => EnvironmentStep.passing
  have records : Records w.history w.session.queues := by
    refine Reaches.invariant (I := fun _ w => Records w.history w.session.queues)
      (fun s s' => Turn.records) onlyMove h ?_
    rw [h₀.history, h₀.session_eq]
    exact ⟨by simp, by simp, by simp⟩
  have delivered : w.Delivered .empty := by
    refine Reaches.invariant (fun s s' => Turn.delivered) onlyMove h ?_
    rw [World.Delivered, h₀.history]
    rfl
  constructor
  · exact fun i q hq => (records.recorded i q hq).coalesces
  · intro now batches hd
    refine ⟨records.ordered now batches hd, fun b hb => ?_⟩
    exact records.known _ hd b.1 (.inr ((Event.drains_drained _ _ _).2 ⟨b.2, hb⟩))
  · simpa [World.Delivered, Hand.empty] using delivered
  · exact fun more w' tick => (tick_cases onlyMove w more w' tick).serves records
  · exact fun i q batch hq closed => perform_putBatch_of_closed hq closed batch

end Wiring

namespace Rehearsal

open Wiring

/-- Two queues: the first one lets a batch pass every hundred milliseconds, the second one at any
time. Of the batches of the first queue one is replaced, one is held back for a while, and one is
never sent; the second queue is closed before something is put into it again. -/
def coalescing : List Cue :=
  [.call .start, .call (.createQueue (100 * Duration.millisecond)), .call (.createQueue 0),
    .call (.putBatch 1 [parcel 4]), .call (.putBatch 0 [parcel 1]),
    .call (.putBatch 0 [parcel 2, parcel 3]), .tick, welcoming 0, .tick, beating 0, .tick,
    .call (.putBatch 0 [parcel 5]), .wait (50 * Duration.millisecond), .tick,
    .wait (50 * Duration.millisecond), .tick, .call (.closeQueue 1), .call (.putBatch 1 [parcel 6]),
    .call (.putBatch 0 [parcel 7]), .tick]

theorem queues_coalesce_rehearsed : ∃ w : World (Wired Loopback) (Option PortSupply),
    (echoing modest).Reaches (echoing modest).EnvironmentOrNotice (opening modest) w ∧
    submittedUnder .coalescing w.history = [4, 1, 2, 3, 5, 7].map (some ∘ parcel) ∧
    handedUnder .coalescing w.history = [2, 3, 4, 5].map (some ∘ parcel) ∧
    w.session.queues.map Queue.pending = [[some (parcel 7)], []] ∧
    (echoing modest).Coalescing w := by
  have played : ((echoing modest).play coalescing (opening modest)).map (fun w =>
      (submittedUnder .coalescing w.history, handedUnder .coalescing w.history,
        w.session.queues.map Queue.pending)) =
      some ([4, 1, 2, 3, 5, 7].map (some ∘ parcel), [2, 3, 4, 5].map (some ∘ parcel),
        [[some (parcel 7)], []]) := by
    decide +kernel
  obtain ⟨w, hw, facts⟩ := Option.map_eq_some_iff.1 played
  simp only [Prod.mk.injEq] at facts
  obtain ⟨submitted, handed, waiting⟩ := facts
  have run := environmentOrNotice_of_play hw
  exact ⟨w, run, submitted, handed, waiting,
    queues_coalesce (echoing_onlyCall _ _) modest_fresh run⟩

end Rehearsal

end Teleop
