import Teleop.Proofs.Session.History

/-!
# The histories of queues

What a queue holds can be read off the history: `Queue.follow` is what one event does to the queue
with a number and `Queue.replay` what a whole history does to it. `Queue.Admits` says which events
can come about while a queue is in some state: no batch is put into a closed queue, and a drain
takes out the batch of the queue if and only if it is due.

A queue that is the replay of a history of such events (`Queue.Recorded`) obeys the laws of a slot
that holds the latest batch behind a rate gate (`Queue.Coalesces`). The laws speak of the events of
the history and not of the replay.
-/

namespace Teleop

/-! ## Durations -/

/-- Clamping makes a duration longer only at the lower end of the range. -/
theorem Duration.le_of_le_clamp {d e : Duration} (hd : least < d) (h : d ≤ clamp e) : d ≤ e := by
  unfold clamp at h
  split at h
  · exact absurd (Int.lt_of_lt_of_le hd h) (Int.lt_irrefl _)
  · split at h
    · next above => exact Int.le_trans h (Int.le_of_lt above)
    · exact h

/-- Around the year 2100 more time has passed since the start of year 1 than a duration can say. -/
theorem Instant.since_zero {now : Instant}
    (near : Duration.least ≤ now.nanos - year2100.nanos) : now.since zero = Duration.greatest := by
  have late : (-9223372036854775808 : Int) ≤ now.nanos - 66238041600000000000 := near
  have above : (9223372036854775807 : Int) < now.nanos - 0 := by omega
  have notBelow : ¬ now.nanos - 0 < (-9223372036854775808 : Int) := by omega
  exact (if_neg notBelow).trans (if_pos above)

/-! ## Events and queues -/

namespace Event

/-- A call changes the queue with this number. -/
def calls (i : Nat) : Event → Bool
  | .batched j _ | .cleared j | .closed j => j == i
  | _ => false

/-- The batch of the queue with this number is taken out. -/
def drains (i : Nat) : Event → Bool
  | .drained _ batches => batches.any (·.1 == i)
  | _ => false

/-- The batch in the queue with this number is replaced, taken out or discarded. -/
def touches (i : Nat) (e : Event) : Bool :=
  e.calls i || e.drains i || e.discards

theorem touches_eq_false {i : Nat} {e : Event} :
    e.touches i = false ↔ e.calls i = false ∧ e.drains i = false ∧ e.discards = false := by
  simp [touches, and_assoc]

theorem drains_drained (i : Nat) (now : Instant) (batches : List (Nat × List (Option Message))) :
    (Event.drained now batches).drains i = true ↔ ∃ batch, (i, batch) ∈ batches := by
  simp [drains]

end Event

namespace Queue

/-- What an event does to the queue with the number `i`. -/
def follow (i : Nat) (q : Queue) : Event → Queue
  | .batched j batch => if j = i then q.put batch else q
  | .cleared j => if j = i then q.clear else q
  | .closed j => if j = i then q.close else q
  | .gaveUp | .discarded => q.clear
  | .drained now batches =>
    if batches.any (·.1 == i) then { q with pending := [], lastDrain := now } else q
  | _ => q

/-- What a history does to the queue with the number `i`, which is new at first. -/
def replay (i : Nat) (interval : Duration) (h : List Event) : Queue :=
  h.foldl (follow i) { interval }

/-- The event can come about while the queue with the number `i` is in this state. -/
def Admits (i : Nat) (q : Queue) : Event → Prop
  | .batched j _ => j = i → q.closed = false
  | .drained now batches =>
    ∀ batch, (i, batch) ∈ batches ↔ q.due now = true ∧ q.pending = batch
  | _ => True

/-- The queue with the number `i` is the replay of a history of admitted events. -/
structure Recorded (i : Nat) (h : List Event) (q : Queue) : Prop where
  replayed : replay i q.interval h = q
  admitted : Each (fun a e => (replay i q.interval a).Admits i e) h

section Follow

variable {i : Nat} {q : Queue} {e : Event}

theorem due_eq_true {now : Instant} : q.due now = true ↔
    q.closed = false ∧ q.pending ≠ [] ∧ q.interval ≤ now.since q.lastDrain := by
  simp [due, and_assoc]

theorem put_of_open (isOpen : q.closed = false) (batch : List (Option Message)) :
    (q.put batch).pending = batch := by
  obtain ⟨interval, pending, lastDrain, closed⟩ := q
  cases isOpen
  rfl

theorem interval_put (batch : List (Option Message)) : (q.put batch).interval = q.interval := by
  obtain ⟨interval, pending, lastDrain, closed⟩ := q
  cases closed <;> rfl

theorem lastDrain_put (batch : List (Option Message)) : (q.put batch).lastDrain = q.lastDrain := by
  obtain ⟨interval, pending, lastDrain, closed⟩ := q
  cases closed <;> rfl

theorem closed_put (batch : List (Option Message)) : (q.put batch).closed = q.closed := by
  obtain ⟨interval, pending, lastDrain, closed⟩ := q
  cases closed <;> rfl

theorem follow_batched (i : Nat) (q : Queue) (j : Nat) (batch : List (Option Message)) :
    q.follow i (.batched j batch) = if j = i then q.put batch else q :=
  rfl

theorem follow_cleared (i : Nat) (q : Queue) (j : Nat) :
    q.follow i (.cleared j) = if j = i then q.clear else q :=
  rfl

theorem follow_closed (i : Nat) (q : Queue) (j : Nat) :
    q.follow i (.closed j) = if j = i then q.close else q :=
  rfl

theorem follow_drained (i : Nat) (q : Queue) (now : Instant)
    (batches : List (Nat × List (Option Message))) :
    q.follow i (.drained now batches) =
      if batches.any (·.1 == i) then { q with pending := [], lastDrain := now } else q :=
  rfl

theorem interval_follow (i : Nat) (q : Queue) (e : Event) :
    (q.follow i e).interval = q.interval := by
  cases e with
  | batched j batch =>
    rw [follow_batched]
    split
    · exact interval_put batch
    · rfl
  | cleared j => rw [follow_cleared]; split <;> rfl
  | closed j => rw [follow_closed]; split <;> rfl
  | drained now batches => rw [follow_drained]; split <;> rfl
  | _ => rfl

theorem lastDrain_follow (h : e.drains i = false) : (q.follow i e).lastDrain = q.lastDrain := by
  cases e with
  | batched j batch =>
    rw [follow_batched]
    split
    · exact lastDrain_put batch
    · rfl
  | cleared j => rw [follow_cleared]; split <;> rfl
  | closed j => rw [follow_closed]; split <;> rfl
  | drained now batches =>
    have untouched : batches.any (·.1 == i) = false := h
    simp [follow_drained, untouched]
  | _ => rfl

theorem closed_follow : (q.follow i e).closed = true ↔ q.closed = true ∨ e = .closed i := by
  cases e with
  | batched j batch =>
    rw [follow_batched]
    split <;> simp [closed_put]
  | cleared j =>
    rw [follow_cleared]
    split <;> simp [clear]
  | closed j =>
    by_cases hj : j = i
    · simp [follow_closed, hj, close]
    · simp [follow_closed, hj]
  | drained now batches =>
    rw [follow_drained]
    split <;> simp
  | _ =>
    refine (or_iff_left ?_).symm
    intro isClosed
    cases isClosed

theorem follow_of_not_touches (h : e.touches i = false) : q.follow i e = q := by
  obtain ⟨calls, drains, discards⟩ := Event.touches_eq_false.1 h
  cases e with
  | batched j batch => exact if_neg (by simpa [Event.calls] using calls)
  | cleared j => exact if_neg (by simpa [Event.calls] using calls)
  | closed j => exact if_neg (by simpa [Event.calls] using calls)
  | drained now batches =>
    have untouched : batches.any (·.1 == i) = false := drains
    simp [follow_drained, untouched]
  | gaveUp => cases discards
  | discarded => cases discards
  | _ => rfl

/-- Of the events that touch a queue only a new batch leaves something in it. -/
theorem exists_of_touches (h : e.touches i = true) (hp : (q.follow i e).pending ≠ []) :
    ∃ batch, e = .batched i batch := by
  cases e with
  | batched j batch =>
    have hj : j = i := by simpa [Event.touches, Event.calls, Event.drains, Event.discards] using h
    exact ⟨batch, by rw [hj]⟩
  | cleared j =>
    have hj : j = i := by simpa [Event.touches, Event.calls, Event.drains, Event.discards] using h
    exact absurd (by simp [follow_cleared, hj, clear]) hp
  | closed j =>
    have hj : j = i := by simpa [Event.touches, Event.calls, Event.drains, Event.discards] using h
    exact absurd (by simp [follow_closed, hj, close]) hp
  | drained now batches =>
    have any : batches.any (·.1 == i) = true := by
      simpa [Event.touches, Event.calls, Event.drains, Event.discards] using h
    exact absurd (by rw [follow_drained, if_pos any]) hp
  | gaveUp => exact absurd rfl hp
  | discarded => exact absurd rfl hp
  | _ => cases h

end Follow

section Replay

variable {i : Nat} {interval : Duration} {a b h : List Event}

theorem replay_concat (h : List Event) (e : Event) :
    replay i interval (h ++ [e]) = (replay i interval h).follow i e := by
  unfold replay
  rw [List.foldl_append]
  rfl

theorem interval_replay (i : Nat) (interval : Duration) (h : List Event) :
    (replay i interval h).interval = interval := by
  induction h using List.reverseRecOn with
  | nil => rfl
  | append_singleton h e ih => rw [replay_concat, interval_follow, ih]

theorem replay_untouched (hb : ∀ e ∈ b, e.touches i = false) :
    replay i interval (a ++ b) = replay i interval a := by
  induction b using List.reverseRecOn with
  | nil => rw [List.append_nil]
  | append_singleton b e ih =>
    obtain ⟨hb, he⟩ := List.forall_mem_append.1 hb
    rw [← List.append_assoc, replay_concat, follow_of_not_touches (he e (by simp)), ih hb]

theorem lastDrain_replay (hb : ∀ e ∈ b, e.drains i = false) :
    (replay i interval (a ++ b)).lastDrain = (replay i interval a).lastDrain := by
  induction b using List.reverseRecOn with
  | nil => rw [List.append_nil]
  | append_singleton b e ih =>
    obtain ⟨hb, he⟩ := List.forall_mem_append.1 hb
    rw [← List.append_assoc, replay_concat, lastDrain_follow (he e (by simp)), ih hb]

/-- The last drain is the one after which the batch of this queue was not taken out again. -/
theorem lastDrain_replay_drained {now : Instant} {batches : List (Nat × List (Option Message))}
    {batch : List (Option Message)} (drained : (i, batch) ∈ batches)
    (hb : ∀ e ∈ b, e.drains i = false) :
    (replay i interval (a ++ .drained now batches :: b)).lastDrain = now := by
  have any : batches.any (·.1 == i) = true := (Event.drains_drained i now _).2 ⟨batch, drained⟩
  rw [List.append_cons, lastDrain_replay hb, replay_concat]
  rw [follow_drained, if_pos any]

theorem closed_replay : (replay i interval h).closed = true ↔ .closed i ∈ h := by
  induction h using List.reverseRecOn with
  | nil => simp [replay]
  | append_singleton h e ih =>
    rw [replay_concat, closed_follow, ih, List.mem_append, List.mem_singleton, eq_comm]

/-- A batch that was put into the queue stays there until an event touches the queue. -/
theorem replay_batched {batch : List (Option Message)}
    (admitted : Each (fun a e => (replay i interval a).Admits i e) (a ++ .batched i batch :: b))
    (hb : ∀ e ∈ b, e.touches i = false) : (replay i interval a).closed = false ∧
      replay i interval (a ++ .batched i batch :: b) = (replay i interval a).put batch := by
  refine ⟨admitted a _ b rfl rfl, ?_⟩
  rw [List.append_cons, replay_untouched hb, replay_concat]
  exact if_pos rfl

/-- Whatever waits in the queue was put there, and no event has touched the queue since then. -/
theorem exists_batched (admitted : Each (fun a e => (replay i interval a).Admits i e) h)
    (hp : (replay i interval h).pending ≠ []) :
    ∃ a b, h = a ++ .batched i (replay i interval h).pending :: b ∧
      ∀ e ∈ b, e.touches i = false := by
  induction h using List.reverseRecOn with
  | nil => exact absurd rfl hp
  | append_singleton h e ih =>
    by_cases touched : e.touches i = true
    · rw [replay_concat] at hp
      obtain ⟨batch, rfl⟩ := exists_of_touches touched hp
      obtain ⟨isOpen, put⟩ := replay_batched admitted (b := []) (by simp)
      rw [put, put_of_open isOpen]
      exact ⟨h, [], rfl, by simp⟩
    · have same : replay i interval (h ++ [e]) = replay i interval h :=
        replay_untouched (by simpa using touched)
      rw [same] at hp ⊢
      obtain ⟨a, b, hab, hb⟩ := ih admitted.left hp
      refine ⟨a, b ++ [e], ?_, ?_⟩
      · nth_rewrite 1 [hab]
        simp
      · rw [List.forall_mem_append]
        exact ⟨hb, by simpa using touched⟩

/-- While a queue is gated and no call changes it, drains leave it alone. -/
theorem replay_gated {es : List Event}
    (admitted : Each (fun a e => (replay i interval a).Admits i e) (h ++ es))
    (quiet : ∀ e ∈ es, e.calls i = false ∧ e.discards = false)
    (gated : ∀ now batches, .drained now batches ∈ es →
      now.since (replay i interval h).lastDrain < interval) :
    replay i interval (h ++ es) = replay i interval h := by
  induction es using List.reverseRecOn with
  | nil => rw [List.append_nil]
  | append_singleton es e ih =>
    rw [← List.append_assoc] at admitted ⊢
    obtain ⟨quiet, last⟩ := List.forall_mem_append.1 quiet
    have same := ih admitted.left quiet fun now batches hd =>
      gated now batches (List.mem_append_left _ hd)
    have drains : e.drains i = false := by
      cases e with
      | drained now batches =>
        rw [← Bool.not_eq_true, Event.drains_drained]
        rintro ⟨batch, hb⟩
        have due := ((admitted (h ++ es) _ [] rfl batch).1 hb).1
        rw [same] at due
        obtain ⟨-, -, passed⟩ := due_eq_true.1 due
        rw [interval_replay] at passed
        exact absurd passed (Int.not_le.2 (gated now batches (by simp)))
      | _ => rfl
    obtain ⟨calls, discards⟩ := last e (by simp)
    have touches := Event.touches_eq_false.2 ⟨calls, drains, discards⟩
    rw [replay_concat, follow_of_not_touches touches, same]

end Replay

/-! ## Laws -/

/-- The laws of the queue with the number `i`: it is a slot for the latest batch behind a rate
gate. -/
structure Coalesces (i : Nat) (h : List Event) (q : Queue) : Prop where
  /-- A batch that was put into the queue waits until an event touches the queue … -/
  waits : ∀ a batch b, h = a ++ .batched i batch :: b → (∀ e ∈ b, e.touches i = false) →
    q.pending = batch
  /-- … and nothing else does. -/
  latest : q.pending ≠ [] → ∃ a b, h = a ++ .batched i q.pending :: b ∧
    ∀ e ∈ b, e.touches i = false
  /-- What a drain takes out is the whole batch that was put into the queue last, and since then no
  event has touched the queue. -/
  whole : ∀ a now batches b batch, h = a ++ .drained now batches :: b → (i, batch) ∈ batches →
    batch ≠ [] ∧ ∃ c d, a = c ++ .batched i batch :: d ∧ ∀ e ∈ d, e.touches i = false
  /-- One drain and the next one are an interval apart. -/
  apart : ∀ a now batches batch b now' batches' batch' c,
    h = a ++ .drained now batches :: b ++ .drained now' batches' :: c →
    (i, batch) ∈ batches → (i, batch') ∈ batches' → (∀ e ∈ b, e.drains i = false) →
    0 < q.interval → q.interval ≤ now'.nanos - now.nanos
  /-- A queue that was never drained is not gated: a drain takes out what waits in it, however long
  the interval is. -/
  first : ∀ a batch b now batches c, h = a ++ .batched i batch :: b ++ .drained now batches :: c →
    batch ≠ [] → (∀ e ∈ b, e.touches i = false) → (∀ e ∈ a, e.drains i = false) →
    q.interval ≤ Duration.greatest → Duration.least ≤ now.nanos - Instant.year2100.nanos →
    (i, batch) ∈ batches
  /-- After that, a drain takes out what waits if and only if the interval has passed since the last
  time. -/
  gated : ∀ a now batches old b batch c now' batches' d,
    h = a ++ .drained now batches :: b ++ .batched i batch :: c ++ .drained now' batches' :: d →
    (i, old) ∈ batches → (∀ e ∈ b, e.drains i = false) → batch ≠ [] →
    (∀ e ∈ c, e.touches i = false) → ((i, batch) ∈ batches' ↔ q.interval ≤ now'.since now)
  /-- Once the queue is closed, nothing is put into it and nothing is taken out of it. -/
  shut : ∀ a b, h = a ++ .closed i :: b → q.closed = true ∧ q.pending = [] ∧
    ∀ e ∈ b, (∀ batch, e ≠ .batched i batch) ∧ e.drains i = false

namespace Recorded

variable {i : Nat} {h : List Event} {q : Queue}

/-- A drain takes out a batch that waits if and only if the interval has passed. -/
theorem mem_iff (hr : q.Recorded i h) {a b c : List Event} {batch : List (Option Message)}
    {now : Instant} {batches : List (Nat × List (Option Message))}
    (heq : h = a ++ .batched i batch :: b ++ .drained now batches :: c) (ne : batch ≠ [])
    (hb : ∀ e ∈ b, e.touches i = false) : (i, batch) ∈ batches ↔
      q.interval ≤ now.since (replay i q.interval a).lastDrain := by
  have admitted := hr.admitted
  rw [heq] at admitted
  obtain ⟨isOpen, replayed⟩ := replay_batched admitted.left hb
  have takes : (i, batch) ∈ batches ↔ _ := admitted _ _ _ rfl batch
  have waits := put_of_open isOpen batch
  rw [takes, replayed, and_iff_left waits, due_eq_true, waits, closed_put, interval_put,
    lastDrain_put, interval_replay]
  simp [isOpen, ne]

theorem coalesces (hr : q.Recorded i h) : q.Coalesces i h where
  waits := by
    rintro a batch b rfl hb
    obtain ⟨isOpen, replayed⟩ := replay_batched hr.admitted hb
    rw [← hr.replayed, replayed, put_of_open isOpen]
  latest := by
    intro hp
    have put := exists_batched hr.admitted
    rw [hr.replayed] at put
    exact put hp
  whole := by
    rintro a now batches b batch rfl drained
    obtain ⟨due, rfl⟩ := (hr.admitted _ _ _ rfl batch).1 drained
    obtain ⟨-, hp, -⟩ := due_eq_true.1 due
    exact ⟨hp, exists_batched hr.admitted.left hp⟩
  apart := by
    rintro a now batches batch b now' batches' batch' c rfl drained drained' hb positive
    obtain ⟨due, -⟩ := (hr.admitted _ _ _ rfl batch').1 drained'
    obtain ⟨-, -, passed⟩ := due_eq_true.1 due
    rw [interval_replay, lastDrain_replay_drained drained hb] at passed
    apply Duration.le_of_le_clamp ?_ passed
    exact Int.lt_trans (by decide) positive
  first := by
    rintro a batch b now batches c heq ne hb never short near
    have fresh : (replay i q.interval ([] ++ a)).lastDrain = Instant.zero := lastDrain_replay never
    rw [List.nil_append] at fresh
    rw [hr.mem_iff heq ne hb, fresh, Instant.since_zero near]
    exact short
  gated := by
    intro a now batches old b batch c now' batches' d heq drained hb ne hc
    rw [hr.mem_iff heq ne hc, lastDrain_replay_drained drained hb]
  shut := by
    rintro a b rfl
    have closed {c : List Event} : (replay i q.interval (a ++ .closed i :: c)).closed = true :=
      closed_replay.2 (by simp)
    have none : q.pending = [] := by
      by_contra hp
      rw [← hr.replayed] at hp
      obtain ⟨c, d, hcd, hd⟩ := exists_batched hr.admitted hp
      obtain ⟨isOpen, replayed⟩ := replay_batched (hcd ▸ hr.admitted) hd
      have shut := closed (c := b)
      rw [hcd, replayed, closed_put, isOpen] at shut
      cases shut
    refine ⟨hr.replayed ▸ closed, none, fun e he => ?_⟩
    obtain ⟨c, d, rfl⟩ := List.append_of_mem he
    have admits := hr.admitted (a ++ .closed i :: c) e d (by simp)
    constructor
    · rintro batch rfl
      exact absurd ((admits rfl).symm.trans closed) (by simp)
    · cases e with
      | drained now batches =>
        rw [← Bool.not_eq_true, Event.drains_drained]
        rintro ⟨batch, drained⟩
        obtain ⟨isOpen, -⟩ := due_eq_true.1 ((admits batch).1 drained).1
        exact absurd (isOpen.symm.trans closed) (by simp)
      | _ => rfl

end Recorded

end Queue

end Teleop
