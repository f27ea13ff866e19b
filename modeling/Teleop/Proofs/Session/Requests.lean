import Teleop.Proofs.Session.Waiting

/-!
# The request slot

Requests are numbered in the order in which they are set, and a request stands (`Stands`) until the
next one is set or work is discarded. A `Docket` lists the numbers of those that were handed over
and says what is in the slot.

In the middle of a tick a request may wait in the hand of the tick and another one in the slot. A
`Lineup` also lists the numbers of those that wait: the last one of them is the one that stands, and
the one that stands waits unless it was handed over. It is kept event by event (`Lineup.requested`,
`Lineup.handedOver`, `Lineup.discard`), and when a request is put back (`Lineup.keepLast`).

* `Wiring.requests_docketed`: the docket of every run.
-/

namespace Teleop

variable {χ π ι : Type}

namespace Event

/-- Another request is set, or all work is discarded. -/
def replaces : Event → Bool
  | .requested _ => true
  | e => e.discards

/-- No request is set, handed over or discarded. -/
def mute : Event → Bool
  | .requested _ | .gaveUp | .discarded => false
  | .handOff label _ _ => label != .request
  | _ => true

theorem mute_of_spare {e : Event} (h : e.spare = true) : e.mute = true := by
  cases e with
  | handOff label m accepted =>
    cases label with
    | request => cases h
    | _ => rfl
  | _ => first | rfl | cases h

theorem replaces_of_discards {e : Event} (h : e.discards = true) : e.replaces = true := by
  cases e <;> first | rfl | exact h

theorem replaces_of_mute {e : Event} (h : e.mute = true) : e.replaces = false := by
  cases e <;> first | rfl | cases h

theorem submits_of_mute {e : Event} (h : e.mute = true) : e.submits .request = [] := by
  cases e <;> first | rfl | cases h

theorem hands_of_mute {e : Event} (h : e.mute = true) : e.hands .request = [] := by
  cases e with
  | handOff label m accepted => exact if_neg (by simpa [mute] using h)
  | _ => rfl

end Event

/-! ## The request that stands -/

/-- The request with this number was set, and since then no other one was set and no work was
discarded. -/
def Stands (h : List Event) (i : Nat) : Prop :=
  ∃ a m b, h = a ++ .requested m :: b ∧ (submittedUnder .request a).length = i ∧
    ∀ e ∈ b, e.replaces = false

namespace Stands

variable {h : List Event} {e : Event} {i : Nat}

theorem concat_iff (he : e.replaces = false) : Stands (h ++ [e]) i ↔ Stands h i := by
  constructor
  · rintro ⟨a, m, b, heq, hi, hb⟩
    rcases concat_eq_append_cons heq with ⟨-, rfl, -⟩ | ⟨b, rfl, rfl⟩
    · cases he
    · exact ⟨a, m, b, rfl, hi, fun e he => hb e (List.mem_append_left _ he)⟩
  · rintro ⟨a, m, b, rfl, hi, hb⟩
    refine ⟨a, m, b ++ [e], by simp, hi, ?_⟩
    rw [List.forall_mem_append]
    exact ⟨hb, by simpa using he⟩

theorem concat_requested_iff {m : Option Message} :
    Stands (h ++ [.requested m]) i ↔ i = (submittedUnder .request h).length := by
  constructor
  · rintro ⟨a, m', b, heq, hi, hb⟩
    rcases concat_eq_append_cons heq with ⟨rfl, -, -⟩ | ⟨b, rfl, -⟩
    · exact hi.symm
    · exact absurd (hb (.requested m) (by simp)) (by simp [Event.replaces])
  · rintro rfl
    exact ⟨h, m, [], rfl, rfl, by simp⟩

theorem not_concat (he : e.discards = true) : ¬ Stands (h ++ [e]) i := by
  rintro ⟨a, m, b, heq, -, hb⟩
  rcases concat_eq_append_cons heq with ⟨-, rfl, -⟩ | ⟨b, rfl, -⟩
  · cases he
  · exact absurd (hb e (by simp)) (by simp [Event.replaces_of_discards he])

end Stands

/-- The number of a request is where it stands among all of them. -/
theorem getElem?_submittedUnder_requested (a : List Event) (m : Option Message) (b : List Event) :
    (submittedUnder .request (a ++ .requested m :: b))[(submittedUnder .request a).length]? =
      some m := by
  rw [submittedUnder_append, List.getElem?_append_right (Nat.le_refl _), Nat.sub_self]
  rfl

/-! ## Dockets -/

/-- What became of the requests, by their numbers: those of `sent` were handed over, in this order,
and `slot` is what the slot holds. -/
structure Docket (h : List Event) (slot : Option Message) (sent : List Nat) : Prop where
  /-- Each one is handed over at most once, and in the order in which they were set. -/
  ordered : sent.Pairwise (· < ·)
  sent_eq : sent.map ((submittedUnder .request h)[·]?) = (handedUnder .request h).map some
  /-- A request is set before it is handed over. -/
  causal : ∀ a, a <+: h → ∀ i ∈ sent.take (handedUnder .request a).length,
    i < (submittedUnder .request a).length
  /-- A request that was neither replaced by a later one nor discarded was handed over or is in the
  slot. -/
  accounted : ∀ a m b, h = a ++ .requested m :: b → (∀ e ∈ b, e.replaces = false) →
    (submittedUnder .request a).length ∈ sent ∨ slot = m
  /-- What is in the slot was set last, and it was neither handed over nor discarded. -/
  latest : ∀ m, slot = some m → ∃ a b, h = a ++ .requested (some m) :: b ∧
    (∀ e ∈ b, e.replaces = false) ∧ (submittedUnder .request a).length ∉ sent

/-- Which requests were handed over and which wait, by their numbers. -/
structure Lineup (h : List Event) (waiting : List (Option Message)) (sent held : List Nat) :
    Prop where
  /-- What was handed over was set before what waits, and both are in order. -/
  ordered : (sent ++ held).Pairwise (· < ·)
  sent_eq : sent.map ((submittedUnder .request h)[·]?) = (handedUnder .request h).map some
  held_eq : held.map ((submittedUnder .request h)[·]?) = waiting.map some
  causal : ∀ a, a <+: h → ∀ i ∈ sent.take (handedUnder .request a).length,
    i < (submittedUnder .request a).length
  /-- The request that stands was handed over or is the last one that waits. -/
  standing : ∀ i, Stands h i → i ∈ sent ∨ held.getLast? = some i
  /-- The last one that waits stands. -/
  last : ∀ i, held.getLast? = some i → Stands h i

namespace Lineup

variable {h es : List Event} {ws : List (Option Message)} {sent held : List Nat}

theorem nil : Lineup [] [] [] [] where
  ordered := .nil
  sent_eq := rfl
  held_eq := rfl
  causal _ _ _ hi := absurd hi (by simp)
  standing := by
    rintro i ⟨a, m, b, heq, -⟩
    simp at heq
  last _ hi := absurd hi (by simp)

theorem lt_of_mem (hd : Lineup h ws sent held) {i : Nat} (hi : i ∈ sent ++ held) :
    i < (submittedUnder .request h).length := by
  have found := List.mem_map_of_mem (f := ((submittedUnder .request h)[·]?)) hi
  rw [List.map_append, hd.sent_eq, hd.held_eq, ← List.map_append] at found
  obtain ⟨m, -, hm⟩ := List.mem_map.1 found
  exact (List.getElem?_eq_some_iff.1 hm.symm).1

theorem length_sent (hd : Lineup h ws sent held) :
    sent.length = (handedUnder .request h).length := by
  simpa using congrArg List.length hd.sent_eq

/-- An event that is no concern of the requests. -/
theorem mute {e : Event} (hd : Lineup h ws sent held) (he : e.mute = true) :
    Lineup (h ++ [e]) ws sent held := by
  have submitted : submittedUnder .request (h ++ [e]) = submittedUnder .request h := by
    rw [submittedUnder_concat, Event.submits_of_mute he, List.append_nil]
  have handed : handedUnder .request (h ++ [e]) = handedUnder .request h := by
    rw [handedUnder_concat, Event.hands_of_mute he, List.append_nil]
  have stands {i : Nat} : Stands (h ++ [e]) i ↔ Stands h i :=
    Stands.concat_iff (Event.replaces_of_mute he)
  constructor
  · exact hd.ordered
  · rw [submitted, handed]; exact hd.sent_eq
  · rw [submitted]; exact hd.held_eq
  · intro a ha
    rcases List.prefix_concat_iff.1 ha with rfl | ha
    · rw [submitted, handed]
      exact hd.causal h List.prefix_rfl
    · exact hd.causal a ha
  · exact fun i hi => hd.standing i (stands.1 hi)
  · exact fun i hi => stands.2 (hd.last i hi)

theorem mutes (hd : Lineup h ws sent held) (hes : ∀ e ∈ es, e.mute = true) :
    Lineup (h ++ es) ws sent held := by
  induction es generalizing h with
  | nil => simpa using hd
  | cons e es ih =>
    obtain ⟨he, hes⟩ := List.forall_mem_cons.1 hes
    rw [List.append_cons]
    exact ih (hd.mute he) hes

/-- A request is set in the place of the one in the slot. -/
theorem requested {hand slot : List (Option Message)} (m : Option Message)
    (hd : Lineup h (hand ++ slot) sent held) :
    ∃ held, Lineup (h ++ [.requested m]) (hand ++ [m]) sent held := by
  have submitted : submittedUnder .request (h ++ [.requested m]) =
      submittedUnder .request h ++ [m] := submittedUnder_concat _ _ _
  have handed : handedUnder .request (h ++ [.requested m]) = handedUnder .request h := by
    rw [handedUnder_concat]
    exact List.append_nil _
  have hheld := hd.held_eq
  rw [List.map_append] at hheld
  obtain ⟨front, back, rfl, hfront, -⟩ := List.map_eq_append_iff.1 hheld
  have old (is : List Nat) (his : ∀ i ∈ is, i ∈ sent ++ (front ++ back)) :
      is.map ((submittedUnder .request (h ++ [.requested m]))[·]?) =
        is.map ((submittedUnder .request h)[·]?) := by
    refine List.map_congr_left fun i hi => ?_
    rw [submitted, List.getElem?_append_left (hd.lt_of_mem (his i hi))]
  refine ⟨front ++ [(submittedUnder .request h).length], ?_, ?_, ?_, ?_, ?_, ?_⟩
  · have kept : (sent ++ front).Pairwise (· < ·) := by
      have := hd.ordered
      rw [← List.append_assoc] at this
      exact (List.pairwise_append.1 this).1
    rw [← List.append_assoc]
    refine List.pairwise_append.2 ⟨kept, List.pairwise_singleton _ _, fun i hi j hj => ?_⟩
    obtain rfl := List.mem_singleton.1 hj
    refine hd.lt_of_mem ?_
    rw [← List.append_assoc]
    exact List.mem_append_left _ hi
  · rw [old sent fun i hi => List.mem_append_left _ hi, handed]
    exact hd.sent_eq
  · rw [List.map_append, List.map_append, old front fun i hi => by simp [hi], hfront]
    simp [submitted]
  · intro a ha i hi
    rcases List.prefix_concat_iff.1 ha with rfl | ha
    · have := hd.lt_of_mem (List.mem_append_left _ (List.mem_of_mem_take hi))
      rw [submitted, List.length_append]
      omega
    · exact hd.causal a ha i hi
  · intro i hi
    obtain rfl := Stands.concat_requested_iff.1 hi
    exact .inr List.getLast?_concat
  · intro i hi
    rw [List.getLast?_concat] at hi
    exact Stands.concat_requested_iff.2 (Option.some.inj hi).symm

/-- The request that waits first is handed over. -/
theorem handedOver {m : Option Message} {rest : List (Option Message)} (accepted : Bool)
    (hd : Lineup h (m :: rest) sent held) :
    ∃ sent held, Lineup (h ++ [.handOff .request m accepted]) rest sent held := by
  have submitted : submittedUnder .request (h ++ [.handOff .request m accepted]) =
      submittedUnder .request h := by
    rw [submittedUnder_concat]
    exact List.append_nil _
  have handed : handedUnder .request (h ++ [.handOff .request m accepted]) =
      handedUnder .request h ++ [m] := handedUnder_concat _ _ _
  have stands {i : Nat} : Stands (h ++ [.handOff .request m accepted]) i ↔ Stands h i :=
    Stands.concat_iff rfl
  cases held with
  | nil => exact absurd hd.held_eq (by simp)
  | cons i held =>
    obtain ⟨hi, hheld⟩ : (submittedUnder .request h)[i]? = some m ∧
        held.map ((submittedUnder .request h)[·]?) = rest.map some := by
      simpa using hd.held_eq
    refine ⟨sent ++ [i], held, by simpa using hd.ordered, ?_, by rwa [submitted], ?_, ?_, ?_⟩
    · rw [submitted, handed, List.map_append, List.map_append, hd.sent_eq]
      simp [hi]
    · intro a ha j hj
      rcases List.prefix_concat_iff.1 ha with rfl | ha
      · have hj := List.mem_of_mem_take hj
        rw [submitted]
        refine hd.lt_of_mem (?_ : j ∈ sent ++ i :: held)
        rw [List.append_cons]
        exact List.mem_append_left _ hj
      · -- what was handed over before is a part of the old list
        have short : (handedUnder .request a).length ≤ sent.length := by
          obtain ⟨b, rfl⟩ := ha
          rw [hd.length_sent, handedUnder_append, List.length_append]
          omega
        rw [List.take_append_of_le_length short] at hj
        exact hd.causal a ha j hj
    · intro j hj
      rcases hd.standing j (stands.1 hj) with hj | hj
      · exact .inl (List.mem_append_left _ hj)
      · cases held with
        | nil =>
          obtain rfl : i = j := by simpa using hj
          exact .inl (by simp)
        | cons k held => exact .inr (by simpa using hj)
    · intro j hj
      refine stands.2 (hd.last j ?_)
      cases held with
      | nil => cases hj
      | cons k held => simpa using hj

/-- All that wait are discarded. -/
theorem discard {e : Event} (hd : Lineup h ws sent held) (he : e.discards = true) :
    Lineup (h ++ [e]) [] sent [] := by
  have none : e.submits .request = [] ∧ e.hands .request = [] := by
    cases e <;> first | exact ⟨rfl, rfl⟩ | cases he
  have submitted : submittedUnder .request (h ++ [e]) = submittedUnder .request h := by
    rw [submittedUnder_concat, none.1, List.append_nil]
  have handed : handedUnder .request (h ++ [e]) = handedUnder .request h := by
    rw [handedUnder_concat, none.2, List.append_nil]
  constructor
  · rw [List.append_nil]
    exact (List.pairwise_append.1 hd.ordered).1
  · rw [submitted, handed]; exact hd.sent_eq
  · rfl
  · intro a ha
    rcases List.prefix_concat_iff.1 ha with rfl | ha
    · rw [submitted, handed]
      exact hd.causal h List.prefix_rfl
    · exact hd.causal a ha
  · exact fun i hi => absurd hi (Stands.not_concat he)
  · exact fun i hi => absurd hi (by simp)

/-- Of those that wait only the last one is kept. -/
theorem keepLast (hd : Lineup h ws sent held) :
    Lineup h ws.getLast?.toList sent held.getLast?.toList := by
  have hlast : held.getLast?.toList.getLast? = held.getLast? := by
    cases held.getLast? <;> rfl
  constructor
  · refine hd.ordered.sublist (List.Sublist.append_left ?_ _)
    rcases List.eq_nil_or_concat' held with rfl | ⟨front, i, rfl⟩ <;> simp
  · exact hd.sent_eq
  · have := congrArg List.getLast? hd.held_eq
    rw [List.getLast?_map, List.getLast?_map] at this
    cases hh : held.getLast? <;> cases hw : ws.getLast? <;> simp_all
  · exact hd.causal
  · rw [hlast]; exact hd.standing
  · rw [hlast]; exact hd.last

/-- Between the operations of a session only the slot holds a request. -/
theorem docket {slot : Option Message} (hl : Lineup h (slot.toList.map some) sent held) :
    Docket h slot sent where
  ordered := (List.pairwise_append.1 hl.ordered).1
  sent_eq := hl.sent_eq
  causal := hl.causal
  accounted := by
    rintro a m b rfl hb
    rcases hl.standing _ ⟨a, m, b, rfl, rfl, hb⟩ with hi | hi
    · exact .inl hi
    · have last := congrArg List.getLast? hl.held_eq
      rw [List.getLast?_map, hi, Option.map_some, getElem?_submittedUnder_requested] at last
      cases slot with
      | none => cases last
      | some m' => exact .inr (by simpa using last.symm)
  latest := by
    rintro m rfl
    have held_eq := hl.held_eq
    cases held with
    | nil => cases held_eq
    | cons i rest =>
      obtain ⟨hi, rfl⟩ : (submittedUnder .request h)[i]? = some (some m) ∧ rest = [] := by
        simpa using held_eq
      obtain ⟨a, m', b, rfl, rfl, hb⟩ := hl.last i rfl
      obtain rfl : m' = some m := by
        simpa [getElem?_submittedUnder_requested] using hi
      refine ⟨a, b, rfl, hb, fun sent => ?_⟩
      exact absurd ((List.pairwise_append.1 hl.ordered).2.2 _ sent _ (by simp)) (Nat.lt_irrefl _)

end Lineup

/-! ## The requests of a run -/

/-- As long as only messages were set as requests, there is a lineup of those that wait in the hand
of a tick and in the slot. -/
def World.Lined (hand : Hand) (w : World χ π) : Prop :=
  .requested none ∉ w.history → ∃ sent held, Lineup w.history (waiting (hand, w) .request) sent held

namespace World.Lined

variable {hand hand' : Hand} {w w' : World χ π}

/-- The requests are left alone. -/
theorem mute (hl : w.Lined hand) (added : w.Adds Event.mute w')
    (same : waiting (hand', w') .request = waiting (hand, w) .request) : w'.Lined hand' := by
  obtain ⟨es, hh, he⟩ := added
  intro present
  rw [hh, List.mem_append, not_or] at present
  obtain ⟨sent, held, lineup⟩ := hl present.1
  rw [hh, same]
  exact ⟨sent, held, lineup.mutes he⟩

/-- The requests are discarded. -/
theorem discard (hl : w.Lined hand) {e : Event} (hh : w'.history = w.history ++ [e])
    (he : e.discards = true) (none : waiting (hand', w') .request = []) : w'.Lined hand' := by
  intro present
  rw [hh, List.mem_append, not_or] at present
  obtain ⟨sent, held, lineup⟩ := hl present.1
  rw [hh, none]
  exact ⟨sent, [], lineup.discard he⟩

end World.Lined

namespace Wiring

variable {W : Wiring χ π ι} {hand hand' : Hand} {w w' : World χ π}

/-- A call sets the request slot, or it leaves it alone. -/
theorem Called.request_cases (h : Called w w') :
    w.Adds Event.mute w' ∧ w'.session.request = w.session.request ∨
    ∃ m, w'.history = w.history ++ [.requested m, .wanted] ∧ w'.session.request = m := by
  have refl : w.Adds Event.mute w := .refl w
  cases h with
  | quiet h =>
    refine .inl ⟨h.adds fun e he => ?_, congrArg (·.2.1) h.part⟩
    exact Event.mute_of_spare (Event.spare_of_passing he)
  | created interval => exact .inl ⟨refl, rfl⟩
  | cleared number _ => exact .inl ⟨refl.note rfl, rfl⟩
  | closed number _ => exact .inl ⟨refl.note rfl, rfl⟩
  | @started _ run _ h' =>
    have begun := h'.spare.adds fun _ => Event.mute_of_spare
    exact .inl ⟨((refl.note rfl).remember _).trans begun, congrArg (·.2.1) h'.spare.part⟩
  | wanted h =>
    cases h with
    | nothing => exact .inl ⟨refl.note rfl, rfl⟩
    | requested m => exact .inr ⟨m, by simp, rfl⟩
    | @submitted _ m dropped backlog _ h' =>
      subst h'
      have added := ((refl.note (e := .submitted m) rfl).remember fun s =>
        { s with backlog }).overflowing dropped rfl rfl
      refine .inl ⟨added.note rfl, ?_⟩
      rw [World.remember_session, World.note_session, World.overflowing_session]
      rfl
    | batched number batch _ _ => exact .inl ⟨(refl.note rfl).note rfl, rfl⟩

theorem Turn.lined (h : Turn (hand, w) (hand', w')) (hl : w.Lined hand) : w'.Lined hand' := by
  have refl : w.Adds Event.mute w := .refl w
  cases h with
  | spare h =>
    refine hl.mute (h.adds fun _ => Event.mute_of_spare) ?_
    rw [waiting, waiting, stored_of_work h.part]
  | called h =>
    rcases h.request_cases with ⟨added, same⟩ | ⟨m, hh, set⟩
    · refine hl.mute added ?_
      simp only [waiting, Session.stored, same]
    · intro present
      obtain ⟨old, new⟩ : .requested none ∉ w.history ∧ none ≠ m := by
        simpa [hh, not_or] using present
      obtain ⟨m, rfl⟩ := Option.ne_none_iff_exists'.1 new.symm
      obtain ⟨sent, held, lineup⟩ := hl old
      obtain ⟨held', lineup'⟩ := lineup.requested (some m)
      refine ⟨sent, held', ?_⟩
      rw [hh, waiting, Session.stored, set, List.append_cons]
      exact lineup'.mute rfl
  | @taken _ pending backlog _ =>
    refine hl.mute refl ?_
    simp [waiting, Hand.taking, Hand.empty, Session.stored]
  | gaveUp => exact hl.discard (World.history_note _ _) rfl rfl
  | discarded => exact hl.discard (World.history_note _ _) rfl rfl
  | @handed _ _ label m rest accepted h =>
    by_cases request : label = .request
    · subst request
      intro present
      rw [World.history_note, List.mem_append, not_or] at present
      obtain ⟨sent, held, lineup⟩ := hl present.1
      simp only [waiting, h, List.cons_append] at lineup
      obtain ⟨sent', held', lineup'⟩ := lineup.handedOver accepted
      refine ⟨sent', held', ?_⟩
      simp only [World.history_note, waiting, Function.update_self]
      exact lineup'
    · refine hl.mute (refl.note (by simpa [Event.mute] using request)) ?_
      simp only [waiting, Function.update_of_ne (Ne.symm request)]
      rfl
  | drained => exact hl.mute (refl.note rfl) rfl
  | @putBack _ request pending dropped backlog h =>
    intro present
    obtain ⟨es, hh, he⟩ : w.Adds Event.mute _ := (refl.remember fun s =>
      { s with request := s.request <|> request, backlog }).overflowing dropped rfl rfl
    rw [hh, List.mem_append, not_or] at present
    obtain ⟨sent, held, lineup⟩ := hl present.1
    refine ⟨sent, held.getLast?.toList, ?_⟩
    have last : (waiting (.taking request pending, w) .request).getLast?.toList =
        (w.session.request <|> request).toList.map some := by
      change (request.toList.map some ++ w.session.request.toList.map some).getLast?.toList = _
      cases request <;> cases w.session.request <;> rfl
    rw [hh, waiting, World.overflowing_session]
    have kept := lineup.keepLast.mutes he
    rwa [last] at kept

/-- In every run in which only messages are set as requests: each request is handed over at most
once, and they are handed over in the order in which they were set; one that is neither handed over
nor in the slot was replaced by a later one or discarded; and the slot never holds any other than
the one that was set last. -/
theorem requests_docketed (hW : W.CallbacksOnlyCall EnvironmentStep) {w₀ : World χ π}
    (h₀ : W.Fresh w₀) (h : W.Reaches W.EnvironmentOrNotice w₀ w)
    (present : .requested none ∉ w.history) :
    ∃ sent, Docket w.history w.session.request sent := by
  have lined : w.Lined .empty := by
    have onlyMove := hW.onlyMove fun _ _ => EnvironmentStep.passing
    refine Reaches.invariant (fun s s' => Turn.lined) onlyMove h ?_
    intro _
    rw [waiting, h₀.history, h₀.session_eq]
    exact ⟨[], [], .nil⟩
  obtain ⟨sent, held, lineup⟩ := lined present
  exact ⟨sent, Lineup.docket lineup⟩

end Wiring

namespace Rehearsal

open Wiring

/-- Five requests: the first one is discarded by a shutdown, the second one is replaced while it
waits for the link, two are sent, and the last one waits. -/
def requesting : List Cue :=
  [.call .start, .call (.setRequest (parcel 1)), .shutdown 0, .call .start,
    .call (.setRequest (parcel 2)), .tick, .call (.setRequest (parcel 3)), welcoming 0, .tick,
    beating 0, .tick, .call (.setRequest (parcel 4)), .tick, .call (.setRequest (parcel 5))]

theorem requests_docketed_requesting : ∃ w : World (Wired Loopback) (Option PortSupply),
    (echoing modest).Reaches (echoing modest).EnvironmentOrNotice (opening modest) w ∧
    .requested none ∉ w.history ∧
    submittedUnder .request w.history = [1, 2, 3, 4, 5].map (some ∘ parcel) ∧
    handedUnder .request w.history = [3, 4].map (some ∘ parcel) ∧
    w.session.request = some (parcel 5) ∧ ∃ sent, Docket w.history w.session.request sent := by
  have played : ((echoing modest).play requesting (opening modest)).map (fun w =>
      (submittedUnder .request w.history, handedUnder .request w.history, w.session.request)) =
      some ([1, 2, 3, 4, 5].map (some ∘ parcel), [3, 4].map (some ∘ parcel), some (parcel 5)) := by
    decide +kernel
  obtain ⟨w, hw, facts⟩ := Option.map_eq_some_iff.1 played
  simp only [Prod.mk.injEq] at facts
  obtain ⟨submitted, handed, slot⟩ := facts
  have run := environmentOrNotice_of_play hw
  have present : .requested none ∉ w.history := fun mem => by
    have : none ∈ submittedUnder .request w.history :=
      List.mem_flatMap.2 ⟨.requested none, mem, List.mem_singleton_self _⟩
    simp [submitted] at this
  exact ⟨w, run, present, submitted, handed, slot,
    requests_docketed (echoing_onlyCall _ _) modest_fresh run present⟩

end Rehearsal

end Teleop
