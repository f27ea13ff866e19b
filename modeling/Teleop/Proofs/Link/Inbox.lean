import Teleop.Proofs.Link.Custody

/-!
# What came in on a link

A datagram that is delivered on a link waits in the inbox until an update handles it.

* `Turn.delivers?` and `Turn.consumes` say which datagrams of a link a turn brings and handles;
* `Reached.received_sublist` and `Reached.receivedOn_eq`: what was received on a link was delivered
  there, and it was handled, in its order, or is still in the inbox;
* `Channel.Consumed` is the form of an invariant about the datagrams that were handled.
-/

namespace Teleop

namespace Turn

/-- The datagram that arrives at the socket of a link from its remote address, as far as it is
read. -/
def delivers? (link : Nat) (t : Turn) : Option Bytes :=
  match t.deed with
  | .arrive (.datagram id sender bytes) =>
    match t.before.link? id with
    | some l =>
      if id = link ∧ sender.same l.remote then
        some (bytes.take t.before.config.readBufferSize.toNat)
      else none
    | none => none
  | _ => none

/-- The datagrams of a link that an update handles. -/
def consumes (link : Nat) (t : Turn) : List Bytes :=
  match t.deed with
  | .update .. => ofLink link t.before.inbox
  | _ => []

end Turn

namespace Channel

variable {c c' : Channel} {h es : List LinkEvent} {d : Deed} {e : Effect}

theorem Works.receivedOn_eq (hs : c.Works es c') (link : Nat) : receivedOn link es = [] := by
  refine hs.invariant (P := fun h _ => receivedOn link h = []) (h := []) ?_ rfl
  intro h c es c' hw hr
  have none : receivedOn link es = [] := by
    cases hw with
    | welcomed | told | ended => exact receivedOn_raisedIf ..
    | _ => rfl
  rw [receivedOn_append, hr, none]
  rfl

/-- What a channel takes in on a link was delivered there. -/
theorem Done.received_sublist (h : c.Done d e) (link : Nat) :
    (receivedOn link e.events).Sublist (Turn.delivers? link ⟨c, d, e⟩).toList := by
  cases h with
  | connected h hl hr hq => rcases hq with rfl | ⟨rfl, -⟩ <;> exact List.nil_sublist _
  | closed =>
    rw [receivedOn, filterMap_closed fun _ => rfl]
    exact List.nil_sublist _
  | @received k l sender bytes hl same =>
    rw [receivedOn_received, Turn.delivers?]
    by_cases h : k = link
    · subst h
      simp [hl, same]
    · simp [h]
  | updated worked =>
    rw [worked.works.receivedOn_eq link]
    exact List.nil_sublist _
  | _ => exact List.nil_sublist _

/-- What waited and what a turn takes in is what it handles and what waits then. -/
theorem Done.consumes_eq (hd : c.Done d e) (link : Nat) :
    ofLink link c.inbox ++ receivedOn link e.events =
      Turn.consumes link ⟨c, d, e⟩ ++ ofLink link e.channel.inbox := by
  cases hd with
  | connected h hl hr hq => rcases hq with rfl | ⟨rfl, -⟩ <;> exact List.append_nil _
  | closed =>
    rw [receivedOn, filterMap_closed fun _ => rfl]
    exact List.append_nil _
  | received hl same =>
    rw [receivedOn_received, ofLink_append, ofLink_cons, ofLink_nil]
    rfl
  | updated worked => rw [worked.works.receivedOn_eq link, worked.inbox, Turn.consumes, ofLink_nil]
  | _ => exact List.append_nil _

/-- What came in on each link is what was handled, of which `Q` holds, and what is in the inbox. -/
def Consumed (Q : Nat → List Bytes → Prop) (history : List LinkEvent) (c : Channel) : Prop :=
  ∀ link, ∃ handled, receivedOn link history = handled ++ ofLink link c.inbox ∧ Q link handled

namespace Consumed

variable {Q Q' : Nat → List Bytes → Prop}

/-- Nothing comes in, and nothing is handled. -/
theorem keep (hc : c.Consumed Q h) (received : ∀ link, receivedOn link es = [])
    (inbox : c'.inbox = c.inbox)
    (hQ : ∀ link handled, receivedOn link h = handled ++ ofLink link c.inbox → Q link handled →
      Q' link handled) : c'.Consumed Q' (h ++ es) := by
  intro link
  obtain ⟨handled, hr, hq⟩ := hc link
  refine ⟨handled, ?_, hQ link handled hr hq⟩
  rw [receivedOn_append, received, List.append_nil, hr, inbox]

/-- The first datagram of the inbox is handled. -/
theorem take {item : Nat × Bytes} {rest : List (Nat × Bytes)} (hc : c.Consumed Q h)
    (hin : c.inbox = item :: rest) (received : ∀ link, receivedOn link es = [])
    (inbox : c'.inbox = rest)
    (hQ : ∀ link handled, Q link handled → Q' link (handled ++ ofLink link [item])) :
    c'.Consumed Q' (h ++ es) := by
  intro link
  obtain ⟨handled, hr, hq⟩ := hc link
  refine ⟨handled ++ ofLink link [item], ?_, hQ link handled hq⟩
  rw [receivedOn_append, received, List.append_nil, hr, hin, inbox, List.append_assoc,
    ← ofLink_append]
  rfl

/-- A datagram comes in. -/
theorem receive {link : Nat} {datagram : Bytes} (hc : c.Consumed Q h)
    (inbox : c'.inbox = c.inbox ++ [(link, datagram)])
    (hQ : ∀ link handled, Q link handled → Q' link handled) :
    c'.Consumed Q' (h ++ [.received link datagram]) := by
  intro other
  obtain ⟨handled, hr, hq⟩ := hc other
  refine ⟨handled, ?_, hQ other handled hq⟩
  rw [receivedOn_append, hr, receivedOn_received, List.append_assoc, inbox, ofLink_append,
    ofLink_cons, ofLink_nil]

end Consumed

end Channel

namespace Reached

variable {config : ChannelConfig} {handlers : Handlers} {s : Course}

theorem received_sublist (h : Reached config handlers s) (link : Nat) :
    (receivedOn link s.history).Sublist (s.turns.filterMap (Turn.delivers? link)) := by
  induction h with
  | start => exact List.nil_sublist _
  | step hr hs ih =>
    obtain ⟨e, done, rfl⟩ := hr.done hs
    rw [Course.history_concat, receivedOn_append, List.filterMap_append]
    refine ih.append ((done.received_sublist link).trans ?_)
    cases h : Turn.delivers? link ⟨_, _, e⟩ <;> simp [h]

theorem receivedOn_eq (h : Reached config handlers s) (link : Nat) :
    receivedOn link s.history =
      s.turns.flatMap (Turn.consumes link) ++ ofLink link s.channel.inbox := by
  induction h with
  | start => rfl
  | step hr hs ih =>
    obtain ⟨e, done, rfl⟩ := hr.done hs
    rw [Course.history_concat, receivedOn_append, show receivedOn link _ = _ from ih,
      List.append_assoc, done.consumes_eq]
    simp

end Reached

end Teleop
