import Teleop.Link.Channel

/-!
# The history of links

Views of the events on links: which links were opened and closed, and what was accepted, written,
received and raised on each of them.
-/

namespace Teleop

/-- The event on a link, unless it is a log entry. -/
@[simp] def ChannelEvent.link? : ChannelEvent → Option LinkEvent
  | .link e => some e
  | .logged _ => none

/-- The events on links among those that a channel reports. -/
def linkEvents (es : List ChannelEvent) : List LinkEvent :=
  es.filterMap ChannelEvent.link?

@[simp] theorem linkEvents_nil : linkEvents [] = [] := rfl

@[simp] theorem linkEvents_link (e : LinkEvent) (es : List ChannelEvent) :
    linkEvents (.link e :: es) = e :: linkEvents es := rfl

@[simp] theorem linkEvents_logged (entry : Log.Entry) (es : List ChannelEvent) :
    linkEvents (.logged entry :: es) = linkEvents es := rfl

@[simp] theorem linkEvents_append (es es' : List ChannelEvent) :
    linkEvents (es ++ es') = linkEvents es ++ linkEvents es' :=
  List.filterMap_append

@[simp] theorem linkEvents_map (fs : List Bytes) (f : Bytes → LinkEvent) :
    linkEvents (fs.map fun x => .link (f x)) = fs.map f := by
  induction fs with
  | nil => rfl
  | cons x fs ih => rw [List.map_cons, linkEvents_link, ih, List.map_cons]

namespace LinkEvent

/-- The link that an event is on. -/
@[simp] def about : LinkEvent → Nat
  | .opened link .. | .accepted link _ | .written link _ | .received link _ | .raised link _
  | .closed link => link

@[simp] def opens? : LinkEvent → Option Nat
  | .opened link .. => some link
  | _ => none

@[simp] def closes? : LinkEvent → Option Nat
  | .closed link => some link
  | _ => none

@[simp] def accepts? : LinkEvent → Option (Nat × Bytes)
  | .accepted link frame => some (link, frame)
  | _ => none

@[simp] def writes? : LinkEvent → Option (Nat × Bytes)
  | .written link frame => some (link, frame)
  | _ => none

@[simp] def receives? : LinkEvent → Option (Nat × Bytes)
  | .received link datagram => some (link, datagram)
  | _ => none

@[simp] def raises? : LinkEvent → Option (Nat × Notice)
  | .raised link notice => some (link, notice)
  | _ => none

end LinkEvent

/-- The items of a list that belong to one link. -/
def ofLink {α : Type} (link : Nat) (items : List (Nat × α)) : List α :=
  items.filterMap fun item => if item.1 = link then some item.2 else none

section OfLink

variable {α : Type} (link : Nat)

@[simp] theorem ofLink_nil : ofLink link ([] : List (Nat × α)) = [] := rfl

@[simp] theorem ofLink_cons (item : Nat × α) (items : List (Nat × α)) :
    ofLink link (item :: items) =
      if item.1 = link then item.2 :: ofLink link items else ofLink link items := by
  by_cases h : item.1 = link <;> simp [ofLink, h]

@[simp] theorem ofLink_append (items items' : List (Nat × α)) :
    ofLink link (items ++ items') = ofLink link items ++ ofLink link items' :=
  List.filterMap_append

theorem mem_ofLink {link : Nat} {x : α} {items : List (Nat × α)} :
    x ∈ ofLink link items ↔ (link, x) ∈ items := by
  constructor
  · intro h
    obtain ⟨item, mem, same⟩ := List.mem_filterMap.1 h
    obtain ⟨rfl, rfl⟩ : item.1 = link ∧ item.2 = x := by simpa using same
    exact mem
  · intro h
    exact List.mem_filterMap.2 ⟨(link, x), h, if_pos rfl⟩

end OfLink

section Views

variable (link : Nat) (history : List LinkEvent)

/-- The links that were opened. -/
abbrev openedIn : List Nat :=
  history.filterMap LinkEvent.opens?

/-- The links that were closed. -/
abbrev closedIn : List Nat :=
  history.filterMap LinkEvent.closes?

/-- The notices that were raised, each with its link. -/
abbrev raisedIn : List (Nat × Notice) :=
  history.filterMap LinkEvent.raises?

/-- The frames that were accepted on a link. -/
abbrev acceptedOn : List Bytes :=
  ofLink link (history.filterMap LinkEvent.accepts?)

/-- The frames that were written on a link. -/
abbrev writtenOn : List Bytes :=
  ofLink link (history.filterMap LinkEvent.writes?)

/-- The datagrams that came in on a link. -/
abbrev receivedOn : List Bytes :=
  ofLink link (history.filterMap LinkEvent.receives?)

/-- The notices that were raised about a link. -/
abbrev raisedOn : List Notice :=
  ofLink link (raisedIn history)

variable (more : List LinkEvent)

theorem openedIn_append : openedIn (history ++ more) = openedIn history ++ openedIn more :=
  List.filterMap_append

theorem closedIn_append : closedIn (history ++ more) = closedIn history ++ closedIn more :=
  List.filterMap_append

theorem raisedIn_append : raisedIn (history ++ more) = raisedIn history ++ raisedIn more :=
  List.filterMap_append

theorem acceptedOn_append :
    acceptedOn link (history ++ more) = acceptedOn link history ++ acceptedOn link more := by
  rw [acceptedOn, List.filterMap_append, ofLink_append]

theorem writtenOn_append :
    writtenOn link (history ++ more) = writtenOn link history ++ writtenOn link more := by
  rw [writtenOn, List.filterMap_append, ofLink_append]

theorem receivedOn_append :
    receivedOn link (history ++ more) = receivedOn link history ++ receivedOn link more := by
  rw [receivedOn, List.filterMap_append, ofLink_append]

theorem raisedOn_append :
    raisedOn link (history ++ more) = raisedOn link history ++ raisedOn link more := by
  rw [raisedOn, raisedIn_append, ofLink_append]

/-- There is nothing in the history of a link that no event is on. -/
theorem ofLink_filterMap_eq_nil {α : Type} {f : LinkEvent → Option (Nat × α)}
    (hf : ∀ e item, f e = some item → e.about = item.1) {link : Nat} {history : List LinkEvent}
    (h : ∀ e ∈ history, e.about ≠ link) : ofLink link (history.filterMap f) = [] := by
  refine List.eq_nil_iff_forall_not_mem.2 fun x mem => ?_
  obtain ⟨e, he, hx⟩ := List.mem_filterMap.1 (mem_ofLink.1 mem)
  exact h e he (hf e _ hx)

variable (other : Nat) (bytes : Bytes)

@[simp] theorem acceptedOn_accepted :
    acceptedOn link [.accepted other bytes] = if other = link then [bytes] else [] :=
  ofLink_cons link (other, bytes) []

@[simp] theorem writtenOn_written :
    writtenOn link [.written other bytes] = if other = link then [bytes] else [] :=
  ofLink_cons link (other, bytes) []

@[simp] theorem receivedOn_received :
    receivedOn link [.received other bytes] = if other = link then [bytes] else [] :=
  ofLink_cons link (other, bytes) []

end Views

/-- The event of a notice, if there is a handler for it. -/
def LinkEvent.raisedIf (handled : Bool) (link : Nat) (n : Notice) : List LinkEvent :=
  if handled then [.raised link n] else []

theorem LinkEvent.raisedIf_of_handled {handled : Bool} {link : Nat} {n : Notice}
    (h : handled = true) : raisedIf handled link n = [.raised link n] :=
  if_pos h

section RaisedIf

variable (handled : Bool) (link : Nat) (n : Notice)

@[simp] theorem openedIn_raisedIf : openedIn (LinkEvent.raisedIf handled link n) = [] := by
  cases handled <;> rfl

@[simp] theorem closedIn_raisedIf : closedIn (LinkEvent.raisedIf handled link n) = [] := by
  cases handled <;> rfl

variable (other : Nat)

@[simp] theorem acceptedOn_raisedIf :
    acceptedOn other (LinkEvent.raisedIf handled link n) = [] := by
  cases handled <;> rfl

@[simp] theorem writtenOn_raisedIf :
    writtenOn other (LinkEvent.raisedIf handled link n) = [] := by
  cases handled <;> rfl

@[simp] theorem receivedOn_raisedIf :
    receivedOn other (LinkEvent.raisedIf handled link n) = [] := by
  cases handled <;> rfl

theorem raisedOn_raisedIf_self {handled : Bool} (h : handled = true) :
    raisedOn link (LinkEvent.raisedIf handled link n) = [n] := by
  rw [LinkEvent.raisedIf_of_handled h]
  exact (ofLink_cons link (link, n) []).trans (if_pos rfl)

theorem raisedOn_raisedIf_of_ne {other : Nat} (h : link ≠ other) :
    raisedOn other (LinkEvent.raisedIf handled link n) = [] := by
  cases handled with
  | false => rfl
  | true => simp [LinkEvent.raisedIf, raisedOn, h]

end RaisedIf

end Teleop
