import Teleop.Proofs.Link.History

/-!
# Writing what waits

A flush writes the queues of links one after the other. Its writes are numbered, and any of them may
fail.

* `Flushed`: of one queue, the frames before the first write that fails are written, and the others
  are left;
* `Flush`: the same for the queues of all links, where the writes of a link follow those of the
  links before it.
-/

namespace Teleop

/-! ## One queue -/

/-- Of a queue, the frames before the first write that fails are written, in their order and by the
writes from number `n` on; the frame of that write is left with those behind it. -/
structure Flushed (write : Nat → Bytes → Option Text) (n : Nat) (queue written left : List Bytes) :
    Prop where
  parts : queue = written ++ left
  succeeded : ∀ i frame, written[i]? = some frame → write (n + i) frame = none
  failed : ∀ frame, left.head? = some frame → write (n + written.length) frame ≠ none

/-- The frames that a flush tried to write: those that were written, and the first that is left. -/
def attempted (written left : List Bytes) : List Bytes :=
  written ++ left.take 1

namespace Flushed

variable {write : Nat → Bytes → Option Text} {n : Nat} {frame : Bytes}
  {queue rest written left : List Bytes}

theorem nil : Flushed write n [] [] [] :=
  ⟨rfl, nofun, nofun⟩

theorem stop (h : write n frame ≠ none) : Flushed write n (frame :: rest) [] (frame :: rest) where
  parts := rfl
  succeeded := nofun
  failed := by
    rintro _ ⟨⟩
    exact h

theorem cons (h : write n frame = none) (later : Flushed write (n + 1) rest written left) :
    Flushed write n (frame :: rest) (frame :: written) left where
  parts := congrArg (frame :: ·) later.parts
  succeeded i f found := by
    cases i with
    | zero =>
      cases found
      exact h
    | succ i =>
      have next := later.succeeded i f found
      rwa [Nat.add_assoc, Nat.add_comm 1 i] at next
  failed f first := by
    have next := later.failed f first
    rwa [Nat.add_assoc, Nat.add_comm 1] at next

/-- Nothing is left if no write fails. -/
theorem left_eq_nil (h : Flushed write n queue written left)
    (ok : ∀ n frame, write n frame = none) : left = [] :=
  List.head?_eq_none_iff.1 (Option.eq_none_iff_forall_ne_some.2 fun frame first =>
    h.failed frame first (ok _ frame))

end Flushed

theorem Channel.Round.flushed_writeFrames (write : Nat → Address → Bytes → Option Text)
    (remote : Address) (tried : Nat) (frames : List Bytes) :
    Flushed (fun n => write n remote) tried frames (writeFrames write remote tried frames).written
      (writeFrames write remote tried frames).left ∧
    (writeFrames write remote tried frames).tried = tried +
      (attempted (writeFrames write remote tried frames).written
        (writeFrames write remote tried frames).left).length := by
  induction frames generalizing tried with
  | nil => exact ⟨.nil, rfl⟩
  | cons frame rest ih =>
    unfold writeFrames
    split
    · next reason fails => exact ⟨.stop (by simp [fails]), rfl⟩
    · next succeeds =>
      obtain ⟨flushed, count⟩ := ih (tried + 1)
      refine ⟨.cons succeeds flushed, count.trans ?_⟩
      simp only [attempted, List.cons_append, List.length_cons]
      omega

/-! ## All queues -/

/-- The frames that wait on the link with this number, if it is among the links. -/
def waitingOn (link : Nat) (links : List Link) : List Bytes :=
  links.flatMap fun l => if l.id = link then l.outbound else []

theorem waitingOn_append (link : Nat) (ls ls' : List Link) :
    waitingOn link (ls ++ ls') = waitingOn link ls ++ waitingOn link ls' :=
  List.flatMap_append

theorem waitingOn_eq_nil {link : Nat} {links : List Link} (h : ∀ l ∈ links, l.id ≠ link) :
    waitingOn link links = [] :=
  List.flatMap_eq_nil_iff.2 fun l hl => if_neg (h l hl)

theorem writtenOn_map (link other : Nat) (frames : List Bytes) :
    writtenOn link (frames.map (.written other)) = if other = link then frames else [] := by
  induction frames with
  | nil => exact (ite_self _).symm
  | cons frame frames ih =>
    rw [List.map_cons, ← List.singleton_append, writtenOn_append, writtenOn_written, ih]
    split <;> rfl

/-- What becomes of a link whose queue was flushed, and the events of that: it stays with what is
left, or nothing is left and it is closed. -/
inductive Fate (l : Link) : List Bytes → List Link → List LinkEvent → Prop
  | stays (left : List Bytes) : Fate l left [{ l with outbound := left }] []
  | closed : Fate l [] [] [.closed l.id]

namespace Fate

variable {l : Link} {written left : List Bytes} {stays ls : List Link}
  {closes es : List LinkEvent}

theorem id_eq (h : Fate l left stays closes) : ∀ l' ∈ stays, l'.id = l.id := by
  cases h with
  | stays => exact List.forall_mem_singleton.2 rfl
  | closed => exact fun _ mem => absurd mem List.not_mem_nil

theorem about_eq (h : Fate l left stays closes) :
    ∀ e ∈ closes, e.accepts? = none ∧ e.about = l.id := by
  cases h with
  | stays => exact fun _ mem => absurd mem List.not_mem_nil
  | closed => exact List.forall_mem_singleton.2 ⟨rfl, rfl⟩

theorem writtenOn_eq (h : Fate l left stays closes) (link : Nat) :
    writtenOn link (written.map (.written l.id) ++ (closes ++ es)) =
      (if l.id = link then written else []) ++ writtenOn link es := by
  have silent : writtenOn link closes = [] := by cases h <;> rfl
  rw [writtenOn_append, writtenOn_append, writtenOn_map, silent, List.nil_append]

theorem waitingOn_eq (h : Fate l left stays closes) (link : Nat) :
    waitingOn link (stays ++ ls) = (if l.id = link then left else []) ++ waitingOn link ls := by
  rw [waitingOn_append]
  congr 1
  cases h with
  | stays => exact List.flatMap_singleton ..
  | closed => exact (ite_self _).symm

end Fate

/-- A flush wrote the queues of links, with events `es`, and `links'` is what became of them; its
first write has number `n`. -/
structure Flush (write : Nat → Address → Bytes → Option Text) (n : Nat) (links : List Link)
    (es : List LinkEvent) (links' : List Link) : Prop where
  about : ∀ e ∈ es, e.accepts? = none ∧ ∃ l ∈ links, l.id = e.about
  kept : ∀ l' ∈ links', ∃ l ∈ links, l.id = l'.id
  sent : (links.map (·.id)).Nodup → ∀ before l after, links = before ++ l :: after →
    Flushed (fun n => write n l.remote)
      (n + (before.flatMap fun l => attempted (writtenOn l.id es) (waitingOn l.id links')).length)
      l.outbound (writtenOn l.id es) (waitingOn l.id links')

namespace Flush

variable {write : Nat → Address → Bytes → Option Text} {n : Nat} {links links' ls ls' : List Link}
  {es : List LinkEvent} {l : Link}

theorem nil : Flush write n [] [] [] where
  about := nofun
  kept := nofun
  sent _ before l after h := by simp at h

theorem acceptedOn_eq_nil (h : Flush write n links es links') (link : Nat) :
    acceptedOn link es = [] := by
  have none : es.filterMap LinkEvent.accepts? = [] :=
    List.filterMap_eq_nil_iff.2 fun e he => (h.about e he).1
  rw [acceptedOn, none]
  rfl

/-- Nothing is written on another link, and nothing is left there. -/
theorem of_ne (h : Flush write n links es links') {link : Nat} (other : ∀ l ∈ links, l.id ≠ link) :
    writtenOn link es = [] ∧ waitingOn link links' = [] := by
  constructor
  · refine ofLink_filterMap_eq_nil (fun e item hf => ?_) fun e he => ?_
    · cases e <;> cases hf
      rfl
    · obtain ⟨l, hl, same⟩ := (h.about e he).2
      exact same ▸ other l hl
  · refine waitingOn_eq_nil fun l' hl' => ?_
    obtain ⟨l, hl, same⟩ := h.kept l' hl'
    exact same ▸ other l hl

/-- A link is flushed before the others. -/
theorem cons {written left : List Bytes} {stays : List Link} {closes : List LinkEvent}
    (first : Flushed (fun n => write n l.remote) n l.outbound written left)
    (fate : Fate l left stays closes)
    (later : Flush write (n + (attempted written left).length) ls es ls') :
    Flush write n (l :: ls) (written.map (.written l.id) ++ (closes ++ es)) (stays ++ ls') := by
  refine ⟨fun e he => ?_, fun l' hl' => ?_, fun nodup before l' after split => ?_⟩
  · rcases List.mem_append.1 he with he | he
    · obtain ⟨frame, -, rfl⟩ := List.mem_map.1 he
      exact ⟨rfl, l, List.mem_cons_self, rfl⟩
    rcases List.mem_append.1 he with he | he
    · exact ⟨(fate.about_eq e he).1, l, List.mem_cons_self, (fate.about_eq e he).2.symm⟩
    · obtain ⟨unaccepted, l', hl', same⟩ := later.about e he
      exact ⟨unaccepted, l', List.mem_cons_of_mem _ hl', same⟩
  · rcases List.mem_append.1 hl' with hl' | hl'
    · exact ⟨l, List.mem_cons_self, (fate.id_eq l' hl').symm⟩
    · obtain ⟨l₀, hl₀, same⟩ := later.kept l' hl'
      exact ⟨l₀, List.mem_cons_of_mem _ hl₀, same⟩
  -- The events and the links of the flush are those of this link for its number, and those of the
  -- later links for all other numbers.
  · obtain ⟨fresh, nodup⟩ := List.nodup_cons.1 nodup
    have others : ∀ l' ∈ ls, l.id ≠ l'.id := fun l' hl' same =>
      fresh (List.mem_map.2 ⟨l', hl', same.symm⟩)
    obtain ⟨unwritten, gone⟩ := later.of_ne fun l' hl' => (others l' hl').symm
    simp only [fate.writtenOn_eq, fate.waitingOn_eq]
    cases before with
    | nil =>
      cases split
      simpa [unwritten, gone] using first
    | cons l₀ before =>
      obtain ⟨rfl, rfl⟩ := List.cons.inj split
      have sent := later.sent nodup before l' after rfl
      have same : (before.flatMap fun l' =>
          attempted ((if l.id = l'.id then written else []) ++ writtenOn l'.id es)
            ((if l.id = l'.id then left else []) ++ waitingOn l'.id ls')) =
          before.flatMap fun l' => attempted (writtenOn l'.id es) (waitingOn l'.id ls') := by
        rw [List.flatMap_def, List.flatMap_def]
        refine congrArg _ (List.map_congr_left fun l₁ hl₁ => ?_)
        have other := others l₁ (List.mem_append_left _ hl₁)
        rw [if_neg other, if_neg other, List.nil_append, List.nil_append]
      have other := others l' (List.mem_append_right _ List.mem_cons_self)
      rw [List.flatMap_cons, List.length_append, same, ← Nat.add_assoc, unwritten, gone]
      simpa [other] using sent

end Flush

end Teleop
