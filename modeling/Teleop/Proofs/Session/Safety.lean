import Teleop.Proofs.Link.Course
import Teleop.Proofs.Message.Parts
import Teleop.Proofs.Session.CoupledRuns
import Teleop.Proofs.Session.Waiting

/-!
# Nothing breaks off

A session over a datagram channel never runs into a fault, as long as its owner and its subscribers
hand in messages where messages are wanted and name only queues that there are, and readers can make
their buffers. What could break off is guarded far from where it would: the backlog has room because
the configuration was checked, its slots are filled because the owner filled them, the channel has a
current link whenever its phase says so, and it has a handler for every notice. Only the size of a
read buffer is checked nowhere.

* `Secure` gathers these guards;
* `Maintains Secure x` says of an operation that it goes through and leaves the guards in place;
* `Call.Apt` and `SubscribersCallAptly` say what is expected of the owner and of subscribers;
* `nothing_breaks_off`: no run meets a fault, and no reading reaches outside of a datagram;
* `Rehearsal.bloated_breaks_off`: the run of a session whose read buffers are too large does.
-/

namespace Teleop

open Relation

variable {ν π ι : Type}

/-! ## Parts of a session -/

theorem SessionConfig.maxPending_pos {c : SessionConfig} (h : c.validate = .ok ()) :
    0 < c.maxPending := by
  unfold validate at h
  iterate 6
    split at h
    · cases h
  split at h
  · cases h
  · next room => exact Int.not_le.1 room

/-- There is room for a message, and every slot holds one. -/
structure Backlog.Whole (b : Backlog) : Prop where
  room : 0 < b.limit
  filled : none ∉ b.items

namespace Backlog.Whole

variable {b : Backlog}

theorem clear (h : b.Whole) : b.clear.Whole :=
  ⟨h.room, List.not_mem_nil⟩

theorem push (h : b.Whole) (m : Message) :
    ∃ dropped b', b.push (some m) = .ok (dropped, b') ∧ b'.Whole := by
  refine ⟨_, _, push_of_pos h.room _, h.room, ?_⟩
  intro mem
  rcases List.mem_append.1 mem with mem | mem
  · exact h.filled (List.mem_of_mem_drop mem)
  · cases List.mem_singleton.1 mem

theorem drain (h : b.Whole) : ∃ messages, b.drain = .ok (messages, b.clear) := by
  have taken : ∃ messages, b.items.mapM id = some messages := by
    have filled := h.filled
    generalize b.items = items at filled
    induction items with
    | nil => exact ⟨[], rfl⟩
    | cons m rest ih =>
      obtain ⟨messages, hm⟩ := ih fun mem => filled (List.mem_cons_of_mem _ mem)
      cases m with
      | none => exact absurd List.mem_cons_self filled
      | some m => exact ⟨m :: messages, by simp [List.mapM_cons, hm]⟩
  obtain ⟨messages, hm⟩ := taken
  exact ⟨messages, by rw [Backlog.drain, hm]; rfl⟩

theorem restore (h : b.Whole) (messages : List Message) :
    ∃ dropped b', b.restore (messages.map some) = .ok (dropped, b') ∧ b'.Whole := by
  unfold Backlog.restore
  split
  · exact ⟨0, b, rfl, h⟩
  · obtain ⟨later, drained⟩ := h.drain
    have room : ¬b.clear.limit < 0 := Int.not_lt.2 (Int.le_of_lt h.room)
    rw [drained]
    simp only [bind, Except.bind, if_neg room]
    refine ⟨_, _, rfl, h.room, fun mem => ?_⟩
    simpa using List.mem_of_mem_drop mem

end Backlog.Whole

/-- Every slot of the batch that waits holds a message. -/
def Queue.Whole (q : Queue) : Prop :=
  none ∉ q.pending

theorem forall_mem_modify {α : Type} {P : α → Prop} {f : α → α} (hf : ∀ a, P a → P (f a))
    {l : List α} (h : ∀ a ∈ l, P a) (i : Nat) : ∀ a ∈ l.modify i f, P a := by
  induction l generalizing i with
  | nil => simp
  | cons a l ih =>
    obtain ⟨ha, hl⟩ := List.forall_mem_cons.1 h
    cases i with
    | zero => exact List.forall_mem_cons.2 ⟨hf a ha, hl⟩
    | succ i => exact List.forall_mem_cons.2 ⟨ha, ih hl i⟩

theorem Queue.Whole.put {q : Queue} (h : q.Whole) {batch : List (Option Message)}
    (hb : none ∉ batch) : (q.put batch).Whole := by
  unfold Queue.put
  split
  · exact h
  · exact hb

theorem takeAll_whole {queues : List Queue} (h : ∀ q ∈ queues, q.Whole) (now : Instant) :
    none ∉ (Queue.takeAll now queues).1 ∧ ∀ q ∈ (Queue.takeAll now queues).2, q.Whole := by
  have whole : none ∉ queues.flatMap Queue.pending := by
    intro mem
    obtain ⟨q, hq, mem⟩ := List.mem_flatMap.1 mem
    exact h q hq mem
  rw [← (takeAll_perm now queues).mem_iff, List.mem_append, not_or] at whole
  exact ⟨whole.1, fun q hq mem => whole.2 (List.mem_flatMap.2 ⟨q, hq, mem⟩)⟩

/-! ## The channel -/

namespace Channel

/-- The channel is sound, every datagram that waits has a first byte, and readers can make their
buffers. -/
structure Steady (c : Channel) : Prop where
  sound : c.Sound
  filled : ∀ i ∈ c.inbox, i.2 ≠ []
  readable : c.config.readBufferSize ≤ readBufferLimit

variable {c c' : Channel}

theorem steady_new {config : ChannelConfig}
    (readable : config.effective.readBufferSize ≤ readBufferLimit) : (new config).Steady :=
  ⟨sound_new config, by simp [new], readable⟩

theorem Steady.of_inbox (h : c.Steady) (sound : c'.Sound) (inbox : c'.inbox = c.inbox)
    (config : c'.config = c.config) : c'.Steady :=
  ⟨sound, fun i hi => h.filled i (inbox ▸ hi), config ▸ h.readable⟩

theorem Steady.readerFault? (h : c.Steady) : c.readerFault? = none :=
  if_neg (Int.not_lt.2 h.readable)

theorem config_arrive (c : Channel) (a : Arrival) : (c.arrive a).1.config = c.config := by
  cases a with
  | failure link reason => rfl
  | datagram link sender bytes =>
    dsimp only [Channel.arrive]
    rcases c.receive_cases link sender bytes with ⟨same, -⟩ | ⟨l, -, -, taken⟩
    · rw [same]
    · rw [taken]

/-- An empty datagram is not taken in. -/
theorem Steady.arrive (h : c.Steady) (a : Arrival) : (c.arrive a).1.Steady := by
  refine ⟨(arrive_eq h.sound a).1.sound, ?_, c.config_arrive a ▸ h.readable⟩
  cases a with
  | failure link reason => exact h.filled
  | datagram link sender bytes =>
    dsimp only [Channel.arrive]
    unfold receive
    split
    · exact h.filled
    · dsimp only
      split
      · exact h.filled
      · next taken =>
        split
        · exact h.filled
        · have nonempty : bytes.take c.config.readBufferSize.toNat ≠ [] := by
            simp only [Bool.or_eq_true, not_or] at taken
            simpa using taken.1.2
          exact List.forall_mem_append.2 ⟨h.filled, by simpa using nonempty⟩

theorem Steady.arriveAll (h : c.Steady) (as : List Arrival) : (c.arriveAll as).1.Steady := by
  induction as generalizing c with
  | nil => exact h
  | cons a rest ih => exact ih (h.arrive a)

theorem Steady.send (h : c.Steady) (m : Message) : (c.send m).channel.Steady := by
  rcases c.send_cases m with ⟨e, refused⟩ | ⟨l, payload, -, -, -, -, sent⟩
  · rw [refused]
    exact h
  · have accepted : (c.send m).error = none := congrArg Called.error sent
    refine h.of_inbox (send_accepted h.sound accepted).1.sound ?_ ?_ <;> rw [sent]

/-- A call to connect starts only readers that can make their buffers. -/
theorem Steady.connect (h : c.Steady) (names : List (Text × Bytes)) (bound : Option Text)
    (times : Times) (nonce : Uuid) (d : Dial) :
    (c.connect names bound times nonce d).fault = none ∧
      (c.connect names bound times nonce d).channel.Steady := by
  rcases c.connect_cases names bound times nonce d with ⟨e, refused⟩ | ⟨-, remote, -, opened⟩
  · rw [refused]
    exact ⟨rfl, h⟩
  · rw [opened]
    exact ⟨h.readerFault?, h.of_inbox (openLink_eq h.sound remote times nonce d).1.sound rfl rfl⟩

theorem Steady.disconnect (h : c.Steady) : c.disconnect.1.Steady := by
  refine h.of_inbox (disconnect_eq h.sound).1.sound ?_ ?_
  all_goals rcases c.disconnect_cases with ⟨-, hd⟩ | ⟨l, -, -, hd⟩ | ⟨l, -, -, hd⟩ <;> rw [hd]

end Channel

theorem Standing.Told.ne_message_none {s s' : Standing} {ns : List (Nat × Notice)}
    (h : s.Told ns s') : ∀ n ∈ ns, n.2 ≠ .message none := by
  induction h with
  | nil => exact fun _ mem => absurd mem List.not_mem_nil
  | cons heard _ ih =>
    refine List.forall_mem_cons.2 ⟨?_, ih⟩
    cases heard <;> exact nofun

/-- An update goes through and raises notices that there is a handler for. -/
theorem Channel.Steady.update {c : Channel} (h : c.Steady)
    (write : Nat → Address → Bytes → Option Text) (times : Times) :
    ∃ u, ∃ ns : List (Nat × Notice), c.update write times = .ok u ∧ u.channel.Steady ∧
      u.notices = ns.map some ∧ ∀ n ∈ ns, n.2 ≠ .message none := by
  obtain ⟨u, hu, worked⟩ := update_works h.sound.phase.symm write times
  obtain ⟨ns, notices, progress⟩ := update_eq_ok h.sound hu
  have readable : u.channel.config.readBufferSize ≤ readBufferLimit :=
    worked.works.config ▸ h.readable
  refine ⟨u, ns, hu, ⟨progress.moved.sound, fun i hi => ?_, readable⟩, notices,
    progress.told.ne_message_none⟩
  exact h.filled i ((progress.moved.inbox i hi).resolve_right List.not_mem_nil)

/-! ## Guards -/

/-- Everything that could break off is guarded. -/
structure Secure (w : World (Wired ν) π) : Prop where
  channel : w.channel.channel.Steady
  backlog : w.session.backlog.Whole
  queues : ∀ q ∈ w.session.queues, q.Whole

namespace Secure

variable {w w' : World (Wired ν) π}

theorem of_eq (h : Secure w) (channel : w'.channel.channel = w.channel.channel)
    (backlog : w'.session.backlog = w.session.backlog)
    (queues : w'.session.queues = w.session.queues) : Secure w' :=
  ⟨channel ▸ h.channel, backlog ▸ h.backlog, queues ▸ h.queues⟩

/-- The channel does something, and then the network brings something. -/
theorem settling (h : Secure w) (net : Network ν) (result : Channel × List ChannelEvent)
    (steady : result.1.Steady) : Secure (w.settling net result) :=
  ⟨steady.arriveAll _, h.backlog, h.queues⟩

theorem networkStep (h : Secure w) (hw : w.NetworkStep w') : Secure w' := by
  cases hw with
  | changed => exact h.of_eq rfl rfl rfl
  | arrived a => exact ⟨h.channel.arrive a, h.backlog, h.queues⟩
  | noted => exact h.of_eq rfl rfl rfl

end Secure

namespace Wiring

open Act

variable {W : Wiring (Wired ν) π ι} {net : Network ν}

theorem Fresh.secure {w : World (Wired ν) π} (h : W.Fresh w) {c : ChannelConfig}
    (hc : w.channel.channel = Channel.new c)
    (readable : c.effective.readBufferSize ≤ Channel.readBufferLimit) : Secure w := by
  refine ⟨hc ▸ Channel.steady_new readable, ?_, ?_⟩
  · rw [h.session_eq]
    exact ⟨SessionConfig.maxPending_pos h.validate, List.not_mem_nil⟩
  · rw [h.session_eq]
    exact fun _ mem => absurd mem List.not_mem_nil

end Wiring

/-! ## Operations that touch no guard -/

section Aside

open Act

theorem secure_modify {f : World (Wired ν) π → World (Wired ν) π}
    (channel : ∀ w, (f w).channel = w.channel) (session : ∀ w, (f w).session = w.session) :
    Maintains Secure (modify f : Act (Wired ν) π Unit) :=
  .modifying fun w h => h.of_eq (by rw [channel]) (by rw [session]) (by rw [session])

theorem secure_record (e : Event) : Maintains Secure (record e : Act (Wired ν) π Unit) :=
  secure_modify (fun _ => rfl) fun _ => rfl

theorem secure_recordAll (es : List Event) :
    Maintains Secure (recordAll es : Act (Wired ν) π Unit) :=
  secure_modify (fun _ => rfl) fun _ => rfl

theorem secure_log (level : Log.Level) (message : String) (fields : Log.Fields) :
    Maintains Secure (log level message fields : Act (Wired ν) π Unit) :=
  secure_record _

theorem secure_count (f : Metrics → Metrics) :
    Maintains Secure (count f : Act (Wired ν) π Unit) :=
  secure_modify (fun _ => rfl) fun _ => rfl

theorem secure_remember {f : Session → Session}
    (backlog : ∀ s : Session, s.backlog.Whole → (f s).backlog.Whole)
    (queues : ∀ s : Session, (∀ q ∈ s.queues, q.Whole) → ∀ q ∈ (f s).queues, q.Whole) :
    Maintains Secure (remember f : Act (Wired ν) π Unit) :=
  .modifying fun _ h => ⟨h.channel, backlog _ h.backlog, queues _ h.queues⟩

theorem secure_setReady (ready : Bool) :
    Maintains Secure (Wiring.setReady ready : Act (Wired ν) π Unit) :=
  .bind (secure_remember (fun _ => id) fun _ => id) fun _ => secure_count _

theorem secure_noteOverflow (dropped : Nat) :
    Maintains Secure (Wiring.noteOverflow dropped : Act (Wired ν) π Unit) :=
  .ite (.bind (secure_record _) fun _ => secure_log _ _ _) (.pure _)

theorem secure_requestConnect : Maintains Secure (Wiring.requestConnect : Act (Wired ν) π Unit) :=
  .bind (secure_record _) fun _ => secure_remember (fun _ => id) fun _ => id

theorem secure_setRequest (m : Option Message) :
    Maintains Secure (Wiring.setRequest m : Act (Wired ν) π Unit) :=
  .bind (secure_record _) fun _ => .bind (secure_remember (fun _ => id) fun _ => id) fun _ =>
    secure_requestConnect

theorem secure_requestBuilt (b : Message.Built) :
    Maintains Secure (Wiring.requestBuilt b : Act (Wired ν) π CallReply) := by
  unfold Wiring.requestBuilt
  split
  · exact .bind (secure_setRequest _) fun _ => .pure _
  · exact .bind (.pure _) fun _ => .pure _

end Aside

namespace Wiring

open Act

variable {W : Wiring (Wired ν) π ι} {net : Network ν}

/-! ## Calls -/

theorem secure_send (hnet : W.transport = net.transport) (label : Label) (m : Message) :
    Maintains Secure (W.send label (some m)) := by
  intro w h
  refine returns_bind (returns_get (returns_bind ?_))
  rw [hnet]
  have steady := h.channel.send m
  dsimp only [Network.transport]
  generalize w.channel.channel.send m = called at steady
  cases called.error with
  | some e =>
    refine returns_pure (returns_bind (returns_adopt ?_))
    have taken : Secure (w.taking { w.channel with channel := called.channel } []) :=
      ⟨steady, h.backlog, h.queues⟩
    exact .of_maintains taken (.bind (secure_record _) fun _ => .bind (secure_count _) fun _ =>
      secure_log _ _ _)
  | none =>
    refine returns_pure (returns_bind (returns_adopt ?_))
    have taken := h.settling net (called.channel, called.events) steady
    exact .of_maintains taken (.bind (secure_record _) fun _ => secure_count _)

theorem secure_setIdle (hnet : W.transport = net.transport) (m : Option Message) :
    Maintains Secure (W.setIdle m) := by
  refine .bind (secure_remember (fun _ => id) fun _ => id) fun _ => .bind .get fun _ =>
    .bind (secure_record _) fun _ => ?_
  split
  · next given =>
    obtain ⟨m, rfl⟩ := Option.isSome_iff_exists.1 (Bool.and_eq_true_iff.1 given).2
    exact secure_send hnet .idle m
  · exact .pure _

theorem secure_submit (m : Message) :
    Maintains Secure (submit (some m) : Act (Wired ν) π Unit) := by
  intro w h
  obtain ⟨dropped, backlog, pushed, whole⟩ := h.backlog.push m
  refine returns_bind (returns_get (returns_bind (returns_lift pushed ?_)))
  exact .of_maintains h (.bind (secure_record _) fun _ => .bind (secure_remember (fun _ _ => whole)
    fun _ => id) fun _ => .bind (secure_noteOverflow _) fun _ => secure_requestConnect)

theorem secure_start : Maintains Secure W.start :=
  .bind .get fun _ => .ite (.bind (secure_modify (fun _ => rfl) fun _ => rfl) fun _ =>
    .bind (secure_record _) fun _ => .bind (secure_remember (fun _ => id) fun _ => id) fun _ =>
      secure_log _ _ _) (.pure _)

/-- A queue is found if there is one with its number. -/
theorem returns_queue {χ : Type} {number : Nat} {w : World χ π}
    (h : number < w.session.queues.length) {Q : Queue → World χ π → Prop} (hQ : ∀ q, Q q w) :
    Returns (queue number) w Q := by
  refine returns_bind (returns_get ?_)
  rw [List.getElem?_eq_getElem h]
  exact returns_pure (hQ _)

theorem secure_changeQueue (number : Nat) {f : Queue → Queue}
    (hf : ∀ q : Queue, q.Whole → (f q).Whole) :
    Maintains Secure (changeQueue number f : Act (Wired ν) π Unit) :=
  secure_remember (fun _ => id) fun _ h => forall_mem_modify hf h number

end Wiring

/-- A call that hands in messages where messages are wanted, and names only queues that there
are. -/
def Call.Apt (s : Session) : Call → Prop
  | .send m => m ≠ none
  | .putBatch number batch => number < s.queues.length ∧ none ∉ batch
  | .clearQueue number | .closeQueue number => number < s.queues.length
  | _ => True

namespace Wiring

open Act

variable {W : Wiring (Wired ν) π ι} {net : Network ν}

theorem secure_perform (hnet : W.transport = net.transport) {c : Call} {w : World (Wired ν) π}
    (h : Secure w) (apt : c.Apt w.session) :
    Returns (W.perform c) w fun _ w' => Secure w' := by
  have done {x : Act (Wired ν) π Unit} (hx : Maintains Secure x) :
      Returns (do x; return .none : Act (Wired ν) π CallReply) w fun _ w' => Secure w' :=
    .of_maintains h (.bind hx fun _ => .pure _)
  have changed {number : Nat} {e : Event} {f : Queue → Queue}
      (found : number < w.session.queues.length) (hf : ∀ q : Queue, q.Whole → (f q).Whole) :
      Returns (do let _ ← queue number; record e; changeQueue number f; return .none :
        Act (Wired ν) π CallReply) w fun _ w' => Secure w' :=
    returns_bind (returns_queue found fun _ => .of_maintains h (.bind (secure_record _) fun _ =>
      .bind (secure_changeQueue number hf) fun _ => .pure _))
  cases c with
  | start => exact done secure_start
  | stop =>
    refine done (secure_remember (fun s hs => ?_) fun s hs => ?_) <;> split <;> exact hs
  | reset => exact done (secure_remember (fun _ => id) fun _ => id)
  | requestConnect => exact done secure_requestConnect
  | setRequest m => exact done (secure_setRequest m)
  | sendAnimation name => exact secure_requestBuilt _ w h
  | readAnimationFile path => exact secure_requestBuilt _ w h
  | setIdle m => exact done (secure_setIdle hnet m)
  | send m =>
    obtain ⟨m, rfl⟩ := Option.ne_none_iff_exists'.1 apt
    exact done (secure_submit m)
  | createQueue interval =>
    have added : Maintains Secure (remember fun s =>
        { s with queues := s.queues ++ [{ interval }] } : Act (Wired ν) π Unit) :=
      secure_remember (fun _ => id) fun _ hs => List.forall_mem_append.2
        ⟨hs, List.forall_mem_singleton.2 List.not_mem_nil⟩
    exact .of_maintains h (.bind (.bind .get fun _ => .bind added fun _ => .pure _) fun _ =>
      .pure _)
  | putBatch number batch =>
    refine returns_bind (returns_bind (returns_queue apt.1 fun q => ?_))
    refine Returns.mono ?_ fun _ _ h' => returns_pure h'
    exact .of_maintains h (.ite (.bind (secure_record _) fun _ => .bind (secure_changeQueue number
      fun q hq => hq.put apt.2) fun _ => secure_requestConnect) (.pure _))
  | clearQueue number => exact changed apt fun _ _ => List.not_mem_nil
  | closeQueue number => exact changed apt fun _ _ => List.not_mem_nil
  | subscribe s =>
    exact .of_maintains h (.bind (.bind .get fun _ => .bind (secure_remember (fun _ => id)
      fun _ => id) fun _ => .pure _) fun _ => .pure _)
  | unsubscribe id => exact done (secure_remember (fun _ h => h) fun _ h => h)

/-! ## Subscribers -/

section

variable (W) (E : World (Wired ν) π → World (Wired ν) π → Prop)

/-- An apt call, or something that happens outside. -/
inductive AptDoing : World (Wired ν) π → World (Wired ν) π → Prop
  | call {w w' : World (Wired ν) π} (c : Call) (r : CallReply) (apt : c.Apt w.session)
    (h : (W.perform c).run w = .ok (r, w')) : AptDoing w w'
  | outside {w w' : World (Wired ν) π} (h : E w w') : AptDoing w w'

/-- A subscriber does nothing but call the session aptly, and it breaks off only if a call could. -/
def SubscribersCallAptly : Prop :=
  ∀ s text w, (∀ w', ReflTransGen (W.AptDoing E) w w' → ∀ c : Call, c.Apt w'.session →
      Returns (W.perform c) w' fun _ _ => True) →
    Returns (W.react s text) w fun _ w' => ReflTransGen (W.AptDoing E) w w'

end

theorem secure_of_doing (hnet : W.transport = net.transport) {w w' : World (Wired ν) π}
    (h : Secure w) (hd : ReflTransGen (W.AptDoing World.NetworkStep) w w') : Secure w' := by
  induction hd with
  | refl => exact h
  | tail _ hd ih =>
    cases hd with
    | call c r apt hc =>
      obtain ⟨r', w'', e, h'⟩ := secure_perform hnet ih apt
      cases hc.symm.trans e
      exact h'
    | outside ho => exact ih.networkStep ho

variable (hnet : W.transport = net.transport) (hW : W.SubscribersCallAptly World.NetworkStep)

include hnet hW

theorem secure_react (s : Subscriber) (text : Text) : Maintains Secure (W.react s text) := by
  intro w h
  refine (hW s text w fun w' hd c apt => ?_).mono fun _ w' hd => secure_of_doing hnet h hd
  exact (secure_perform hnet (secure_of_doing hnet h hd) apt).mono fun _ _ _ => trivial

theorem secure_present (text : Text) :
    ∀ subscribers, Maintains Secure (W.present text subscribers)
  | [] => .pure _
  | (_, s) :: rest => .bind (secure_record _) fun _ => .bind (secure_react hnet hW s text) fun _ =>
      secure_present text rest

theorem secure_publish (endOfTick : Bool) : Maintains Secure (W.publish endOfTick) := by
  refine .bind .get fun w => .bind (secure_remember (fun _ => id) fun _ => id) fun _ => ?_
  split
  · exact .pure _
  · exact .bind (secure_log _ _ _) fun _ => secure_present hnet hW _ _

/-! ## Notices -/

omit hW in
theorem secure_offer (b : Message.Built) (skipped : String) (fields : Log.Fields) :
    Maintains Secure (W.offer b skipped fields) := by
  unfold offer
  split
  · exact secure_log _ _ _
  · exact secure_send hnet _ _

omit hW in
theorem secure_onHeartbeat : Maintains Secure W.onHeartbeat := by
  refine .bind .get fun w => .bind (secure_record _) fun _ => .ite ?_ (.pure _)
  refine .bind (secure_remember (fun _ => id) fun _ => id) fun _ => .bind (secure_count _) fun _ =>
    .ite (.bind (secure_count _) fun _ => .bind (secure_log _ _ _) fun _ => ?_) (.pure _)
  split
  · next given =>
    obtain ⟨m, hm⟩ := Option.isSome_iff_exists.1 given
    rw [hm]
    exact secure_send hnet .idle m
  · exact .pure _

omit hW in
theorem secure_onMessage (m : Message) : Maintains Secure (W.onMessage (some m)) := by
  have peer (f : Roster → Instant → Instant → Roster) :
      Maintains Secure (W.recordPeer f) :=
    secure_modify (fun _ => rfl) fun _ => rfl
  cases m with
  | agentAvailable id ip =>
    refine .bind (peer _) fun _ => ?_
    dsimp only
    split
    · exact secure_log _ _ _
    · exact secure_send hnet _ _
  | uiDeviceAvailable device => exact .bind (peer _) fun _ => secure_send hnet _ _
  | agentStatus => exact secure_onHeartbeat hnet
  | _ => exact secure_log _ _ _

theorem secure_takeNotice (link : Option Nat) {n : Notice} (hn : n ≠ .message none) :
    Maintains Secure (W.takeNotice link n) := by
  refine .bind (secure_record _) fun _ => ?_
  cases n with
  | connected session =>
    exact .bind (secure_setReady _) fun _ => .bind (secure_log _ _ _) fun _ =>
      .bind (secure_offer hnet _ _ _) fun _ => secure_offer hnet _ _ _
  | disconnected reason =>
    exact .bind (secure_log _ _ _) fun _ => .bind (secure_setReady _) fun _ =>
      .bind (secure_remember (fun _ => id) fun _ => id) fun _ => secure_publish hnet hW false
  | message m =>
    obtain ⟨m, rfl⟩ := Option.ne_none_iff_exists'.1 fun h => hn (congrArg _ h)
    exact secure_onMessage hnet m

theorem secure_follow (ns : List (Nat × Notice)) :
    (∀ n ∈ ns, n.2 ≠ .message none) → ∀ {w : World (Wired ν) π} {x : Wired ν},
      Secure { w with channel := x } →
      Returns (W.follow (Wired.raising (ns.map some) x)) w fun _ w' => Secure w' := by
  induction ns with
  | nil => exact fun _ _ _ h => returns_modify h
  | cons n ns ih =>
    intro hns w x h
    obtain ⟨hn, hns⟩ := List.forall_mem_cons.1 hns
    refine returns_bind (returns_modify (returns_bind ?_))
    refine (secure_takeNotice hnet hW (some n.1) hn _ h).mono fun _ w' h' => ?_
    exact returns_bind (returns_get (ih hns h'))

/-! ## The parts of a tick -/

theorem secure_update : Maintains Secure W.update := by
  intro w h
  refine returns_bind (returns_modify (returns_bind (returns_get ?_)))
  rw [hnet]
  unfold Network.transport
  dsimp only
  obtain ⟨u, ns, hu, steady, notices, hns⟩ := h.channel.update (net.write w.channel.network)
    (net.clock w.channel.network w.clock)
  rw [hu]
  refine returns_bind (returns_modify ?_)
  dsimp only
  rw [notices]
  refine secure_follow hnet hW ns hns ?_
  exact (show Secure (w.note .update) from h.of_eq rfl rfl rfl).settling net
    (u.channel, u.events) steady

omit hW in
theorem secure_disconnect : Maintains Secure W.disconnect := by
  intro w h
  refine returns_bind (returns_modify (returns_bind (returns_get ?_)))
  rw [hnet]
  refine returns_adopt ?_
  exact (show Secure (w.note .disconnect) from h.of_eq rfl rfl rfl).settling net _
    h.channel.disconnect

omit hW in
theorem secure_resetLink : Maintains Secure W.resetLink :=
  .bind .get fun _ => .bind (secure_remember (fun _ => id) fun _ => id) fun _ =>
    .ite (.bind (secure_log _ _ _) fun _ => .bind (secure_disconnect hnet) fun _ =>
      secure_setReady _) (.pure _)

theorem secure_enforceLiveness : Maintains Secure W.enforceLiveness :=
  .bind .get fun _ => .ite (.bind (secure_record _) fun _ => .bind (secure_log _ _ _) fun _ =>
    .bind (secure_count _) fun _ => .bind (secure_disconnect hnet) fun _ =>
      .bind (secure_setReady _) fun _ => .bind (secure_remember (fun _ => id) fun _ => id) fun _ =>
        secure_publish hnet hW false)
    (.pure _)

omit hW in
theorem secure_dial (number : Nat) (port : Int) : Maintains Secure (W.dial number port) := by
  refine .bind (secure_log _ _ _) fun _ => .bind (secure_record _) fun _ w h => ?_
  refine returns_bind (returns_get (returns_bind ?_))
  rw [hnet]
  dsimp only [Network.transport]
  obtain ⟨starts, steady⟩ := h.channel.connect net.names (net.bind w.channel.network port)
    (net.clock w.channel.network w.clock) (W.uuid w.draws)
    ⟨W.config.deviceId, port, W.config.remoteHost, W.config.remotePort⟩
  rw [starts]
  refine returns_pure (returns_bind (returns_adopt ?_))
  refine .of_maintains (h.settling net (_, _) steady) (.bind ?_ fun _ => ?_)
  · exact secure_modify (fun _ => rfl) fun _ => rfl
  split
  · exact secure_log _ _ _
  · exact .pure _

omit hW in
theorem secure_attempt (number : Nat) : Maintains Secure (W.attempt number) := by
  have port : Maintains Secure W.nextPort :=
    .bind .get fun _ => .bind (secure_modify (fun _ => rfl) fun _ => rfl) fun _ =>
      .bind (secure_recordAll _) fun _ => .pure _
  refine .bind (secure_record _) fun _ => .bind (secure_count _) fun _ => .bind port fun port => ?_
  cases port with
  | error reason => exact secure_log _ _ _
  | ok port => exact secure_dial hnet number port

theorem secure_ensureConnected : Maintains Secure W.ensureConnected :=
  .bind (secure_enforceLiveness hnet hW) fun _ => .bind .get fun _ => .bind (secure_record _)
    fun _ => .ite (.pure _) (.ite (.pure _) (.bind (secure_remember (fun _ => id) fun _ => id)
      fun _ => .bind (secure_attempt hnet _) fun _ => .bind (secure_update hnet hW) fun _ =>
        .pure _))

omit hnet hW in
/-- Discarded work leaves nothing behind that could be missing. -/
theorem discardWork_whole (s : Session) :
    ∀ q ∈ (discardWork s).queues, q.Whole :=
  List.forall_mem_map.2 fun _ _ => List.not_mem_nil

theorem secure_maintain : Maintains Secure W.maintain := by
  have gaveUp : Maintains Secure (giveUp : Act (Wired ν) π Unit) :=
    .bind (secure_remember (fun _ h => h.clear) fun s _ => discardWork_whole s) fun _ =>
      .bind (secure_record _) fun _ => .bind .get fun _ => .bind (secure_count _) fun _ =>
        secure_log _ _ _
  refine .bind .get fun w => .ite (.pure _) (.bind (secure_ensureConnected hnet hW) fun kept => ?_)
  exact .ite (.pure _) (.bind gaveUp fun _ => .pure _)

omit hW in
theorem secure_sendAll (label : Label) {ms : List (Option Message)} (h : none ∉ ms) :
    Maintains Secure (W.sendAll label ms) := by
  refine .forM fun m hm => ?_
  obtain ⟨m, rfl⟩ := Option.ne_none_iff_exists'.1 (ne_of_mem_of_not_mem hm h)
  exact secure_send hnet label m

omit hW in
theorem secure_sendWork (request : Option Message) (pending : List Message) :
    Maintains Secure (W.sendWork request pending) := by
  refine .bind (secure_sendAll hnet _ (by simp)) fun _ => .bind (secure_sendAll hnet _ (by simp))
    fun _ w h => ?_
  obtain ⟨filled, left⟩ := takeAll_whole h.queues w.clock
  refine returns_bind (returns_bind (returns_get (returns_bind (returns_modify ?_))))
  refine returns_bind (returns_modify (returns_pure ?_))
  exact secure_sendAll hnet _ filled _ ⟨h.channel, h.backlog, left⟩

omit hnet hW in
theorem secure_putBack (request : Option Message) (pending : List Message) :
    Maintains Secure (putBack request pending : Act (Wired ν) π Unit) := by
  refine .ite (.pure _) fun w h => returns_bind (returns_get (returns_bind ?_))
  obtain ⟨dropped, backlog, restored, whole⟩ := h.backlog.restore pending
  refine returns_lift restored (.of_maintains h ?_)
  exact .bind (secure_remember (fun _ _ => whole) fun _ => id) fun _ => secure_noteOverflow _

omit hW in
theorem secure_dispatch (request : Option Message) (pending : List Message) :
    Maintains Secure (W.dispatch request pending) :=
  .bind .get fun _ => .bind (secure_record _) fun _ =>
    .ite (secure_sendWork hnet request pending) (secure_putBack request pending)

omit hnet hW in
theorem secure_takeWork : Maintains Secure (takeWork : Act (Wired ν) π _) := by
  intro w h
  obtain ⟨messages, drained⟩ := h.backlog.drain
  refine returns_bind (returns_get (returns_bind (returns_lift drained ?_)))
  exact .of_maintains h (.bind (secure_remember (fun _ _ => h.backlog.clear) fun _ => id) fun _ =>
    .pure _)

/-! ## Ticks and shutdowns -/

theorem secure_tick : Maintains Secure W.tick := by
  refine .bind .get fun w => .ite (.pure _) (.bind secure_takeWork fun taken => ?_)
  refine .bind (secure_resetLink hnet) fun _ => .bind (secure_update hnet hW) fun _ =>
    .bind (secure_maintain hnet hW) fun kept => ?_
  cases kept with
  | true =>
    exact .bind (secure_dispatch hnet _ _) fun _ => .bind (secure_publish hnet hW true) fun _ =>
      .pure _
  | false =>
    exact .bind (secure_dispatch hnet _ _) fun _ => .bind (secure_publish hnet hW true) fun _ =>
      .pure _

theorem secure_drainTransport (polls : Nat) : Maintains Secure (W.drainTransport polls) := by
  have poll : Maintains Secure W.poll := by
    refine .bind (secure_update hnet hW) fun _ w h => returns_bind (returns_get ?_)
    rw [hnet]
    exact returns_adopt (h.of_eq rfl rfl rfl)
  induction polls with
  | zero => exact .bind poll fun _ => .pure _
  | succ polls ih => exact .bind poll fun _ => .ite ih (.pure _)

theorem secure_shutdown (polls : Nat) : Maintains Secure (W.shutdown polls) := by
  refine .bind (secure_disconnect hnet) fun _ => .bind (secure_drainTransport hnet hW polls)
    fun drained => .bind (.ite (.pure _) (secure_log _ _ _)) fun _ => ?_
  refine .bind (secure_remember (fun _ h => h.clear) fun s _ => discardWork_whole s) fun _ => ?_
  exact .bind (secure_record _) fun _ => .bind .get fun _ => .bind (secure_count _) fun _ =>
    .bind (secure_publish hnet hW true) fun _ => secure_log _ _ _

/-! ## Runs -/

section

variable (W) (E : World (Wired ν) π → World (Wired ν) π → Prop)

/-- One step of a run in which every call is apt. -/
inductive AptStep : World (Wired ν) π → World (Wired ν) π → Prop
  | call {w w' : World (Wired ν) π} (c : Call) (r : CallReply) (apt : c.Apt w.session)
    (h : (W.perform c).run w = .ok (r, w')) : AptStep w w'
  | tick {w w' : World (Wired ν) π} (more : Bool) (h : W.tick.run w = .ok (more, w')) : AptStep w w'
  | shutdown {w w' : World (Wired ν) π} (polls : Nat)
    (h : (W.shutdown polls).run w = .ok ((), w')) : AptStep w w'
  | outside {w w' : World (Wired ν) π} (h : E w w') : AptStep w w'

end

theorem secure_of_step {w w' : World (Wired ν) π} (h : Secure w)
    (hs : W.AptStep World.NetworkStep w w') : Secure w' := by
  have left {α : Type} {x : Act (Wired ν) π α} {a : α} (hx : x.run w = .ok (a, w'))
      (returned : Returns x w fun _ w' => Secure w') : Secure w' := by
    obtain ⟨b, w'', e, h'⟩ := returned
    cases hx.symm.trans e
    exact h'
  cases hs with
  | call c r apt hc => exact left hc (secure_perform hnet h apt)
  | tick more ht => exact left ht (secure_tick hnet hW w h)
  | shutdown polls hp => exact left hp (secure_shutdown hnet hW polls w h)
  | outside ho => exact h.networkStep ho

/-- If readers can make their buffers, then wherever a run with apt calls gets to, every apt call,
the next tick and any shutdown go through. The datagrams that wait there have a first byte, and
whatever else is in them, reading them as a message or a welcome does not reach outside. -/
theorem nothing_breaks_off {w₀ w : World (Wired ν) π} (h₀ : W.Fresh w₀) {c : ChannelConfig}
    (hc : w₀.channel.channel = Channel.new c)
    (readable : c.effective.readBufferSize ≤ Channel.readBufferLimit)
    (h : ReflTransGen (W.AptStep World.NetworkStep) w₀ w) :
    (∀ call : Call, call.Apt w.session → ∃ r w', (W.perform call).run w = .ok (r, w')) ∧
    (∃ more w', W.tick.run w = .ok (more, w')) ∧
    (∀ polls, ∃ w', (W.shutdown polls).run w = .ok ((), w')) ∧
    (∀ i ∈ w.channel.channel.inbox, i.2 ≠ []) ∧
    (∀ b, Message.decodeParts? b = some (Message.decode b)) ∧
    ∀ body, Frame.noncedParts? body Frame.sessionSize =
      some (Frame.nonced? body Frame.sessionSize) := by
  have secure : Secure w := by
    induction h with
    | refl => exact h₀.secure hc readable
    | tail _ hs ih => exact secure_of_step hnet hW ih hs
  refine ⟨fun call apt => ?_, ?_, fun polls => ?_, secure.channel.filled, Message.decodeParts?_eq,
    fun body => Frame.noncedParts?_eq body _⟩
  · obtain ⟨r, w', e, -⟩ := secure_perform hnet secure apt
    exact ⟨r, w', e⟩
  · obtain ⟨more, w', e, -⟩ := secure_tick hnet hW w secure
    exact ⟨more, w', e⟩
  · obtain ⟨_, w', e, -⟩ := secure_shutdown hnet hW polls w secure
    exact ⟨w', e⟩

end Wiring

namespace Rehearsal

open Wiring

/-- A subscriber that submits a message breaks off only if submitting does. -/
theorem echoing_callAptly (config : SessionConfig) :
    (echoing config).SubscribersCallAptly World.NetworkStep := by
  intro s text w goes
  have apt : (Call.send (some (.raw applicationTag s.name))).Apt w.session := nofun
  obtain ⟨r, w', performed, -⟩ := goes w .refl _ apt
  refine ⟨(), w', ?_, .single (.call _ r apt performed)⟩
  change (submit (some (.raw applicationTag s.name)) >>= fun _ => pure CallReply.none).run w = _
    at performed
  change (submit (some (.raw applicationTag s.name))).run w = _
  rw [StateT.run_bind] at performed
  cases submitted : (submit (some (.raw applicationTag s.name))).run w with
  | error f =>
    rw [submitted] at performed
    cases performed
  | ok result =>
    rw [submitted] at performed
    cases performed
    rfl

/-- A script whose calls are apt whatever the session remembers is a run with apt calls. -/
theorem aptSteps_of_play {W : Wiring (Wired ν) π ι} {script : List Cue}
    {w w' : World (Wired ν) π} (h : W.play script w = some w')
    (apt : ∀ c, .call c ∈ script → ∀ s, c.Apt s) :
    ReflTransGen (W.AptStep World.NetworkStep) w w' := by
  refine steps_of_play (fun cue hc w w' hs => ?_) h
  cases hs with
  | call c r h => exact .call c r (apt c hc _) h
  | tick more h => exact .tick more h
  | shutdown polls h => exact .shutdown polls h
  | outside _ h => exact .outside h

/-- A session with a subscriber and a queue has a link, on which datagrams wait that cannot be read,
and then the socket fails. -/
def strained : List Cue :=
  [.call (.subscribe ⟨[97], 0⟩), .call (.createQueue 0), .call .start, .call .requestConnect, .tick,
    welcoming 0, .tick, fromPeer 0 (Frame.data []), fromPeer 0 [Frame.welcomeByte, 1],
    .arrive (.failure 0 [98])]

/-- What waits for a strained session goes through. -/
theorem nothing_breaks_off_strained :
    ∃ w, ReflTransGen ((echoing modest).AptStep World.NetworkStep) (opening modest) w ∧
      w.channel.channel.inbox = [(0, Frame.data []), (0, [Frame.welcomeByte, 1])] ∧
      (∃ r w', ((echoing modest).perform (.putBatch 0 [some (.raw applicationTag [])])).run w =
        .ok (r, w')) ∧
      (∃ more w', (echoing modest).tick.run w = .ok (more, w')) ∧
      ∃ w', ((echoing modest).shutdown 3).run w = .ok ((), w') := by
  have played : ((echoing modest).play strained (opening modest)).map (fun w =>
      (w.channel.channel.inbox, w.session.queues.length)) =
        some ([(0, Frame.data []), (0, [Frame.welcomeByte, 1])], 1) := by
    decide +kernel
  obtain ⟨w, hw, facts⟩ := Option.map_eq_some_iff.1 played
  obtain ⟨inbox, queues⟩ := Prod.mk.inj facts
  have steps : ReflTransGen ((echoing modest).AptStep World.NetworkStep) (opening modest) w := by
    refine aptSteps_of_play hw fun c hc s => ?_
    simp only [strained, welcoming, fromPeer, List.mem_cons, Cue.call.injEq, reduceCtorEq,
      List.not_mem_nil, or_false] at hc
    rcases hc with rfl | rfl | rfl | rfl <;> trivial
  obtain ⟨calls, tick, shutdown, -⟩ :=
    nothing_breaks_off rfl (echoing_callAptly modest) modest_fresh rfl (by decide) steps
  refine ⟨w, steps, inbox, calls _ ⟨?_, by simp⟩, tick, shutdown 3⟩
  rw [queues]
  exact Nat.one_pos

/-- The world before the session has done anything, with read buffers that cannot be made. -/
def bloated : Program.ProgramWorld Loopback :=
  { opening modest with
    channel := { channel := Channel.new { readBufferSize := 4611686018427387904 }, network := {} } }

/-- A session whose read buffers cannot be made breaks off at its first attempt to connect, whatever
else is as it should be. -/
theorem bloated_breaks_off :
    (echoing modest).SubscribersCallAptly World.NetworkStep ∧ (echoing modest).Fresh bloated ∧
    (∃ c, bloated.channel.channel = Channel.new c) ∧
    ∃ w, ReflTransGen ((echoing modest).AptStep World.NetworkStep) bloated w ∧
      (echoing modest).tick.run w = .error .impossibleSize := by
  have fresh : (echoing modest).Fresh bloated := ⟨modest_fresh.session, rfl⟩
  have played : ((echoing modest).play [.call .requestConnect] bloated).map
      (fun w => (echoing modest).tick.run w matches .error .impossibleSize) = some true := by
    decide +kernel
  obtain ⟨w, hw, broken⟩ := Option.map_eq_some_iff.1 played
  refine ⟨echoing_callAptly modest, fresh, ⟨_, rfl⟩, w, aptSteps_of_play hw fun c hc s => ?_, ?_⟩
  · obtain rfl : c = .requestConnect := by simpa using hc
    trivial
  · split at broken
    · next e => exact e
    · cases broken

end Rehearsal

end Teleop
