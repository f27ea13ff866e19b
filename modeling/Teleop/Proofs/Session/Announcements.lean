import Teleop.Proofs.Link.Course
import Teleop.Proofs.Link.Refusals
import Teleop.Proofs.Message.Codec
import Teleop.Proofs.Session.CoupledRuns

/-!
# Announcements and their answers

A session answers an announcement of an agent with a request for its own agent, and that of a device
with a request for that device. Reading takes a device name that fills its field, but writing keeps
the last byte of the field for a terminating zero, so a device whose name fills the field is
announced in vain.

* `Wiring.Answered`, `Wiring.Unanswered`: what becomes of an announcement;
* `send_encoded`, `send_unencoded`: a message that can be written joins the frames of a link that is
  up and has room, and one that cannot is refused;
* `announcement_answered_iff`: which announcements are answered.
-/

namespace Teleop

/-! ## Answers can be read -/

namespace Message

/-- What was read has no zero byte in its texts. -/
theorem zeroFree_of_decode {b : Bytes} {m : Message} (h : decode b = .ok m) : m.ZeroFree :=
  (reading_of_decode h).zeroFree

theorem decode_of_encode {m : Message} {payload : Bytes} (free : m.ZeroFree)
    (h : m.encode = .ok payload) : decode payload = .ok m := by
  have back := decode_append (writing_of_encode h) []
  rwa [List.append_nil, free.received_nil] at back

theorem encode_connectToUIDevice_of_lt {device : Text}
    (h : device.length < TextField.deviceId.size) :
    ∃ payload, (connectToUIDevice device).encode = .ok payload := by
  rw [encode, encodeBody, checkText_eq_ok.2 h]
  exact ⟨_, rfl⟩

theorem encode_connectToUIDevice_of_le {device : Text}
    (h : TextField.deviceId.size ≤ device.length) :
    (connectToUIDevice device).encode = .error (.fieldTooLong .deviceId device.length) := by
  have long : TextField.deviceId.limit < device.length := by
    unfold TextField.limit
    simp only [TextField.size] at h ⊢
    omega
  rw [encode, encodeBody, checkText, if_pos long]
  rfl

theorem encode_connectToAgent {id : Int} (h : minAgentId ≤ id ∧ id ≤ maxAgentId) :
    ∃ payload, (connectToAgent id).encode = .ok payload := by
  rw [encode, encodeBody, checkAgentId_eq_ok.2 h]
  exact ⟨_, rfl⟩

theorem buildConnectToAgent_of_mem {id : Int} (h : minAgentId ≤ id ∧ id ≤ maxAgentId) :
    buildConnectToAgent id = ⟨connectToAgent id, none⟩ := by
  rw [buildConnectToAgent, checkAgentId_eq_ok.2 h]
  rfl

end Message

/-! ## The frames of a link while something comes in -/

namespace Channel

variable {c : Channel} {l : Link}

theorem arrive_current (hl : c.current = some l) (a : Arrival) :
    ∃ l', (c.arrive a).1.current = some l' ∧ l'.id = l.id ∧ l'.outbound = l.outbound := by
  cases a with
  | datagram link sender bytes =>
    refine ⟨l, ?_, rfl, rfl⟩
    dsimp only [arrive]
    rcases c.receive_cases link sender bytes with ⟨same, -⟩ | ⟨l', -, -, taken⟩
    · rw [same]
      exact hl
    · rw [taken]
      exact hl
  | failure link reason =>
    refine ⟨Link.fail link reason l, ?_, Link.fail_id link reason l,
      Link.fail_outbound link reason l⟩
    dsimp only [arrive, failRead]
    rw [hl]
    rfl

theorem arriveAll_current (hl : c.current = some l) (as : List Arrival) :
    ∃ l', (c.arriveAll as).1.current = some l' ∧ l'.id = l.id ∧ l'.outbound = l.outbound := by
  induction as generalizing c l with
  | nil => exact ⟨l, hl, rfl, rfl⟩
  | cons a rest ih =>
    obtain ⟨l₁, hl₁, id₁, outbound₁⟩ := arrive_current hl a
    obtain ⟨l₂, hl₂, id₂, outbound₂⟩ := ih hl₁
    exact ⟨l₂, hl₂, id₂.trans id₁, outbound₂.trans outbound₁⟩

end Channel

theorem Wired.settle_current {ν : Type} (net : Network ν) (x : Wired ν) {c : Channel} {l : Link}
    (hl : c.current = some l) (events : List ChannelEvent) : ∃ more l',
      (x.settle net c events).2 = events ++ more ∧
        (x.settle net c events).1.channel.current = some l' ∧ l'.id = l.id ∧
        l'.outbound = l.outbound := by
  obtain ⟨l', current⟩ := Channel.arriveAll_current hl
    (net.arrivals (x.adopt net c events).network)
  exact ⟨_, l', rfl, current⟩

namespace Wiring

open Act

variable {ν π ι : Type} {W : Wiring (Wired ν) π ι} {net : Network ν} {w : World (Wired ν) π}
  {l : Link} {label : Label} {m : Message}

/-- A message that can be written is queued on a link that is up and has room. -/
theorem send_encoded (hnet : W.transport = net.transport) {payload : Bytes}
    (encoded : m.encode = .ok payload) (up : w.channel.channel.phase = .connected)
    (hl : w.channel.channel.current = some l)
    (room : (l.outbound.length : Int) < w.channel.channel.config.maxOutbound) :
    Returns (W.send label (some m)) w fun _ w' => ∃ arrivals l',
      w'.history = w.history ++ acceptance l.id payload arrivals label m ∧
        w'.channel.channel.current = some l' ∧ l'.id = l.id ∧
        l'.outbound = l.outbound ++ [Frame.data payload] := by
  have sent := Channel.send_of_current encoded up hl
  rw [if_neg (Int.not_le.2 room)] at sent
  unfold send
  rw [hnet]
  refine returns_bind (returns_get ?_)
  dsimp only [Network.transport]
  rw [sent]
  refine returns_bind (returns_pure (returns_bind (returns_adopt ?_)))
  refine returns_bind (returns_modify (returns_modify ?_))
  obtain ⟨more, l', events, current⟩ := w.channel.settle_current net
    (c := { w.channel.channel with current := some { l with
      outbound := l.outbound ++ [Frame.data payload] } }) rfl
    [.link (.accepted l.id (Frame.data payload))]
  refine ⟨more, l', ?_, current⟩
  simp [World.history, World.taking, acceptance, Wired.reply, events, Event.ofChannel]

/-- A message that cannot be written is refused. -/
theorem send_unencoded (hnet : W.transport = net.transport) {e : Message.Error}
    (encoded : m.encode = .error e) :
    Returns (W.send label (some m)) w fun _ w' =>
      w'.history = w.history ++ refusal label m (Channel.SendError.encoding e).message ∧
        w'.channel = w.channel := by
  have refused := Channel.send_of_unencodable (c := w.channel.channel) encoded
  unfold send
  rw [hnet]
  refine returns_bind (returns_get ?_)
  dsimp only [Network.transport]
  rw [refused]
  refine returns_bind (returns_pure (returns_bind (returns_adopt ?_)))
  refine returns_bind (returns_modify (returns_bind (returns_modify (returns_modify ⟨?_, rfl⟩))))
  simp [World.history, World.taking, refusal, refusalEntry]

/-! ## What becomes of an announcement -/

/-- An announcement on a link is answered: the answer is handed over and accepted, which queues one
data frame, and the frame is read as the answer. -/
structure Answered (l : Link) (announced answer : Message) (w w' : World (Wired ν) π) : Prop where
  intro ::
  frame : ∃ payload arrivals l', Message.decode payload = .ok answer ∧
    w'.history = w.history ++ .noticed (some l.id) (.message (some announced)) ::
      acceptance l.id payload arrivals .reply answer ∧
    w'.channel.channel.current = some l' ∧ l'.id = l.id ∧
    l'.outbound = l.outbound ++ [Frame.data payload]

/-- The answer to an announcement on a link is handed over and refused, and nothing is queued. -/
structure Unanswered (l : Link) (announced answer : Message) (e : Message.Error)
    (w w' : World (Wired ν) π) : Prop where
  history : w'.history = w.history ++ .noticed (some l.id) (.message (some announced)) ::
    refusal .reply answer (Channel.SendError.encoding e).message
  channel : w'.channel = w.channel

/-- The answer is handed over once the session has noted who was announced. -/
theorem answered_of_encode (hnet : W.transport = net.transport)
    (up : w.channel.channel.phase = .connected) (hl : w.channel.channel.current = some l)
    (room : (l.outbound.length : Int) < w.channel.channel.config.maxOutbound)
    {announced answer : Message} (free : answer.ZeroFree) {payload : Bytes}
    (encoded : answer.encode = .ok payload) {w₁ : World (Wired ν) π}
    (channel : w₁.channel = w.channel)
    (history : w₁.history = w.history ++ [.noticed (some l.id) (.message (some announced))]) :
    Returns (W.send .reply (some answer)) w₁ fun _ w' => Answered l announced answer w w' := by
  rw [← channel] at up hl room
  refine (send_encoded hnet encoded up hl room).mono ?_
  rintro _ w' ⟨arrivals, l', history', current⟩
  refine ⟨payload, arrivals, l', Message.decode_of_encode free encoded, ?_, current⟩
  rw [history', history, List.append_assoc, List.singleton_append]

/-- On a link that is up and has room, a session answers the announcement of a device unless the
name of the device fills its field, and then the answer is refused. The announcement of an agent is
answered if the agent of the session has a number that can be written. -/
theorem announcement_answered_iff (hnet : W.transport = net.transport)
    (up : w.channel.channel.phase = .connected) (hl : w.channel.channel.current = some l)
    (room : (l.outbound.length : Int) < w.channel.channel.config.maxOutbound) (body : Bytes) :
    (∀ device, Message.decode body = .ok (.uiDeviceAvailable device) →
      Returns (W.takeNotice (some l.id) (.message (some (.uiDeviceAvailable device)))) w fun _ w' =>
        if device.length < TextField.deviceId.size then
          Answered l (.uiDeviceAvailable device) (.connectToUIDevice device) w w'
        else Unanswered l (.uiDeviceAvailable device) (.connectToUIDevice device)
          (.fieldTooLong .deviceId device.length) w w') ∧
    ∀ id ip, Message.decode body = .ok (.agentAvailable id ip) →
      minAgentId ≤ W.config.agentId → W.config.agentId ≤ maxAgentId →
      Returns (W.takeNotice (some l.id) (.message (some (.agentAvailable id ip)))) w fun _ w' =>
        Answered l (.agentAvailable id ip) (.connectToAgent W.config.agentId) w w' := by
  constructor
  · intro device decoded
    refine returns_bind (returns_modify (returns_bind (returns_modify ?_)))
    by_cases fits : device.length < TextField.deviceId.size
    · obtain ⟨payload, encoded⟩ := Message.encode_connectToUIDevice_of_lt fits
      have announced := Message.zeroFree_of_decode decoded
      have free : (Message.connectToUIDevice device).ZeroFree := announced
      simp only [if_pos fits]
      exact answered_of_encode hnet up hl room free encoded rfl (by simp [World.history])
    · have encoded := Message.encode_connectToUIDevice_of_le (Nat.le_of_not_lt fits)
      simp only [if_neg fits]
      refine (send_unencoded hnet encoded).mono ?_
      rintro _ w' ⟨history, channel⟩
      exact ⟨by rw [history]; simp [World.history], channel⟩
  · intro id ip _ least greatest
    obtain ⟨payload, encoded⟩ := Message.encode_connectToAgent ⟨least, greatest⟩
    have free : (Message.connectToAgent W.config.agentId).ZeroFree :=
      fun _ mem => absurd mem List.not_mem_nil
    refine returns_bind (returns_modify (returns_bind (returns_modify ?_)))
    rw [Message.buildConnectToAgent_of_mem ⟨least, greatest⟩]
    exact answered_of_encode hnet up hl room free encoded rfl (by simp [World.history])

end Wiring

/-- The answer to an announcement that an event hands over, and whether it was accepted. -/
def Event.reply? : Event → Option (Option Message × Bool)
  | .handOff .reply m accepted => some (m, accepted)
  | _ => none

namespace Rehearsal

open Wiring

/-- The peer grants a link, and the handshake is written on it. -/
def granted : List Cue :=
  [.call .start, .call .requestConnect, .tick, welcoming 0, .tick, .tick]

/-- On a link without frames, a name of 31 bytes is answered and one of 32 bytes is not. -/
theorem announcement_answered_iff_granted :
    ∃ w l, (echoing modest).Reaches World.NetworkStep (opening modest) w ∧
      w.channel.channel.current = some l ∧ l.outbound = [] ∧
      Returns ((echoing modest).takeNotice (some l.id)
        (.message (some (.uiDeviceAvailable (List.replicate 31 1))))) w (fun _ w' =>
          Answered l (.uiDeviceAvailable (List.replicate 31 1))
            (.connectToUIDevice (List.replicate 31 1)) w w') ∧
      Returns ((echoing modest).takeNotice (some l.id)
        (.message (some (.uiDeviceAvailable (List.replicate 32 1))))) w (fun _ w' =>
          Unanswered l (.uiDeviceAvailable (List.replicate 32 1))
            (.connectToUIDevice (List.replicate 32 1)) (.fieldTooLong .deviceId 32) w w') ∧
      Returns ((echoing modest).takeNotice (some l.id)
        (.message (some (.agentAvailable 7 [49])))) w (fun _ w' =>
          Answered l (.agentAvailable 7 [49]) (.connectToAgent modest.agentId) w w') := by
  have played : ((echoing modest).play granted (opening modest)).map (fun w =>
      (w.channel.channel.phase, w.channel.channel.config.maxOutbound,
        w.channel.channel.current.map (·.outbound))) = some (.connected, 1024, some []) := by
    decide +kernel
  obtain ⟨w, hw, facts⟩ := Option.map_eq_some_iff.1 played
  obtain ⟨up, most, frames⟩ : w.channel.channel.phase = .connected ∧
      w.channel.channel.config.maxOutbound = 1024 ∧
      w.channel.channel.current.map (·.outbound) = some [] := by
    simpa only [Prod.mk.injEq] using facts
  obtain ⟨l, hl, empty⟩ := Option.map_eq_some_iff.1 frames
  have room : (l.outbound.length : Int) < w.channel.channel.config.maxOutbound := by
    rw [most, empty]
    decide
  have answered (body : Bytes) :=
    announcement_answered_iff (W := echoing modest) rfl up hl room body
  refine ⟨w, l, reaches_of_play hw, hl, empty, ?_, ?_, ?_⟩
  · exact (answered (11 :: (List.replicate 31 1 ++ [0]))).1 _ (by decide +kernel)
  · exact (answered (11 :: List.replicate 32 1)).1 _ (by decide +kernel)
  · exact (answered (10 :: 7 :: 49 :: List.replicate 63 0)).2 _ _ (by decide +kernel)
      (by decide) (by decide)

/-- A device whose name fills its field is announced on a link that is up and has no frames waiting,
and the answer is refused. -/
theorem announced_in_vain :
    Message.decode (Kind.uiDeviceAvailable.tag :: List.replicate 32 1) =
      .ok (.uiDeviceAvailable (List.replicate 32 1)) ∧
    ∃ w, (echoing modest).play (granted ++ [fromPeer 0 (Frame.data
        (Kind.uiDeviceAvailable.tag :: List.replicate 32 1)), .tick]) (opening modest) = some w ∧
      w.channel.channel.phase = .connected ∧ w.channel.channel.pending = false ∧
      w.history.filterMap Event.reply? =
        [(some (.connectToUIDevice (List.replicate 32 1)), false)] := by
  refine ⟨by decide +kernel, ?_⟩
  have played : ((echoing modest).play (granted ++ [fromPeer 0 (Frame.data
      (Kind.uiDeviceAvailable.tag :: List.replicate 32 1)), .tick]) (opening modest)).map (fun w =>
        (w.channel.channel.phase, w.channel.channel.pending,
          w.history.filterMap Event.reply?)) =
      some (.connected, false, [(some (.connectToUIDevice (List.replicate 32 1)), false)]) := by
    decide +kernel
  obtain ⟨w, hw, facts⟩ := Option.map_eq_some_iff.1 played
  refine ⟨w, hw, ?_⟩
  simpa only [Prod.mk.injEq] using facts

end Rehearsal

end Teleop
