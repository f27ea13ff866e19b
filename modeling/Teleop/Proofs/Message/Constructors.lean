import Teleop.Link.Channel
import Teleop.Proofs.Message.Codec
import Teleop.Session.Call

/-!
# Constructors check what the encoder checks

Six kinds of messages have a constructor. It checks its arguments by itself, and the encoder checks
them again. Both make the same checks in the order of the layout, so they fail for the same messages
and with the same error, also where several fields are wrong.

* `Built.Agrees`: what a constructor hands back agrees with what the encoder says;
* `Built.Agrees.of_items`: it does if the constructor checks the fields in the order of the layout;
* `constructors_match_encoder`: all constructors, and what follows for channels and sessions.
-/

namespace Teleop

namespace Message

variable {b : Built} {m : Message} {kind : Kind}

/-- A constructor that was asked for the message `m` agrees with the encoder about it. -/
structure Built.Agrees (b : Built) (m : Message) : Prop where
  succeeds : b.error = none ↔ ∃ bytes, m.encode = .ok bytes
  fails : ∀ e, b.error = some e ↔ m.encode = .error e
  literal : b.error = none → b.message = m
  blank : b.error ≠ none → ∃ kind, m.kind? = some kind ∧ b.message = blank kind

theorem Built.Agrees.of_items {check : Except Error Unit} (hkind : m.kind? = some kind)
    (hcheck : check = Item.checkAll m.items) : (Built.of kind m check).Agrees m := by
  have encoded : m.encode = (fun _ => kind.tag :: Item.bytesOf m.items) <$> check :=
    hcheck ▸ encode_eq hkind
  cases check with
  | ok =>
    have encoded : m.encode = .ok (kind.tag :: Item.bytesOf m.items) := encoded
    constructor <;> simp [encoded, Built.of]
  | error reason =>
    have encoded : m.encode = .error reason := encoded
    constructor <;> simp [encoded, Built.of, hkind]

theorem Item.checkAll_singleton (i : Item) : checkAll [i] = i.check := by
  rw [checkAll]
  cases i.check <;> rfl

theorem Built.Agrees.of_item (i : Item) (hkind : m.kind? = some kind) (hitem : m.items = [i]) :
    (Built.of kind m i.check).Agrees m :=
  of_items hkind (by rw [hitem, Item.checkAll_singleton])

theorem agrees_buildStartEngine (host : Text) : (buildStartEngine host).Agrees (startEngine host) :=
  .of_item (.text .address host) rfl rfl

theorem agrees_buildForceAddAgent (id : Int) (ip : Text) (simulated : Bool) :
    (buildForceAddAgent id ip simulated).Agrees (forceAddAgent id ip simulated) := by
  refine .of_items rfl ?_
  -- The flag at the end has nothing to be checked.
  have flag : Item.checkAll [.text .address ip, .flag simulated] = checkAddress ip := by
    rw [Item.checkAll, Item.checkAll_singleton]
    change (checkAddress ip >>= fun _ => pure ()) = checkAddress ip
    cases checkAddress ip <;> rfl
  rw [items, Item.checkAll, flag]
  rfl

theorem agrees_buildConnectToAgent (id : Int) :
    (buildConnectToAgent id).Agrees (connectToAgent id) :=
  .of_item (.agentId id) rfl rfl

theorem agrees_buildConnectToUIDevice (device : Text) :
    (buildConnectToUIDevice device).Agrees (connectToUIDevice device) :=
  .of_item (.text .deviceId device) rfl rfl

theorem agrees_buildPlayAnimation (name : Text) :
    (buildPlayAnimation name).Agrees (playAnimation name) :=
  .of_item (.text .animationName name) rfl rfl

theorem agrees_buildReadAnimationFile (path : Text) :
    (buildReadAnimationFile path).Agrees (readAnimationFile path) :=
  .of_item (.text .animationPath path) rfl rfl

/-! ## What follows -/

theorem encode_blank (kind : Kind) : ∃ bytes, (blank kind).encode = .ok bytes := by
  cases kind <;> exact ⟨_, rfl⟩

/-- Whatever a constructor hands back can be encoded. -/
theorem Built.Agrees.encode_message (h : b.Agrees m) : ∃ bytes, b.message.encode = .ok bytes := by
  by_cases failed : b.error = none
  · rw [h.literal failed]
    exact h.succeeds.1 failed
  · obtain ⟨kind, -, message⟩ := h.blank failed
    rw [message]
    exact encode_blank kind

theorem Built.Agrees.send_ne (h : b.Agrees m) (c : Channel) (e : Error) :
    (c.send b.message).error ≠ some (.encoding e) := by
  obtain ⟨bytes, encoded⟩ := h.encode_message
  intro refused
  simp only [Channel.send, encoded] at refused
  split at refused
  · split at refused <;> cases refused
  · cases refused

end Message

namespace Wiring

variable {χ π : Type}

theorem run_requestBuilt_of_error {b : Message.Built} {e : Message.Error}
    (failed : b.error = some e) (w : World χ π) :
    (requestBuilt b : Act χ π CallReply).run w = .ok (.built (some e), w) := by
  simp only [requestBuilt, failed]
  rfl

theorem run_requestBuilt_of_none {b : Message.Built} (built : b.error = none) (w : World χ π) :
    ∃ w', (requestBuilt b : Act χ π CallReply).run w = .ok (.built none, w') := by
  simp only [requestBuilt, built]
  exact ⟨_, rfl⟩

/-- A request whose constructor fails is refused with the error of the encoder. -/
theorem run_requestBuilt_iff {b : Message.Built} {m : Message} (h : b.Agrees m)
    {e : Message.Error} {w w' : World χ π} :
    (requestBuilt b : Act χ π CallReply).run w = .ok (.built (some e), w') ↔
      m.encode = .error e ∧ w' = w := by
  rw [← h.fails]
  cases failed : b.error with
  | none =>
    obtain ⟨w₁, done⟩ := run_requestBuilt_of_none failed w
    rw [done]
    simp
  | some reason =>
    rw [run_requestBuilt_of_error failed w]
    simp [eq_comm]

end Wiring

/-- Every constructor agrees with the encoder about the message that it is asked for, so a channel
never refuses what a constructor handed back as something that cannot be encoded. A session returns
an error for an animation or an animation file exactly if the request cannot be encoded, and then it
stays as it is, with everything around it. -/
theorem Message.constructors_match_encoder :
    ((∀ host, (buildStartEngine host).Agrees (startEngine host)) ∧
      (∀ id ip simulated,
        (buildForceAddAgent id ip simulated).Agrees (forceAddAgent id ip simulated)) ∧
      (∀ id, (buildConnectToAgent id).Agrees (connectToAgent id)) ∧
      (∀ device, (buildConnectToUIDevice device).Agrees (connectToUIDevice device)) ∧
      (∀ name, (buildPlayAnimation name).Agrees (playAnimation name)) ∧
      ∀ path, (buildReadAnimationFile path).Agrees (readAnimationFile path)) ∧
    (∀ (b : Built) (m : Message), b.Agrees m →
      ∀ (c : Channel) (e : Error), (c.send b.message).error ≠ some (.encoding e)) ∧
    ∀ (χ π ι : Type) (W : Wiring χ π ι) (w w' : World χ π) (e : Error),
      (∀ name, (W.perform (.sendAnimation name)).run w = .ok (.built (some e), w') ↔
        (playAnimation name).encode = .error e ∧ w' = w) ∧
      ∀ path, (W.perform (.readAnimationFile path)).run w = .ok (.built (some e), w') ↔
        (readAnimationFile path).encode = .error e ∧ w' = w :=
  ⟨⟨agrees_buildStartEngine, agrees_buildForceAddAgent, agrees_buildConnectToAgent,
      agrees_buildConnectToUIDevice, agrees_buildPlayAnimation, agrees_buildReadAnimationFile⟩,
    fun _ _ agrees => agrees.send_ne,
    fun _ _ _ _ _ _ _ =>
      ⟨fun name => Wiring.run_requestBuilt_iff (agrees_buildPlayAnimation name),
        fun path => Wiring.run_requestBuilt_iff (agrees_buildReadAnimationFile path)⟩⟩

end Teleop
