import Teleop.Proofs.Message.Layout

/-!
# What the codec promises

Writing keeps one byte of every text field for a terminating zero, reading does without it. So what
is written is read again, whatever follows it, but a text that was read from a field without a zero
byte cannot be written.

* `encode_round_trip`: reading what was written;
* `decode_grammar`: which bytes can be read, why others cannot, and what is read from them;
* `encode_of_decode`: writing what was read.
-/

namespace Teleop

/-! ## Tags -/

theorem Kind.tag_lt_applicationTag (kind : Kind) : kind.tag < applicationTag := by
  cases kind <;> decide

theorem Kind.ofTag?_eq_some {tag : UInt8} {kind : Kind} :
    ofTag? tag = some kind ↔ kind.tag = tag := by
  constructor
  · intro h
    have found := List.find?_some h
    simpa using found
  · rintro rfl
    cases kind <;> rfl

theorem Kind.ofTag?_eq_none {tag : UInt8} : ofTag? tag = none ↔ ∀ kind : Kind, kind.tag ≠ tag := by
  rw [Option.eq_none_iff_forall_ne_some]
  exact forall_congr' fun kind => not_congr ofTag?_eq_some

namespace Message

variable {m : Message} {kind : Kind} {tag : UInt8} {b body : Bytes}

theorem decode_application (h : applicationTag ≤ tag) (body : Bytes) :
    decode (tag :: body) = .ok (raw tag body) := by
  rw [decode, if_pos h]

theorem decode_tag (kind : Kind) (body : Bytes) :
    decode (kind.tag :: body) = decodeBody kind body := by
  have reserved := UInt8.not_le.2 kind.tag_lt_applicationTag
  rw [decode, if_neg reserved, Kind.ofTag?_eq_some.2 rfl]

theorem decode_unknown (reserved : tag < applicationTag) (h : ∀ kind : Kind, kind.tag ≠ tag)
    (body : Bytes) : decode (tag :: body) = .error (.unknownTag tag) := by
  rw [decode, if_neg (UInt8.not_le.2 reserved), Kind.ofTag?_eq_none.2 h]

/-! ## Reading by the layout -/

theorem decode_of_le (h : kind.bodySize ≤ body.length) :
    decode (kind.tag :: body) = .ok (ofItems kind (Slot.itemsIn kind.layout body)) := by
  rw [← Kind.total_layout] at h
  rw [decode_tag, decodeBody_eq, Slot.readAll_of_le h]
  rfl

theorem decode_of_lt (h : body.length < kind.bodySize) :
    ∃ e : Error, decode (kind.tag :: body) = .error e ∧ e.cause = .shortPayload := by
  rw [← Kind.total_layout] at h
  obtain ⟨e, he, cause⟩ := Slot.readAll_of_lt h
  refine ⟨e, ?_, cause⟩
  rw [decode_tag, decodeBody_eq, he]
  rfl

/-- What some bytes can open with. -/
inductive Opening : Bytes → Prop
  | nothing : Opening []
  | application {tag : UInt8} (h : applicationTag ≤ tag) (body : Bytes) : Opening (tag :: body)
  | whole (kind : Kind) {body : Bytes} (h : kind.bodySize ≤ body.length) :
    Opening (kind.tag :: body)
  | short (kind : Kind) {body : Bytes} (h : body.length < kind.bodySize) :
    Opening (kind.tag :: body)
  | unknown {tag : UInt8} (reserved : tag < applicationTag) (h : ∀ kind : Kind, kind.tag ≠ tag)
    (body : Bytes) : Opening (tag :: body)

theorem opening : ∀ b : Bytes, Opening b
  | [] => .nothing
  | tag :: body => by
    by_cases happ : applicationTag ≤ tag
    · exact .application happ body
    · cases hkind : Kind.ofTag? tag with
      | none => exact .unknown (UInt8.not_le.1 happ) (Kind.ofTag?_eq_none.1 hkind) body
      | some kind =>
        obtain rfl := Kind.ofTag?_eq_some.1 hkind
        rcases Nat.lt_or_ge body.length kind.bodySize with h | h
        · exact .short kind h
        · exact .whole kind h

/-- How a message was read: an application message takes all bytes, any other has the items that its
layout finds. -/
inductive Reading : Bytes → Message → Prop
  | application {tag : UInt8} (h : applicationTag ≤ tag) (body : Bytes) :
    Reading (tag :: body) (raw tag body)
  | whole {m : Message} {kind : Kind} {body : Bytes} (h : kind.bodySize ≤ body.length)
    (hkind : m.kind? = some kind) (hitems : m.items = Slot.itemsIn kind.layout body) :
    Reading (kind.tag :: body) m

theorem reading_of_decode (h : decode b = .ok m) : Reading b m := by
  cases opening b with
  | nothing => cases h
  | application happ body =>
    rw [decode_application happ] at h
    cases h
    exact .application happ body
  | @whole kind body hle =>
    obtain ⟨m', hkind, hitems⟩ := exists_of_map_slot (Slot.map_slot_itemsIn kind.layout body)
    rw [decode_of_le hle, ← hitems, ofItems_items hkind] at h
    cases h
    exact .whole hle hkind hitems
  | short kind hlt =>
    obtain ⟨e, he, -⟩ := decode_of_lt hlt
    cases he.symm.trans h
  | unknown reserved hne body =>
    rw [decode_unknown reserved hne] at h
    cases h

theorem Reading.head?_eq (h : Reading b m) : b.head? = some m.tag := by
  cases h with
  | application happ body => rfl
  | whole _ hkind _ => rw [tag_of_kind? hkind, List.head?_cons]

theorem Reading.sound (h : Reading b m) : ∀ item ∈ m.items, item.Sound := by
  cases h with
  | application happ body => nofun
  | whole _ _ hitems =>
    rw [hitems]
    exact fun _ => Slot.sound_of_mem_itemsIn

theorem exists_decode_iff : (∃ m, decode b = .ok m) ↔ ∃ tag body, b = tag :: body ∧
    (applicationTag ≤ tag ∨ ∃ kind : Kind, kind.tag = tag ∧ kind.bodySize ≤ body.length) := by
  constructor
  · rintro ⟨m, hm⟩
    cases reading_of_decode hm with
    | application happ body => exact ⟨_, body, rfl, .inl happ⟩
    | @whole _ kind body hle => exact ⟨_, body, rfl, .inr ⟨kind, rfl, hle⟩⟩
  · rintro ⟨_, body, rfl, happ | ⟨kind, rfl, hle⟩⟩
    · exact ⟨_, decode_application happ body⟩
    · exact ⟨_, decode_of_le hle⟩

theorem decode_short_iff : (∃ e, decode b = .error e ∧ e.cause = .shortPayload) ↔
    b = [] ∨ ∃ (kind : Kind) (body : Bytes),
      b = kind.tag :: body ∧ body.length < kind.bodySize := by
  constructor
  · rintro ⟨e, he, cause⟩
    cases opening b with
    | nothing => exact .inl rfl
    | application happ body => cases (decode_application happ body).symm.trans he
    | whole kind hle => cases (decode_of_le hle).symm.trans he
    | short kind hlt => exact .inr ⟨kind, _, rfl, hlt⟩
    | unknown reserved hne body =>
      cases (decode_unknown reserved hne body).symm.trans he
      cases cause
  · rintro (rfl | ⟨kind, body, rfl, hlt⟩)
    · exact ⟨.noBytes, rfl, rfl⟩
    · exact decode_of_lt hlt

theorem decode_unknown_iff : (∃ e, decode b = .error e ∧ e.cause = .unknownTag) ↔
    ∃ tag body, b = tag :: body ∧ tag < applicationTag ∧ ∀ kind : Kind, kind.tag ≠ tag := by
  constructor
  · rintro ⟨e, he, cause⟩
    cases opening b with
    | nothing =>
      cases he
      cases cause
    | application happ body => cases (decode_application happ body).symm.trans he
    | whole kind hle => cases (decode_of_le hle).symm.trans he
    | short kind hlt =>
      obtain ⟨e', he', cause'⟩ := decode_of_lt hlt
      cases he'.symm.trans he
      cases cause'.symm.trans cause
    | unknown reserved hne body => exact ⟨_, body, rfl, reserved, hne⟩
  · rintro ⟨tag, body, rfl, reserved, hne⟩
    exact ⟨_, decode_unknown reserved hne body, rfl⟩

/-- What follows the bytes of the layout does not count. -/
theorem decode_take (kind : Kind) (body : Bytes) :
    decode (kind.tag :: body.take kind.bodySize) = decode (kind.tag :: body) := by
  rcases Nat.le_total body.length kind.bodySize with h | h
  · rw [List.take_of_length_le h]
  · have size : (body.take kind.bodySize).length = kind.bodySize := List.length_take_of_le h
    have same :=
      Slot.itemsIn_append (kind.total_layout.trans size.symm).le (body.drop kind.bodySize)
    rw [List.take_append_drop] at same
    rw [decode_of_le size.ge, decode_of_le h, same]

/-! ## Writing by the layout -/

theorem encode_eq (h : m.kind? = some kind) :
    m.encode = (fun _ => kind.tag :: Item.bytesOf m.items) <$> Item.checkAll m.items := by
  rw [encode, encodeBody_eq h, tag_of_kind? h]
  simp

theorem length_bytesOf_items (hkind : m.kind? = some kind)
    (passed : Item.checkAll m.items = .ok ()) : (Item.bytesOf m.items).length = kind.bodySize := by
  rw [Item.length_bytesOf passed, map_slot_items hkind, Kind.total_layout]

/-- How a message was written. -/
inductive Writing : Message → Bytes → Prop
  | application {tag : UInt8} (h : applicationTag ≤ tag) (payload : Bytes) :
    Writing (raw tag payload) (tag :: payload)
  | whole {m : Message} {kind : Kind} (hkind : m.kind? = some kind)
    (passed : Item.checkAll m.items = .ok ()) : Writing m (kind.tag :: Item.bytesOf m.items)

theorem writing_of_encode (h : m.encode = .ok b) : Writing m b := by
  cases hkind : m.kind? with
  | some kind =>
    rw [encode_eq hkind] at h
    cases passed : Item.checkAll m.items with
    | error e =>
      rw [passed] at h
      cases h
    | ok =>
      rw [passed] at h
      cases h
      exact .whole hkind passed
  | none =>
    cases m with
    | raw tag payload =>
      rw [encode, encodeBody] at h
      split at h
      · cases h
      next happ =>
        cases h
        exact .application (UInt8.not_lt.1 happ) payload
    | foreign => cases h
    | _ => cases hkind

/-! ## What becomes of a message -/

/-- The message with each of its texts changed. -/
def mapTexts (f : Text → Text) : Message → Message
  | startEngine host => startEngine (f host)
  | forceAddAgent id ip simulated => forceAddAgent id (f ip) simulated
  | connectToAgent id => connectToAgent id
  | connectToUIDevice device => connectToUIDevice (f device)
  | agentAvailable id ip => agentAvailable id (f ip)
  | uiDeviceAvailable device => uiDeviceAvailable (f device)
  | agentStatus id mode => agentStatus id (f mode)
  | playAnimation name => playAnimation (f name)
  | readAnimationFile path => readAnimationFile (f path)
  | raw kind payload => raw kind payload
  | foreign kind typeName => foreign kind typeName

/-- What is read when some bytes follow a message: its texts end at their first zero byte, and an
application message takes the bytes that follow as its own. -/
def received (extra : Bytes) : Message → Message
  | raw kind payload => raw kind (payload ++ extra)
  | m => m.mapTexts cutAtZero

def texts (m : Message) : List Text :=
  m.items.filterMap Item.text?

/-- No text of the message has a zero byte. -/
abbrev ZeroFree (m : Message) : Prop :=
  ∀ t ∈ m.texts, 0 ∉ t

theorem received_of_kind? (h : m.kind? = some kind) (extra : Bytes) :
    m.received extra = m.mapTexts cutAtZero := by
  cases m <;> first | rfl | cases h

theorem ofItems_cut (h : m.kind? = some kind) :
    ofItems kind (m.items.map Item.cut) = m.mapTexts cutAtZero := by
  cases m <;> cases h <;> rfl

theorem ZeroFree.mapTexts_eq (h : m.ZeroFree) : m.mapTexts cutAtZero = m := by
  cases m <;> simp_all [ZeroFree, texts, items, Item.text?, mapTexts, cutAtZero_eq_self]

theorem ZeroFree.received_nil (h : m.ZeroFree) : m.received [] = m := by
  cases m <;> first | exact h.mapTexts_eq | rw [received, List.append_nil]

theorem decode_append (h : Writing m b) (extra : Bytes) :
    decode (b ++ extra) = .ok (m.received extra) := by
  cases h with
  | application happ payload => exact decode_application happ _
  | @whole _ kind hkind passed =>
    have size := length_bytesOf_items hkind passed
    have enough : kind.bodySize ≤ (Item.bytesOf m.items ++ extra).length := by
      rw [List.length_append]
      omega
    rw [List.cons_append, decode_of_le enough, ← map_slot_items hkind,
      Item.itemsIn_bytesOf passed, ofItems_cut hkind, received_of_kind? hkind]

/-- What was written is read again, whatever follows it. If no text has a zero byte, then a message
of a fixed kind comes back as it was, and no other such message is written in the same way. -/
theorem encode_round_trip (h : m.encode = .ok b) :
    (∀ extra, decode (b ++ extra) = .ok (m.received extra)) ∧
    (m.ZeroFree →
      (∀ kind, m.kind? = some kind → ∀ extra, decode (b ++ extra) = .ok m) ∧
      ∀ m' : Message, m'.ZeroFree → m'.encode = .ok b → m' = m) := by
  have written := writing_of_encode h
  refine ⟨decode_append written, fun free => ⟨fun kind hkind extra => ?_, fun m' free' h' => ?_⟩⟩
  · rw [decode_append written, received_of_kind? hkind, free.mapTexts_eq]
  · -- Both messages are what is read from the same bytes.
    have back := decode_append written []
    have back' := decode_append (writing_of_encode h') []
    rw [free.received_nil] at back
    rw [free'.received_nil] at back'
    exact Except.ok.inj (back'.symm.trans back)

/-- An address with a zero byte in it, and a mode that leaves room for the terminating zero only. -/
theorem encode_round_trip_at_limits :
    (∃ b, (forceAddAgent 255 [49, 0, 50] true).encode = .ok b ∧
      decode (b ++ [9]) = .ok (forceAddAgent 255 [49] true)) ∧
    ∃ b, (agentStatus 0 (List.replicate 31 7)).encode = .ok b ∧
      (agentStatus 0 (List.replicate 31 7)).ZeroFree ∧
      decode (b ++ [9]) = .ok (agentStatus 0 (List.replicate 31 7)) := by
  constructor
  · have written : (forceAddAgent 255 [49, 0, 50] true).encode = .ok _ := rfl
    exact ⟨_, written, (encode_round_trip written).1 [9]⟩
  · have written : (agentStatus 0 (List.replicate 31 7)).encode = .ok _ := rfl
    have free : (agentStatus 0 (List.replicate 31 7)).ZeroFree := by decide
    exact ⟨_, written, free, ((encode_round_trip written).2 free).1 .agentStatus rfl [9]⟩

/-- Bytes can be read if they are an application tag with anything after it, or the tag of a kind
with at least the bytes of its layout; otherwise they are too short or the tag is unknown. What is
read depends on the tag and the bytes of the layout only and has that tag, an agent id in its range,
and texts without a zero byte that are no longer than their fields. What is written has exactly the
tag and the bytes of the layout. -/
theorem decode_grammar (b : Bytes) :
    ((∃ m, decode b = .ok m) ↔ ∃ tag body, b = tag :: body ∧
      (applicationTag ≤ tag ∨ ∃ kind : Kind, kind.tag = tag ∧ kind.bodySize ≤ body.length)) ∧
    ((∃ e, decode b = .error e ∧ e.cause = .shortPayload) ↔
      b = [] ∨ ∃ (kind : Kind) (body : Bytes), b = kind.tag :: body ∧ body.length < kind.bodySize) ∧
    ((∃ e, decode b = .error e ∧ e.cause = .unknownTag) ↔
      ∃ tag body, b = tag :: body ∧ tag < applicationTag ∧ ∀ kind : Kind, kind.tag ≠ tag) ∧
    (∀ (kind : Kind) (body : Bytes),
      decode (kind.tag :: body) = decode (kind.tag :: body.take kind.bodySize)) ∧
    (∀ m, decode b = .ok m → b.head? = some m.tag ∧ ∀ item ∈ m.items, item.Sound) ∧
    (∀ (m : Message) (kind : Kind), m.kind? = some kind → m.encode = .ok b →
      b.length = 1 + kind.bodySize) := by
  refine ⟨exists_decode_iff, decode_short_iff, decode_unknown_iff, ?_, ?_, ?_⟩
  · exact fun kind body => (decode_take kind body).symm
  · exact fun m hm => ⟨(reading_of_decode hm).head?_eq, (reading_of_decode hm).sound⟩
  · intro m kind hkind hm
    cases writing_of_encode hm with
    | application => cases hkind
    | whole hkind' passed =>
      cases hkind.symm.trans hkind'
      rw [List.length_cons, length_bytesOf_items hkind passed, Nat.add_comm]

/-! ## Writing what was read -/

/-- The bytes of the text fields that an encoded message has by its layout. -/
def textFields : Bytes → List Bytes
  | [] => []
  | tag :: body =>
    match Kind.ofTag? tag with
    | some kind => Slot.textsIn kind.layout body
    | none => []

theorem textFields_tag (kind : Kind) (body : Bytes) :
    textFields (kind.tag :: body) = Slot.textsIn kind.layout body := by
  rw [textFields, Kind.ofTag?_eq_some.2 rfl]

theorem textFields_application (h : applicationTag ≤ tag) (body : Bytes) :
    textFields (tag :: body) = [] := by
  have unknown (kind : Kind) : kind.tag ≠ tag := by
    rintro rfl
    exact UInt8.not_le.2 kind.tag_lt_applicationTag h
  rw [textFields, Kind.ofTag?_eq_none.2 unknown]

theorem Reading.zeroFree (h : Reading b m) : m.ZeroFree := by
  intro t ht
  obtain ⟨item, hitem, text⟩ := List.mem_filterMap.1 ht
  have sound := h.sound item hitem
  cases item with
  | text f t' =>
    cases text
    exact sound.1
  | _ => cases text

/-- What was read can be written unless a text filled its field. -/
theorem Reading.encode_cases (h : Reading b m) :
    (∃ c, m.encode = .ok c) ∧ (∀ t ∈ textFields b, 0 ∈ t) ∨
      (∃ e, m.encode = .error e ∧ e.cause = .fieldTooLong) ∧ ∃ t ∈ textFields b, 0 ∉ t := by
  cases h with
  | @application tag happ body =>
    rw [textFields_application happ]
    refine .inl ⟨⟨tag :: body, ?_⟩, nofun⟩
    rw [encode, encodeBody, if_neg (UInt8.not_lt.2 happ)]
    rfl
  | @whole _ kind body hle hkind hitems =>
    rw [textFields_tag, encode_eq hkind, hitems]
    have passes := Slot.checkAll_itemsIn (kind.total_layout.trans_le hle)
    cases checked : Item.checkAll (Slot.itemsIn kind.layout body) with
    | ok => exact .inl ⟨⟨_, rfl⟩, passes.1 checked⟩
    | error e =>
      refine .inr ⟨⟨e, rfl, Slot.cause_of_checkAll_itemsIn checked⟩, ?_⟩
      by_contra none
      have passed := passes.2 (by simpa using none)
      cases passed.symm.trans checked

/-- What was read can be written again if every text field has a zero byte, and only then; otherwise
a text is too long for its field. What is written comes back as the same message, so that reading
and writing a second time changes nothing. -/
theorem encode_of_decode (h : decode b = .ok m) :
    ((∃ c, m.encode = .ok c) ↔ ∀ t ∈ textFields b, 0 ∈ t) ∧
    ((¬∀ t ∈ textFields b, 0 ∈ t) → ∃ e, m.encode = .error e ∧ e.cause = .fieldTooLong) ∧
    ∀ c, m.encode = .ok c → decode c = .ok m ∧ (decode c >>= encode) = .ok c := by
  have read := reading_of_decode h
  refine ⟨?_, ?_, fun c hc => ?_⟩
  · rcases read.encode_cases with ⟨written, zeros⟩ | ⟨⟨e, he, -⟩, t, ht, nonzero⟩
    · exact iff_of_true written zeros
    · refine iff_of_false ?_ fun zeros => nonzero (zeros t ht)
      rintro ⟨c, hc⟩
      cases hc.symm.trans he
  · intro unterminated
    rcases read.encode_cases with ⟨-, zeros⟩ | ⟨tooLong, -⟩
    · exact absurd zeros unterminated
    · exact tooLong
  · have back := decode_append (writing_of_encode hc) []
    rw [List.append_nil, read.zeroFree.received_nil] at back
    refine ⟨back, ?_⟩
    rw [back]
    exact hc

/-- An announcement whose address ends after one byte, and a device whose name fills its field. -/
theorem encode_of_decode_at_limits :
    (∃ c, decode (10 :: 7 :: 49 :: 0 :: List.replicate 70 1) = .ok (agentAvailable 7 [49]) ∧
      (agentAvailable 7 [49]).encode = .ok c ∧ decode c = .ok (agentAvailable 7 [49]) ∧
      (decode c >>= encode) = .ok c) ∧
    ∃ e, decode (11 :: List.replicate 32 1) = .ok (uiDeviceAvailable (List.replicate 32 1)) ∧
      (uiDeviceAvailable (List.replicate 32 1)).encode = .error e ∧ e.cause = .fieldTooLong := by
  constructor
  · have read :
        decode (10 :: 7 :: 49 :: 0 :: List.replicate 70 1) = .ok (agentAvailable 7 [49]) := by
      decide +kernel
    obtain ⟨terminated, -, again⟩ := encode_of_decode read
    obtain ⟨c, hc⟩ := terminated.2 (by decide +kernel)
    exact ⟨c, read, hc, again c hc⟩
  · have read :
        decode (11 :: List.replicate 32 1) = .ok (uiDeviceAvailable (List.replicate 32 1)) := by
      decide +kernel
    obtain ⟨-, unterminated, -⟩ := encode_of_decode read
    obtain ⟨e, he⟩ := unterminated (by decide +kernel)
    exact ⟨e, read, he⟩

end Message

end Teleop
