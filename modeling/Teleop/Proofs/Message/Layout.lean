import Mathlib.Data.List.TakeWhile
import Teleop.Message.Codec

/-!
# Layouts of messages

A message of a fixed kind is a row of items, each in a slot of fixed size: an agent id, a flag or a
text. `Kind.layout` lists the slots of a kind, `Message.items` what a message puts into them, and
`encodeBody_eq` and `decodeBody_eq` say that both directions of the codec follow the layout. What
has to be known about rows is then shown slot by slot:

* `Slot.readAll_of_le`, `Slot.readAll_of_lt`: a row is read if and only if there are bytes enough,
  and what is read are the items that `Slot.itemsIn` finds;
* `Item.itemsIn_bytesOf`: what was written is found, with the texts cut at their first zero byte;
* `Slot.checkAll_itemsIn`: when what was found can be written again.
-/

namespace Teleop

/-! ## Byte strings with a terminating zero -/

theorem zero_notMem_cutAtZero (b : Bytes) : 0 ∉ cutAtZero b := by
  intro h
  have nonzero := List.mem_takeWhile_imp h
  simp at nonzero

theorem cutAtZero_eq_self {b : Bytes} (h : 0 ∉ b) : cutAtZero b = b := by
  unfold cutAtZero
  rw [List.takeWhile_eq_self_iff]
  intro c hc
  have nonzero : c ≠ 0 := fun h' => h (h' ▸ hc)
  simpa using nonzero

theorem length_cutAtZero_le (b : Bytes) : (cutAtZero b).length ≤ b.length :=
  (List.takeWhile_sublist _).length_le

/-- Cutting makes a text shorter if and only if there is a zero byte to cut at. -/
theorem length_cutAtZero_lt_iff (b : Bytes) : (cutAtZero b).length < b.length ↔ 0 ∈ b := by
  constructor
  · intro h
    by_contra hz
    rw [cutAtZero_eq_self hz] at h
    omega
  · intro h
    refine Nat.lt_of_le_of_ne (length_cutAtZero_le b) fun same => ?_
    have whole : cutAtZero b = b := (List.takeWhile_sublist _).eq_of_length same
    rw [← whole] at h
    exact zero_notMem_cutAtZero b h

/-- The zero bytes that fill up a field are cut off again. -/
theorem cutAtZero_padTo (n : Nat) (b : Bytes) : cutAtZero (padTo n b) = cutAtZero b := by
  unfold cutAtZero padTo
  generalize n - b.length = k
  induction b with
  | nil => simp
  | cons c b ih =>
    by_cases hc : c = 0
    · simp [hc]
    · simpa [hc] using ih

namespace Message

/-! ## Slots and items -/

/-- A place of fixed size in an encoded message. -/
inductive Slot where
  | agentId
  | flag
  | text (f : TextField)
  deriving DecidableEq, Repr

/-- What stands in a slot. -/
inductive Item where
  | agentId (id : Int)
  | flag (value : Bool)
  | text (f : TextField) (t : Text)
  deriving DecidableEq, Repr

namespace Slot

def size : Slot → Nat
  | agentId | flag => 1
  | text f => f.size

/-- The size of a row of slots. -/
def total : List Slot → Nat
  | [] => 0
  | s :: rest => s.size + total rest

/-- Reads the item of a slot; the bytes after the slot are returned. -/
def read (b : Bytes) : Slot → Except Error (Item × Bytes)
  | agentId => do
    let (byte, rest) ← readByte b
    return (.agentId byte.toNat, rest)
  | flag => do
    let (byte, rest) ← readByte b
    return (.flag (byte != 0), rest)
  | text f => do
    let (t, rest) ← readText f b
    return (.text f t, rest)

/-- Reads the items of a row of slots one after the other. -/
def readAll : List Slot → Bytes → Except Error (List Item)
  | [], _ => return []
  | s :: rest, b => do
    let (item, b) ← s.read b
    let items ← readAll rest b
    return item :: items

/-- The item at the front of some bytes that are long enough for it. -/
def item (b : Bytes) : Slot → Item
  | agentId => .agentId (b.headD 0).toNat
  | flag => .flag (b.headD 0 != 0)
  | text f => .text f (cutAtZero (b.take f.size))

/-- The items at the front of some bytes that are long enough for all of them. -/
def itemsIn : List Slot → Bytes → List Item
  | [], _ => []
  | s :: rest, b => s.item b :: itemsIn rest (b.drop s.size)

/-- The bytes of a text field at the front of some bytes. -/
def textIn (b : Bytes) : Slot → Option Bytes
  | agentId | flag => none
  | text f => some (b.take f.size)

/-- The bytes of the text fields in a row of slots. -/
def textsIn : List Slot → Bytes → List Bytes
  | [], _ => []
  | s :: rest, b => (s.textIn b).toList ++ textsIn rest (b.drop s.size)

end Slot

namespace Item

def slot : Item → Slot
  | agentId _ => .agentId
  | flag _ => .flag
  | text f _ => .text f

def check : Item → Except Error Unit
  | agentId id => checkAgentId id
  | flag _ => return
  | text f t => checkText f t

def bytes : Item → Bytes
  | agentId id => [idByte id]
  | flag value => [flagByte value]
  | text f t => padTo f.size t

/-- The item with its text, if it has one, cut at the first zero byte. -/
def cut : Item → Item
  | text f t => text f (cutAtZero t)
  | item => item

def text? : Item → Option Text
  | text _ t => some t
  | agentId _ | flag _ => none

/-- What is known of an item that was read. -/
def Sound : Item → Prop
  | agentId id => minAgentId ≤ id ∧ id ≤ maxAgentId
  | flag _ => True
  | text f t => 0 ∉ t ∧ t.length ≤ f.size

def checkAll : List Item → Except Error Unit
  | [] => return
  | item :: rest => do
    item.check
    checkAll rest

def bytesOf (items : List Item) : Bytes :=
  items.flatMap bytes

end Item

end Message

/-- The slots of a kind, in their order. -/
def Kind.layout : Kind → List Message.Slot
  | startEngine => [.text .address]
  | forceAddAgent => [.agentId, .text .address, .flag]
  | connectToAgent => [.agentId]
  | connectToUIDevice => [.text .deviceId]
  | agentAvailable => [.agentId, .text .address]
  | uiDeviceAvailable => [.text .deviceId]
  | agentStatus => [.agentId, .text .mode]
  | playAnimation => [.text .animationName]
  | readAnimationFile => [.text .animationPath]

theorem Kind.total_layout (kind : Kind) : Message.Slot.total kind.layout = kind.bodySize := by
  cases kind <;> rfl

namespace Message

/-- The fields of a message of a fixed kind, in the order of its layout. -/
def items : Message → List Item
  | startEngine host => [.text .address host]
  | forceAddAgent id ip simulated => [.agentId id, .text .address ip, .flag simulated]
  | connectToAgent id => [.agentId id]
  | connectToUIDevice device => [.text .deviceId device]
  | agentAvailable id ip => [.agentId id, .text .address ip]
  | uiDeviceAvailable device => [.text .deviceId device]
  | agentStatus id mode => [.agentId id, .text .mode mode]
  | playAnimation name => [.text .animationName name]
  | readAnimationFile path => [.text .animationPath path]
  | raw .. | foreign .. => []

/-- The message of a kind with the given fields; the blank one if they do not fit its layout. -/
def ofItems : Kind → List Item → Message
  | .startEngine, [.text _ host] => startEngine host
  | .forceAddAgent, [.agentId id, .text _ ip, .flag simulated] => forceAddAgent id ip simulated
  | .connectToAgent, [.agentId id] => connectToAgent id
  | .connectToUIDevice, [.text _ device] => connectToUIDevice device
  | .agentAvailable, [.agentId id, .text _ ip] => agentAvailable id ip
  | .uiDeviceAvailable, [.text _ device] => uiDeviceAvailable device
  | .agentStatus, [.agentId id, .text _ mode] => agentStatus id mode
  | .playAnimation, [.text _ name] => playAnimation name
  | .readAnimationFile, [.text _ path] => readAnimationFile path
  | kind, _ => blank kind

variable {m : Message} {kind : Kind} {items : List Item}

theorem map_slot_items (h : m.kind? = some kind) : m.items.map Item.slot = kind.layout := by
  cases m <;> cases h <;> rfl

theorem ofItems_items (h : m.kind? = some kind) : ofItems kind m.items = m := by
  cases m <;> cases h <;> rfl

@[simp] theorem Item.slot_eq_agentId {i : Item} : i.slot = .agentId ↔ ∃ id, i = .agentId id := by
  cases i <;> simp [slot]

@[simp] theorem Item.slot_eq_flag {i : Item} : i.slot = .flag ↔ ∃ value, i = .flag value := by
  cases i <;> simp [slot]

@[simp] theorem Item.slot_eq_text {i : Item} {f : TextField} :
    i.slot = .text f ↔ ∃ t, i = .text f t := by
  cases i <;> simp [slot, eq_comm]

/-- Items that fit the layout of a kind are those of a message. -/
theorem exists_of_map_slot (h : items.map Item.slot = kind.layout) :
    ∃ m : Message, m.kind? = some kind ∧ m.items = items := by
  cases kind <;> simp only [Kind.layout, List.map_eq_cons_iff, List.map_eq_nil_iff,
    Item.slot_eq_agentId, Item.slot_eq_flag, Item.slot_eq_text] at h
  case startEngine =>
    obtain ⟨_, _, rfl, ⟨host, rfl⟩, rfl⟩ := h
    exact ⟨startEngine host, rfl, rfl⟩
  case forceAddAgent =>
    obtain ⟨_, _, rfl, ⟨id, rfl⟩, _, _, rfl, ⟨ip, rfl⟩, _, _, rfl, ⟨simulated, rfl⟩, rfl⟩ := h
    exact ⟨forceAddAgent id ip simulated, rfl, rfl⟩
  case connectToAgent =>
    obtain ⟨_, _, rfl, ⟨id, rfl⟩, rfl⟩ := h
    exact ⟨connectToAgent id, rfl, rfl⟩
  case connectToUIDevice =>
    obtain ⟨_, _, rfl, ⟨device, rfl⟩, rfl⟩ := h
    exact ⟨connectToUIDevice device, rfl, rfl⟩
  case agentAvailable =>
    obtain ⟨_, _, rfl, ⟨id, rfl⟩, _, _, rfl, ⟨ip, rfl⟩, rfl⟩ := h
    exact ⟨agentAvailable id ip, rfl, rfl⟩
  case uiDeviceAvailable =>
    obtain ⟨_, _, rfl, ⟨device, rfl⟩, rfl⟩ := h
    exact ⟨uiDeviceAvailable device, rfl, rfl⟩
  case agentStatus =>
    obtain ⟨_, _, rfl, ⟨id, rfl⟩, _, _, rfl, ⟨mode, rfl⟩, rfl⟩ := h
    exact ⟨agentStatus id mode, rfl, rfl⟩
  case playAnimation =>
    obtain ⟨_, _, rfl, ⟨name, rfl⟩, rfl⟩ := h
    exact ⟨playAnimation name, rfl, rfl⟩
  case readAnimationFile =>
    obtain ⟨_, _, rfl, ⟨path, rfl⟩, rfl⟩ := h
    exact ⟨readAnimationFile path, rfl, rfl⟩

theorem tag_of_kind? (h : m.kind? = some kind) : m.tag = kind.tag := by
  cases m <;> cases h <;> rfl

/-! ## Both directions follow the layout -/

theorem encodeBody_eq (h : m.kind? = some kind) :
    m.encodeBody = (fun _ => Item.bytesOf m.items) <$> Item.checkAll m.items := by
  cases m <;> cases h <;>
    simp [encodeBody, Message.items, Item.checkAll, Item.check, Item.bytesOf, Item.bytes,
      checkAddress]

theorem decodeBody_eq (kind : Kind) (body : Bytes) :
    decodeBody kind body = ofItems kind <$> Slot.readAll kind.layout body := by
  cases kind <;> simp [decodeBody, Kind.layout, Slot.readAll, Slot.read, ofItems]

/-! ## Reading -/

namespace Slot

variable {s : Slot} {slots : List Slot} {b : Bytes}

theorem size_pos (s : Slot) : 0 < s.size := by
  cases s with
  | text f => cases f <;> decide
  | _ => decide

theorem slot_item (s : Slot) (b : Bytes) : (s.item b).slot = s := by
  cases s <;> rfl

theorem map_slot_itemsIn (slots : List Slot) (b : Bytes) :
    (itemsIn slots b).map Item.slot = slots := by
  induction slots generalizing b with
  | nil => rfl
  | cons s rest ih => rw [itemsIn, List.map_cons, slot_item, ih]

theorem sound_item (s : Slot) (b : Bytes) : (s.item b).Sound := by
  cases s with
  | agentId =>
    have below := (b.headD 0).toNat_lt
    simp only [item, Item.Sound, minAgentId, maxAgentId]
    omega
  | flag => trivial
  | text f =>
    have short := length_cutAtZero_le (b.take f.size)
    rw [List.length_take] at short
    exact ⟨zero_notMem_cutAtZero _, by omega⟩

theorem sound_of_mem_itemsIn {i : Item} (h : i ∈ itemsIn slots b) : i.Sound := by
  induction slots generalizing b with
  | nil => cases h
  | cons s rest ih =>
    rcases List.mem_cons.1 h with rfl | h
    · exact sound_item s b
    · exact ih h

/-- What stands after a slot does not count. -/
theorem item_append (h : s.size ≤ b.length) (extra : Bytes) : s.item (b ++ extra) = s.item b := by
  cases b with
  | nil => exact absurd s.size_pos (Nat.not_lt.2 h)
  | cons byte rest =>
    cases s with
    | agentId => rfl
    | flag => rfl
    | text f =>
      rw [size] at h
      rw [item, item, List.take_append_of_le_length h]

theorem itemsIn_append (h : total slots ≤ b.length) (extra : Bytes) :
    itemsIn slots (b ++ extra) = itemsIn slots b := by
  induction slots generalizing b with
  | nil => rfl
  | cons s rest ih =>
    rw [total] at h
    have enough : total rest ≤ (b.drop s.size).length := by
      rw [List.length_drop]
      omega
    rw [itemsIn, itemsIn, item_append (by omega), List.drop_append_of_le_length (by omega),
      ih enough]

theorem read_of_le (h : s.size ≤ b.length) : s.read b = .ok (s.item b, b.drop s.size) := by
  cases s with
  | agentId =>
    cases b with
    | nil => cases h
    | cons byte rest => rfl
  | flag =>
    cases b with
    | nil => cases h
    | cons byte rest => rfl
  | text f =>
    rw [size] at h
    rw [read, readText, if_neg (Nat.not_lt.2 h)]
    rfl

theorem read_of_lt (h : b.length < s.size) :
    ∃ e : Error, s.read b = .error e ∧ e.cause = .shortPayload := by
  cases s with
  | text f =>
    rw [size] at h
    rw [read, readText, if_pos h]
    exact ⟨_, rfl, rfl⟩
  | _ =>
    obtain rfl : b = [] := List.eq_nil_of_length_eq_zero (Nat.lt_one_iff.1 h)
    exact ⟨.shortByte, rfl, rfl⟩

theorem readAll_of_le (h : total slots ≤ b.length) : readAll slots b = .ok (itemsIn slots b) := by
  induction slots generalizing b with
  | nil => rfl
  | cons s rest ih =>
    rw [total] at h
    have enough : total rest ≤ (b.drop s.size).length := by
      rw [List.length_drop]
      omega
    rw [readAll, read_of_le (by omega)]
    change (do let items ← readAll rest (b.drop s.size); return s.item b :: items) = _
    rw [ih enough]
    rfl

theorem readAll_of_lt (h : b.length < total slots) :
    ∃ e : Error, readAll slots b = .error e ∧ e.cause = .shortPayload := by
  induction slots generalizing b with
  | nil => cases h
  | cons s rest ih =>
    rw [total] at h
    rw [readAll]
    -- Either the first slot has too few bytes, or it is read and a later one has.
    by_cases hs : b.length < s.size
    · obtain ⟨e, he, cause⟩ := read_of_lt hs
      exact ⟨e, by rw [he]; rfl, cause⟩
    · have short : (b.drop s.size).length < total rest := by
        rw [List.length_drop]
        omega
      obtain ⟨e, he, cause⟩ := ih short
      rw [read_of_le (by omega)]
      refine ⟨e, ?_, cause⟩
      change (do let items ← readAll rest (b.drop s.size); return s.item b :: items) = _
      rw [he]
      rfl

end Slot

/-! ## Writing -/

theorem checkAgentId_eq_ok {id : Int} :
    checkAgentId id = .ok () ↔ minAgentId ≤ id ∧ id ≤ maxAgentId := by
  unfold checkAgentId
  split <;> simp <;> omega

theorem checkText_eq_ok {f : TextField} {t : Text} :
    checkText f t = .ok () ↔ t.length < f.size := by
  have positive := (Slot.text f).size_pos
  rw [Slot.size] at positive
  unfold checkText TextField.limit
  split <;> simp <;> omega

namespace Item

variable {i : Item} {items : List Item}

theorem checkAll_eq_ok : checkAll items = .ok () ↔ ∀ i ∈ items, i.check = .ok () := by
  induction items with
  | nil => simp [checkAll, pure, Except.pure]
  | cons i rest ih =>
    rw [checkAll, List.forall_mem_cons, ← ih]
    cases i.check with
    | ok => simp [bind, Except.bind]
    | error e => simp [bind, Except.bind]

/-- The first item that fails its check decides. -/
theorem exists_of_checkAll_eq_error {e : Error} (h : checkAll items = .error e) :
    ∃ i ∈ items, i.check = .error e := by
  induction items with
  | nil => cases h
  | cons i rest ih =>
    rw [checkAll] at h
    cases hi : i.check with
    | ok =>
      rw [hi] at h
      obtain ⟨j, hj, he⟩ := ih h
      exact ⟨j, List.mem_cons_of_mem _ hj, he⟩
    | error e' =>
      rw [hi] at h
      cases h
      exact ⟨i, List.mem_cons_self, hi⟩

theorem length_bytes (h : i.check = .ok ()) : i.bytes.length = i.slot.size := by
  cases i with
  | agentId id => rfl
  | flag value => rfl
  | text f t => exact length_padTo (Nat.le_of_lt (checkText_eq_ok.1 h))

theorem length_bytesOf (h : checkAll items = .ok ()) :
    (bytesOf items).length = Slot.total (items.map slot) := by
  rw [checkAll_eq_ok] at h
  unfold bytesOf
  induction items with
  | nil => rfl
  | cons i rest ih =>
    rw [List.forall_mem_cons] at h
    rw [List.flatMap_cons, List.length_append, length_bytes h.1, ih h.2, List.map_cons, Slot.total]

/-- An item that was written is read, apart from what stands after the first zero byte. -/
theorem item_bytes (h : i.check = .ok ()) (rest : Bytes) :
    i.slot.item (i.bytes ++ rest) = i.cut := by
  cases i with
  | agentId id =>
    obtain ⟨least, greatest⟩ := checkAgentId_eq_ok.1 h
    simp only [minAgentId] at least
    simp only [maxAgentId] at greatest
    simp only [slot, bytes, Slot.item, cut, idByte, List.cons_append, List.headD_cons,
      UInt8.toNat_ofNat', agentId.injEq]
    omega
  | flag value => cases value <;> rfl
  | text f t =>
    have size : (padTo f.size t).length = f.size := length_bytes h
    rw [Slot.item_append (length_bytes h).ge]
    simp only [slot, bytes, Slot.item, cut]
    rw [List.take_of_length_le size.le, cutAtZero_padTo]

theorem itemsIn_bytesOf (h : checkAll items = .ok ()) (rest : Bytes) :
    Slot.itemsIn (items.map slot) (bytesOf items ++ rest) = items.map cut := by
  rw [checkAll_eq_ok] at h
  induction items with
  | nil => rfl
  | cons i items ih =>
    rw [List.forall_mem_cons] at h
    rw [List.map_cons, Slot.itemsIn, bytesOf, List.flatMap_cons, List.append_assoc, item_bytes h.1,
      List.drop_left' (length_bytes h.1), List.map_cons]
    exact congrArg _ (ih h.2)

end Item

/-! ## Writing what was read -/

namespace Slot

variable {s : Slot} {slots : List Slot} {b : Bytes}

/-- A text that was read can be written again if its field had a terminating zero. -/
theorem check_item (h : s.size ≤ b.length) :
    (s.item b).check = .ok () ↔ ∀ t ∈ s.textIn b, 0 ∈ t := by
  cases s with
  | agentId =>
    have passes : (agentId.item b).check = .ok () := checkAgentId_eq_ok.2 (sound_item agentId b)
    simp [textIn, passes]
  | flag => simp [textIn, item, Item.check, pure, Except.pure]
  | text f =>
    rw [size] at h
    -- The field has its full size, so its text is shorter only if it was cut.
    have full : (b.take f.size).length = f.size := List.length_take_of_le h
    have cut := length_cutAtZero_lt_iff (b.take f.size)
    rw [full] at cut
    simpa [textIn, item, Item.check, checkText_eq_ok] using cut

theorem checkAll_itemsIn (h : total slots ≤ b.length) :
    Item.checkAll (itemsIn slots b) = .ok () ↔ ∀ t ∈ textsIn slots b, 0 ∈ t := by
  rw [Item.checkAll_eq_ok]
  induction slots generalizing b with
  | nil => simp [itemsIn, textsIn]
  | cons s rest ih =>
    rw [total] at h
    have enough : total rest ≤ (b.drop s.size).length := by
      rw [List.length_drop]
      omega
    rw [itemsIn, textsIn, List.forall_mem_cons, List.forall_mem_append, ih enough,
      check_item (by omega)]
    simp

/-- Only a text that fills its field stands in the way. -/
theorem cause_of_checkAll_itemsIn {e : Error} (h : Item.checkAll (itemsIn slots b) = .error e) :
    e.cause = .fieldTooLong := by
  obtain ⟨i, hi, he⟩ := Item.exists_of_checkAll_eq_error h
  have sound := sound_of_mem_itemsIn hi
  cases i with
  | agentId id =>
    have ok : checkAgentId id = .ok () := checkAgentId_eq_ok.2 sound
    cases ok.symm.trans he
  | flag value => cases he
  | text f t =>
    simp only [Item.check, checkText] at he
    split at he
    · cases he
      rfl
    · cases he

end Slot

end Message

end Teleop
