import Mathlib.Data.List.TakeWhile
import Teleop.Frame
import Teleop.Proofs.Message.Layout

/-!
# Reading stays inside

Messages and frames are read by cutting parts out of the bytes. `part?` cuts out a part only if it
lies inside, so that reading written with it gives no result if one part does not. Reading always
gives a result, since it looks at the length of the bytes first.

* `Message.decodeParts?_eq`: reading a message;
* `Frame.noncedParts?_eq`: reading the nonce and the text of a frame.
-/

namespace Teleop

/-- The bytes from one position up to another, if these are in order and inside. -/
def part? (b : Bytes) (start stop : Nat) : Option Bytes :=
  if start ≤ stop ∧ stop ≤ b.length then some ((b.take stop).drop start) else none

theorem part?_eq {b : Bytes} {start stop : Nat} (h : start ≤ stop) (h' : stop ≤ b.length) :
    part? b start stop = some ((b.take stop).drop start) :=
  if_pos ⟨h, h'⟩

theorem part?_zero {b : Bytes} {stop : Nat} (h : stop ≤ b.length) :
    part? b 0 stop = some (b.take stop) :=
  part?_eq (Nat.zero_le _) h

theorem part?_length {b : Bytes} {start : Nat} (h : start ≤ b.length) :
    part? b start b.length = some (b.drop start) := by
  rw [part?_eq h (Nat.le_refl _), List.take_length]

/-- The part of a field before its first zero byte, or the whole field if there is none. -/
def textPart? (field : Bytes) : Option Text :=
  match field.findIdx? (· == 0) with
  | some i => part? field 0 i
  | none => some field

theorem textPart?_eq (field : Bytes) : textPart? field = some (cutAtZero field) := by
  unfold textPart?
  split
  · next i hi =>
    obtain ⟨inside, rfl⟩ := List.findIdx?_eq_some_iff_findIdx_eq.1 hi
    rw [part?_zero (Nat.le_of_lt inside), cutAtZero, List.takeWhile_eq_take_findIdx_not]
    simp [beq_eq_decide]
  · next hnone =>
    have nonzero : (0 : UInt8) ∉ field := fun h => by
      simpa using List.findIdx?_eq_none_iff.1 hnone 0 h
    rw [cutAtZero_eq_self nonzero]

/-! ## Messages -/

namespace Message

namespace Slot

/-- The byte at the front of some bytes, and the bytes after it. -/
def byteParts? (b : Bytes) : Option (Except Error (UInt8 × Bytes)) :=
  if b.length < 1 then some (.error .shortByte)
  else do
    let byte ← b[0]?
    let rest ← part? b 1 b.length
    return .ok (byte, rest)

theorem byteParts?_eq (b : Bytes) : byteParts? b = some (readByte b) := by
  cases b with
  | nil => rfl
  | cons byte rest =>
    rw [byteParts?, if_neg (by simp), part?_length (by simp)]
    rfl

/-- The text in a field at the front of some bytes, and the bytes after the field. -/
def textParts? (f : TextField) (b : Bytes) : Option (Except Error (Text × Bytes)) :=
  if b.length < f.size then some (.error (.shortField f.size b.length))
  else do
    let field ← part? b 0 f.size
    let text ← textPart? field
    let rest ← part? b f.size b.length
    return .ok (text, rest)

theorem textParts?_eq (f : TextField) (b : Bytes) : textParts? f b = some (readText f b) := by
  unfold textParts? readText
  split
  · rfl
  · next h =>
    have long := Nat.not_lt.1 h
    rw [part?_zero long, part?_length long]
    simp only [Option.bind_eq_bind, Option.bind_some, textPart?_eq]
    rfl

/-- `read` with parts. -/
def readParts? (b : Bytes) : Slot → Option (Except Error (Item × Bytes))
  | agentId => (byteParts? b).map fun r => (fun (byte, rest) => (.agentId byte.toNat, rest)) <$> r
  | flag => (byteParts? b).map fun r => (fun (byte, rest) => (.flag (byte != 0), rest)) <$> r
  | text f => (textParts? f b).map fun r => (fun (t, rest) => (.text f t, rest)) <$> r

theorem readParts?_eq (s : Slot) (b : Bytes) : s.readParts? b = some (s.read b) := by
  cases s with
  | agentId => rw [readParts?, byteParts?_eq, Option.map_some, read, map_eq_pure_bind]
  | flag => rw [readParts?, byteParts?_eq, Option.map_some, read, map_eq_pure_bind]
  | text f => rw [readParts?, textParts?_eq, Option.map_some, read, map_eq_pure_bind]

/-- `readAll` with parts. -/
def readAllParts? : List Slot → Bytes → Option (Except Error (List Item))
  | [], _ => some (.ok [])
  | s :: rest, b => do
    match ← s.readParts? b with
    | .error e => return .error e
    | .ok (item, b) => return (item :: ·) <$> (← readAllParts? rest b)

theorem readAllParts?_eq (slots : List Slot) (b : Bytes) :
    readAllParts? slots b = some (readAll slots b) := by
  induction slots generalizing b with
  | nil => rfl
  | cons s rest ih =>
    rw [readAllParts?, readAll, readParts?_eq]
    cases s.read b with
    | error e => rfl
    | ok r =>
      change (readAllParts? rest r.2 >>= fun items => some ((r.1 :: ·) <$> items)) =
        some (readAll rest r.2 >>= fun items => pure (r.1 :: items))
      rw [ih, ← map_eq_pure_bind]
      rfl

end Slot

/-- `decode` with parts. -/
def decodeParts? (b : Bytes) : Option (Except Error Message) :=
  if b.length = 0 then some (.error .noBytes)
  else do
    let tag ← b[0]?
    let body ← part? b 1 b.length
    if applicationTag ≤ tag then return .ok (raw tag body)
    else match Kind.ofTag? tag with
      | some kind => return ofItems kind <$> (← Slot.readAllParts? kind.layout body)
      | none => return .error (.unknownTag tag)

/-- Whatever the bytes are, no part that is cut out of them reaches outside. -/
theorem decodeParts?_eq (b : Bytes) : decodeParts? b = some (decode b) := by
  cases b with
  | nil => rfl
  | cons tag body =>
    rw [decodeParts?, if_neg (by simp), part?_length (by simp), decode]
    simp only [List.getElem?_cons_zero, Option.bind_eq_bind, Option.bind_some, List.drop_one,
      List.tail_cons]
    split
    · rfl
    · cases Kind.ofTag? tag with
      | none => rfl
      | some kind =>
        simp only [Slot.readAllParts?_eq, Option.bind_some, decodeBody_eq]
        rfl

end Message

/-! ## Frames -/

namespace Frame

/-- `nonced?` with parts. -/
def noncedParts? (body : Bytes) (size : Nat) : Option (Option (Uuid × Text)) :=
  if body.length < nonceSize + size then some none
  else do
    let nonce ← part? body 0 nonceSize
    let field ← part? body nonceSize (nonceSize + size)
    let text ← textPart? field
    return some (Uuid.ofBytes nonce, text)

/-- Whatever the body and the size of its text are, no part reaches outside. -/
theorem noncedParts?_eq (body : Bytes) (size : Nat) :
    noncedParts? body size = some (nonced? body size) := by
  unfold noncedParts? nonced?
  split
  · rfl
  · next h =>
    have long := Nat.not_lt.1 h
    rw [part?_zero (Nat.le_trans (Nat.le_add_right _ _) long), part?_eq (Nat.le_add_right _ _) long]
    simp only [Option.bind_eq_bind, Option.bind_some, textPart?_eq, List.drop_take,
      Nat.add_sub_cancel_left]
    rfl

end Frame

end Teleop
