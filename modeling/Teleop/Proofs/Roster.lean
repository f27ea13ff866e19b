import Mathlib.Data.List.Nodup
import Mathlib.Logic.Function.Basic
import Std.Data.String.ToInt
import Teleop.Roster

/-!
# Two families in one store

A roster keeps agents and devices in one store of entries. It answers as two maps would that know
nothing of each other, one from agent ids and one from device ids: the keys tell the families apart
and the members of each family, whatever a device id looks like. The store may list its entries in
any order.

* `agentMap`, `deviceMap`: what was announced, as maps;
* `Holds`: the store holds the entries of two maps;
* `answers_as_two_maps`: what is read from the store.
-/

namespace Teleop

/-- The key under which a peer is stored. -/
def Peer.key : Peer → Text
  | .agent a => Roster.agentKey a.id
  | .device d => Roster.deviceKey d.id

namespace Roster

/-! ## Keys -/

theorem utf8_injective {s t : String} (h : utf8 s = utf8 t) : s = t := by
  have same := ByteArray.ext (Array.toList_inj.1 h)
  exact String.toByteArray_inj.1 same

theorem decimal_injective {m n : Int} (h : decimal m = decimal n) : m = n :=
  Int.repr_injective (utf8_injective h)

theorem agentKey_injective {m n : Int} (h : agentKey m = agentKey n) : m = n :=
  decimal_injective (List.append_cancel_left h)

theorem deviceKey_injective {s t : Text} (h : deviceKey s = deviceKey t) : s = t :=
  List.append_cancel_left h

/-- The keys of the two families differ in their first bytes. -/
theorem agentKey_ne_deviceKey (n : Int) (t : Text) : agentKey n ≠ deviceKey t := by
  have agents : agentLead = 97 :: utf8 "gent:" := by decide
  have devices : deviceLead = 117 :: utf8 "i:" := by decide
  simp [agentKey, deviceKey, agents, devices]

/-! ## Histories -/

/-- What happens to a roster. `now` is the time from which an entry lives, and `seen` the time to
show for it. -/
inductive Op where
  | agent (now seen : Instant) (id : Int) (ip : Text)
  | device (now seen : Instant) (id : Text)
  | clear

def step (r : Roster) : Op → Roster
  | .agent now seen id ip => r.recordAgent now seen id ip
  | .device now seen id => r.recordDevice now seen id
  | .clear => r.clear

/-- The roster after a history. -/
def run (r : Roster) (history : List Op) : Roster :=
  history.foldl step r

/-- A map of agents after something happened. -/
def stepAgents (agents : Int → Option Agent) : Op → Int → Option Agent
  | .agent _ seen id ip => Function.update agents id (some ⟨id, ip, seen⟩)
  | .device .. => agents
  | .clear => fun _ => none

/-- A map of devices after something happened. -/
def stepDevices (devices : Text → Option Device) : Op → Text → Option Device
  | .agent .. => devices
  | .device _ seen id => Function.update devices id (some ⟨id, seen⟩)
  | .clear => fun _ => none

/-- The agents of a history: each one that was announced since the roster was last cleared, as it
was announced last. -/
def agentMap (history : List Op) : Int → Option Agent :=
  history.foldl stepAgents fun _ => none

@[inherit_doc agentMap]
def deviceMap (history : List Op) : Text → Option Device :=
  history.foldl stepDevices fun _ => none

/-! ## Families -/

/-- One of the two families of peers. Members with the same id, and no others, have the same key. -/
structure Family (ι α : Type) where
  id : α → ι
  wrap : α → Peer
  /-- The member that a peer is, if it is one of this family. -/
  member? : Peer → Option α
  member?_eq_some_iff : ∀ {p a}, member? p = some a ↔ p = wrap a
  key_wrap_iff : ∀ {a b}, (wrap a).key = (wrap b).key ↔ id a = id b

def agentFamily : Family Int Agent where
  id := Agent.id
  wrap := .agent
  member?
    | .agent a => some a
    | .device _ => none
  member?_eq_some_iff {p a} := by cases p <;> simp
  key_wrap_iff := ⟨agentKey_injective, congrArg agentKey⟩

def deviceFamily : Family Text Device where
  id := Device.id
  wrap := .device
  member?
    | .agent _ => none
    | .device d => some d
  member?_eq_some_iff {p d} := by cases p <;> simp
  key_wrap_iff := ⟨deviceKey_injective, congrArg deviceKey⟩

theorem Family.wrap_inj {ι α : Type} (F : Family ι α) {a b : α} : F.wrap a = F.wrap b ↔ a = b := by
  rw [← F.member?_eq_some_iff, F.member?_eq_some_iff.2 rfl, Option.some.injEq]

/-! ## The store -/

/-- The peers of a roster, expired or not. -/
def peers (r : Roster) : List Peer :=
  r.entries.map fun e => e.2.1

variable {r r' : Roster}

/-- Every entry of a store has a key of its own, which is that of its peer. -/
structure Keyed (r : Roster) : Prop where
  nodup : (r.entries.map Prod.fst).Nodup
  key_eq : ∀ e ∈ r.entries, e.1 = e.2.1.key

theorem Keyed.perm (h : Keyed r) (same : r'.entries.Perm r.entries) : Keyed r' :=
  ⟨(same.map _).nodup_iff.2 h.nodup, fun e mem => h.key_eq e (same.mem_iff.1 mem)⟩

theorem Keyed.put (h : Keyed r) (now : Instant) (p : Peer) : Keyed (r.put now p.key p) := by
  constructor
  · simp only [Roster.put, List.map_append, List.map_singleton]
    refine List.nodup_append.2
      ⟨h.nodup.sublist (List.filter_sublist.map _), List.nodup_singleton _, ?_⟩
    intro key mem key' mem'
    obtain ⟨e, kept, rfl⟩ := List.mem_map.1 mem
    rw [List.mem_singleton.1 mem']
    simpa using (List.mem_filter.1 kept).2
  · intro e mem
    rcases List.mem_append.1 mem with kept | new
    · exact h.key_eq e (List.mem_of_mem_filter kept)
    · rw [List.mem_singleton.1 new]

/-- A peer that is put into the store takes the place of the one with the same key. -/
theorem Keyed.mem_peers_put (h : Keyed r) (now : Instant) (p q : Peer) :
    q ∈ (r.put now p.key p).peers ↔ q = p ∨ q ∈ r.peers ∧ q.key ≠ p.key := by
  simp only [peers, Roster.put, List.map_append, List.mem_append, List.map_singleton,
    List.mem_singleton, List.mem_map, List.mem_filter, decide_eq_true_eq]
  constructor
  · rintro (⟨e, ⟨mem, other⟩, rfl⟩ | rfl)
    · rw [h.key_eq e mem] at other
      exact .inr ⟨⟨e, mem, rfl⟩, other⟩
    · exact .inl rfl
  · rintro (rfl | ⟨⟨e, mem, rfl⟩, other⟩)
    · exact .inr rfl
    · rw [← h.key_eq e mem] at other
      exact .inl ⟨e, ⟨mem, other⟩, rfl⟩

section Family

variable {ι α : Type} {F : Family ι α} {m : ι → Option α}

/-- The members of a family in a store are those of a map. -/
structure Family.Keeps (F : Family ι α) (m : ι → Option α) (r : Roster) : Prop where
  mem_iff : ∀ a, F.wrap a ∈ r.peers ↔ m (F.id a) = some a
  id_eq : ∀ {i a}, m i = some a → F.id a = i

theorem Family.Keeps.perm (kept : F.Keeps m r) (same : r'.entries.Perm r.entries) :
    F.Keeps m r' := by
  have samePeers : r'.peers.Perm r.peers := same.map _
  exact ⟨fun a => samePeers.mem_iff.trans (kept.mem_iff a), kept.id_eq⟩

theorem Family.Keeps.put_member [DecidableEq ι] (kept : F.Keeps m r) (h : Keyed r) (now : Instant)
    (new : α) :
    F.Keeps (Function.update m (F.id new) (some new))
      (r.put now (F.wrap new).key (F.wrap new)) := by
  constructor
  · intro a
    rw [h.mem_peers_put, F.wrap_inj, Ne, F.key_wrap_iff, kept.mem_iff a]
    by_cases same : F.id a = F.id new
    · rw [same, Function.update_self, Option.some.injEq]
      simp [eq_comm]
    · rw [Function.update_of_ne same]
      have other : a ≠ new := fun eq => same (congrArg F.id eq)
      simp [same, other]
  · intro i a found
    by_cases same : i = F.id new
    · rw [same, Function.update_self, Option.some.injEq] at found
      rw [same, found]
    · rw [Function.update_of_ne same] at found
      exact kept.id_eq found

/-- A peer of the other family changes nothing. -/
theorem Family.Keeps.put_other (kept : F.Keeps m r) (h : Keyed r) (now : Instant) (p : Peer)
    (key_ne : ∀ a, (F.wrap a).key ≠ p.key) : F.Keeps m (r.put now p.key p) := by
  refine ⟨fun a => ?_, kept.id_eq⟩
  have other : F.wrap a ≠ p := fun eq => key_ne a (congrArg Peer.key eq)
  rw [h.mem_peers_put, ← kept.mem_iff a]
  simp [other, key_ne a]

theorem Family.keeps_of_entries_eq_nil (F : Family ι α) (empty : r.entries = []) :
    F.Keeps (fun _ => none) r := by
  constructor <;> simp [peers, empty]

end Family

variable {agents : Int → Option Agent} {devices : Text → Option Device}

/-- A store holds the members of two maps: under the key of each one, and nothing else. -/
structure Holds (agents : Int → Option Agent) (devices : Text → Option Device) (r : Roster) : Prop
    extends Keyed r where
  agents : agentFamily.Keeps agents r
  devices : deviceFamily.Keeps devices r

theorem Holds.perm (h : Holds agents devices r) (same : r'.entries.Perm r.entries) :
    Holds agents devices r' :=
  ⟨h.toKeyed.perm same, h.agents.perm same, h.devices.perm same⟩

theorem holds_of_entries_eq_nil (empty : r.entries = []) :
    Holds (fun _ => none) (fun _ => none) r :=
  ⟨⟨by simp [empty], by simp [empty]⟩, agentFamily.keeps_of_entries_eq_nil empty,
    deviceFamily.keeps_of_entries_eq_nil empty⟩

theorem Holds.step (h : Holds agents devices r) (op : Op) :
    Holds (stepAgents agents op) (stepDevices devices op) (r.step op) := by
  cases op with
  | agent now seen id ip =>
    exact ⟨h.put now (.agent ⟨id, ip, seen⟩), h.agents.put_member h.toKeyed now ⟨id, ip, seen⟩,
      h.devices.put_other h.toKeyed now (.agent ⟨id, ip, seen⟩)
        fun d => (agentKey_ne_deviceKey id d.id).symm⟩
  | device now seen id =>
    exact ⟨h.put now (.device ⟨id, seen⟩),
      h.agents.put_other h.toKeyed now (.device ⟨id, seen⟩)
        fun a => agentKey_ne_deviceKey a.id id,
      h.devices.put_member h.toKeyed now ⟨id, seen⟩⟩
  | clear => exact holds_of_entries_eq_nil rfl

theorem Holds.run (h : Holds agents devices r) (history : List Op) :
    Holds (history.foldl stepAgents agents) (history.foldl stepDevices devices)
      (r.run history) := by
  induction history generalizing r agents devices with
  | nil => exact h
  | cons op history ih => exact ih (h.step op)

theorem holds_run (ttl : Duration) (history : List Op) :
    Holds (agentMap history) (deviceMap history) (run { ttl } history) :=
  (holds_of_entries_eq_nil rfl).run history

/-! ## Reading -/

/-- The roster keeps its entries for ever. -/
structure Endless (r : Roster) : Prop where
  ttl_le : r.ttl ≤ 0
  expiry_eq : ∀ e ∈ r.entries, e.2.2 = none

theorem Endless.put (h : Endless r) (now : Instant) (key : Text) (p : Peer) :
    Endless (r.put now key p) := by
  refine ⟨h.ttl_le, fun e mem => ?_⟩
  rcases List.mem_append.1 mem with kept | new
  · exact h.expiry_eq e (List.mem_of_mem_filter kept)
  · rw [List.mem_singleton.1 new]
    exact if_neg (Int.not_lt.2 h.ttl_le)

theorem Endless.run (h : Endless r) (history : List Op) : Endless (r.run history) := by
  induction history generalizing r with
  | nil => exact h
  | cons op history ih =>
    apply ih
    cases op with
    | agent now seen id ip => exact h.put _ _ _
    | device now seen id => exact h.put _ _ _
    | clear => exact ⟨h.ttl_le, fun _ mem => absurd mem List.not_mem_nil⟩

/-- No entry of a roster has expired. -/
def Lasting (r : Roster) (now : Instant) : Prop :=
  ∀ e ∈ r.entries, expired now e.2.2 = false

variable {now : Instant}

theorem Endless.lasting (h : Endless r) (same : r'.entries.Perm r.entries) : r'.Lasting now := by
  intro e mem
  rw [h.expiry_eq e (same.mem_iff.1 mem)]
  rfl

theorem current_of_lasting (lasting : r.Lasting now) :
    r.current now = r.entries.map fun e => (e.1, e.2.1) := by
  unfold current
  rw [List.filter_eq_self.2 fun e mem => by simp [lasting e mem]]

section Listing

variable {ι α : Type} (F : Family ι α) {m : ι → Option α}

/-- The members of a family that can be read. -/
def Family.members (r : Roster) (now : Instant) : List α :=
  (r.current now).filterMap fun e => F.member? e.2

variable {F}

theorem Family.members_of_lasting (lasting : r.Lasting now) :
    F.members r now = r.peers.filterMap F.member? := by
  rw [Family.members, current_of_lasting lasting, peers, List.filterMap_map, List.filterMap_map]
  rfl

theorem Family.Keeps.mem_members (kept : F.Keeps m r) (lasting : r.Lasting now) (a : α) :
    a ∈ F.members r now ↔ m (F.id a) = some a := by
  rw [members_of_lasting lasting, ← kept.mem_iff a, List.mem_filterMap]
  simp [F.member?_eq_some_iff]

theorem Family.distinct_members (F : Family ι α) (h : Keyed r) (lasting : r.Lasting now) :
    (F.members r now).Pairwise fun a b => F.id a ≠ F.id b := by
  have keys : r.peers.map Peer.key = r.entries.map Prod.fst := by
    rw [peers, List.map_map]
    exact List.map_congr_left fun e mem => (h.key_eq e mem).symm
  have distinct : r.peers.Pairwise fun p q => p.key ≠ q.key := by
    rw [← List.pairwise_map, keys]
    exact h.nodup
  rw [members_of_lasting lasting]
  refine distinct.filterMap _ fun p q differ a isA b isB same => ?_
  rw [F.member?_eq_some_iff.1 isA, F.member?_eq_some_iff.1 isB] at differ
  exact differ (F.key_wrap_iff.2 same)

variable [LE ι] [LT ι] [Std.IsLinearOrder ι] [Std.LawfulOrderLT ι] {id : α → ι} {l sorted : List α}

/-- Members with different ids that are in order are strictly in order. -/
theorem strict_of_distinct (ordered : l.Pairwise fun a b => id a ≤ id b)
    (distinct : l.Pairwise fun a b => id a ≠ id b) : l.Pairwise fun a b => id a < id b :=
  (ordered.and distinct).imp fun both => Std.lt_of_le_of_ne both.1 both.2

theorem strict_mergeSort {le : α → α → Bool} (le_iff : ∀ a b, le a b = true ↔ id a ≤ id b)
    (distinct : l.Pairwise fun a b => id a ≠ id b) :
    (l.mergeSort le).Pairwise fun a b => id a < id b := by
  apply strict_of_distinct
  · simp only [← le_iff]
    apply List.pairwise_mergeSort
    · intro a b c
      simp only [le_iff]
      exact Std.le_trans
    · intro a b
      simp only [Bool.or_eq_true, le_iff]
      exact Std.le_total
  · exact ((List.mergeSort_perm l le).pairwise_iff Ne.symm).2 distinct

/-- There is one way only to put members with different ids in order. -/
theorem eq_of_strict (strict : sorted.Pairwise fun a b => id a < id b) (same : l.Perm sorted)
    (ordered : l.Pairwise fun a b => id a ≤ id b) : l = sorted := by
  have distinct : sorted.Pairwise fun a b => id a ≠ id b := strict.imp Std.ne_of_lt
  have strict' := strict_of_distinct ordered ((same.pairwise_iff Ne.symm).2 distinct)
  refine List.Perm.eq_of_pairwise (fun a b _ _ lt gt => ?_) strict' strict same
  exact absurd (Std.lt_trans lt gt) Std.lt_irrefl

end Listing

theorem Keyed.key_eq_of_mem_current (h : Keyed r) {e : Text × Peer} (mem : e ∈ r.current now) :
    e.1 = e.2.key := by
  obtain ⟨entry, kept, rfl⟩ := List.mem_map.1 mem
  exact h.key_eq entry (List.mem_of_mem_filter kept)

/-- The beginnings of the keys need not be looked at. -/
theorem Keyed.agents_eq (h : Keyed r) (now : Instant) :
    r.agents now = (agentFamily.members r now).mergeSort fun a b => decide (a.id ≤ b.id) := by
  unfold agents Family.members
  congr 1
  refine List.filterMap_congr fun e mem => ?_
  have key_eq := h.key_eq_of_mem_current mem
  obtain ⟨key, peer⟩ := e
  cases peer with
  | agent a =>
    dsimp only at key_eq
    simp [key_eq, Peer.key, agentKey, agentFamily]
  | device d => rfl

theorem Keyed.devices_eq (h : Keyed r) (now : Instant) :
    r.devices now = (deviceFamily.members r now).mergeSort fun a b => decide (¬ b.id < a.id) := by
  unfold devices Family.members
  congr 1
  refine List.filterMap_congr fun e mem => ?_
  have key_eq := h.key_eq_of_mem_current mem
  obtain ⟨key, peer⟩ := e
  cases peer with
  | agent a => rfl
  | device d =>
    dsimp only at key_eq
    simp [key_eq, Peer.key, deviceKey, deviceFamily]

theorem Keyed.lookup_eq_some_iff (h : Keyed r) (lasting : r.Lasting now) {key : Text} {p : Peer} :
    (r.current now).lookup key = some p ↔ p ∈ r.peers ∧ p.key = key := by
  rw [current_of_lasting lasting, List.lookup_eq_some_iff]
  constructor
  · rintro ⟨before, after, split, -⟩
    have listed : (key, p) ∈ r.entries.map fun e => (e.1, e.2.1) := by simp [split]
    obtain ⟨e, mem, same⟩ := List.mem_map.1 listed
    cases same
    exact ⟨List.mem_map_of_mem mem, (h.key_eq e mem).symm⟩
  · rintro ⟨listed, rfl⟩
    obtain ⟨e, mem, rfl⟩ := List.mem_map.1 listed
    obtain ⟨before, after, split⟩ := List.append_of_mem mem
    -- The entries before this one have other keys, as the keys of a store are distinct.
    refine ⟨before.map fun e => (e.1, e.2.1), after.map fun e => (e.1, e.2.1), ?_, ?_⟩
    · rw [split, List.map_append, List.map_cons, h.key_eq e mem]
    · intro q passed
      obtain ⟨e', mem', rfl⟩ := List.mem_map.1 passed
      have nodup := h.nodup
      rw [split, List.map_append, List.map_cons] at nodup
      have differ := (List.nodup_append.1 nodup).2.2 e'.1 (List.mem_map_of_mem mem') e.1
        List.mem_cons_self
      rw [← h.key_eq e mem]
      simpa using differ.symm

theorem Holds.agent?_eq (h : Holds agents devices r) (lasting : r.Lasting now) (id : Int) :
    r.agent? now id = agents id := by
  apply Option.ext
  intro a
  have found : r.agent? now id = some a ↔
      (r.current now).lookup (agentKey id) = some (.agent a) := by
    unfold agent?
    split <;> simp_all
  rw [found, h.lookup_eq_some_iff lasting]
  constructor
  · rintro ⟨mem, same⟩
    rw [← agentKey_injective same]
    exact (h.agents.mem_iff a).1 mem
  · intro known
    have same : a.id = id := h.agents.id_eq known
    rw [← same] at known ⊢
    exact ⟨(h.agents.mem_iff a).2 known, rfl⟩

/-! ## Independence -/

/-- What is selected from a store does not change if a peer is put into it that is not selected, in
the place of one that is not selected. -/
theorem filterMap_current_put {α : Type} {select : Text × Peer → Option α} {key : Text} {p : Peer}
    (now' : Instant) (old : ∀ e ∈ r.entries, e.1 = key → select (key, e.2.1) = none)
    (new : select (key, p) = none) :
    ((r.put now' key p).current now).filterMap select = (r.current now).filterMap select := by
  simp only [current, put, List.filter_append, List.map_append, List.filterMap_append,
    List.filterMap_map, List.filterMap_filter]
  have nothing : List.filterMap (fun e => if (!expired now e.2.2) = true then
      (select ∘ fun e => (e.1, e.2.1)) e else none)
      [(key, p, if 0 < r.ttl then some (now'.add r.ttl) else none)] = [] := by
    simp [new]
  rw [nothing, List.append_nil]
  refine List.filterMap_congr fun e mem => ?_
  by_cases replaced : e.1 = key
  · simp [replaced, old e mem replaced]
  · simp [replaced]

theorem lookup_current_put {key other : Text} (differ : other ≠ key) (now' : Instant) (p : Peer) :
    ((r.put now' key p).current now).lookup other = (r.current now).lookup other := by
  -- A lookup is the head of what is selected by the key.
  rw [List.lookup_eq_findSome?, List.lookup_eq_findSome?, ← List.head?_filterMap,
    ← List.head?_filterMap, filterMap_current_put]
  · simp [differ]
  · simp [differ]

/-- A peer of the other family leaves the members that can be read. -/
theorem Family.members_put {ι α : Type} (F : Family ι α) (h : Keyed r) (now' : Instant) (p : Peer)
    (key_ne : ∀ a, (F.wrap a).key ≠ p.key) :
    F.members (r.put now' p.key p) now = F.members r now := by
  have other {q : Peer} (same : q.key = p.key) : F.member? q = none := by
    rw [Option.eq_none_iff_forall_ne_some]
    intro a isA
    rw [F.member?_eq_some_iff.1 isA] at same
    exact key_ne a same
  refine filterMap_current_put now' (fun e mem same => ?_) (other rfl)
  rw [h.key_eq e mem] at same
  exact other same

theorem Keyed.agents_recordDevice (h : Keyed r) (now' seen : Instant) (id : Text) :
    (r.recordDevice now' seen id).agents now = r.agents now := by
  have keyed := h.put now' (.device ⟨id, seen⟩)
  refine (keyed.agents_eq now).trans ?_
  rw [h.agents_eq, agentFamily.members_put h]
  exact fun a => agentKey_ne_deviceKey a.id id

theorem Keyed.devices_recordAgent (h : Keyed r) (now' seen : Instant) (id : Int) (ip : Text) :
    (r.recordAgent now' seen id ip).devices now = r.devices now := by
  have keyed := h.put now' (.agent ⟨id, ip, seen⟩)
  refine (keyed.devices_eq now).trans ?_
  rw [h.devices_eq, deviceFamily.members_put h]
  exact fun d => (agentKey_ne_deviceKey id d.id).symm

theorem agent?_recordDevice (now' seen : Instant) (id : Text) (i : Int) :
    (r.recordDevice now' seen id).agent? now i = r.agent? now i := by
  unfold agent? recordDevice
  rw [lookup_current_put (agentKey_ne_deviceKey i id)]

/-! ## Two maps -/

/-- A roster in which entries do not expire, or in which none has expired, answers as the two maps
of its history, whatever the order of its entries. The agents are listed by increasing ids, each one
once, so that every way to sort them gives the same list; and so are the devices. Recording in one
family leaves what is read of the other. -/
theorem answers_as_two_maps {ttl : Duration} {history : List Op}
    (stored : r.entries.Perm (run { ttl } history).entries) (lasting : ttl ≤ 0 ∨ r.Lasting now) :
    ((r.agents now).Pairwise (fun a b => a.id < b.id) ∧
      (∀ a, a ∈ r.agents now ↔ agentMap history a.id = some a) ∧
      ∀ l, l.Perm (r.agents now) → l.Pairwise (fun a b => a.id ≤ b.id) → l = r.agents now) ∧
    (∀ id, r.agent? now id = agentMap history id) ∧
    ((r.devices now).Pairwise (fun d e => d.id < e.id) ∧
      (∀ d, d ∈ r.devices now ↔ deviceMap history d.id = some d) ∧
      ∀ l, l.Perm (r.devices now) → l.Pairwise (fun d e => d.id ≤ e.id) → l = r.devices now) ∧
    (∀ now' seen id, (r.recordDevice now' seen id).agents now = r.agents now ∧
      ∀ i, (r.recordDevice now' seen id).agent? now i = r.agent? now i) ∧
    ∀ now' seen id ip, (r.recordAgent now' seen id ip).devices now = r.devices now := by
  have held := (holds_run ttl history).perm stored
  have keyed := held.toKeyed
  have lasting : r.Lasting now := lasting.elim
    (fun forever => Endless.lasting (Endless.run ⟨forever, by simp⟩ history) stored) id
  have agents : (r.agents now).Pairwise fun a b => a.id < b.id := by
    rw [keyed.agents_eq]
    exact strict_mergeSort (by simp) (agentFamily.distinct_members keyed lasting)
  have devices : (r.devices now).Pairwise fun d e => d.id < e.id := by
    rw [keyed.devices_eq]
    exact strict_mergeSort (by simp) (deviceFamily.distinct_members keyed lasting)
  refine ⟨⟨agents, fun a => ?_, fun l => eq_of_strict agents⟩, held.agent?_eq lasting,
    ⟨devices, fun d => ?_, fun l => eq_of_strict devices⟩,
    fun now' seen id => ⟨keyed.agents_recordDevice now' seen id, agent?_recordDevice now' seen id⟩,
    keyed.devices_recordAgent⟩
  · rw [keyed.agents_eq, (List.mergeSort_perm _ _).mem_iff]
    exact held.agents.mem_members lasting a
  · rw [keyed.devices_eq, (List.mergeSort_perm _ _).mem_iff]
    exact held.devices.mem_members lasting d

/-- A device whose id is the key of an agent: each is found under its own id, and the agent as it
was announced last. -/
theorem answers_as_two_maps_lookalike :
    let history : List Op :=
      [.agent ⟨1⟩ ⟨1⟩ 3 (utf8 "first"), .clear, .agent ⟨2⟩ ⟨2⟩ 7 (utf8 "old"),
        .device ⟨3⟩ ⟨3⟩ (utf8 "agent:7"), .agent ⟨4⟩ ⟨4⟩ (-7) (utf8 "other"),
        .agent ⟨5⟩ ⟨5⟩ 7 (utf8 "new")]
    let r : Roster := { entries := (run { ttl := 0 } history).entries.reverse }
    r.agent? ⟨9⟩ 7 = some ⟨7, utf8 "new", ⟨5⟩⟩ ∧ r.agent? ⟨9⟩ 3 = none ∧
      ⟨-7, utf8 "other", ⟨4⟩⟩ ∈ r.agents ⟨9⟩ ∧ ⟨utf8 "agent:7", ⟨3⟩⟩ ∈ r.devices ⟨9⟩ := by
  intro history r
  have stored : r.entries.Perm (run { ttl := 0 } history).entries := List.reverse_perm _
  have lasting : (0 : Duration) ≤ 0 ∨ r.Lasting ⟨9⟩ := .inl (Int.le_refl 0)
  obtain ⟨⟨-, agents, -⟩, agent, ⟨-, devices, -⟩, -⟩ := answers_as_two_maps stored lasting
  rw [agent, agent, agents, devices]
  decide

end Roster

end Teleop
