-- The registry of the CAS sessions. A session owns a slot of keys; the registry
-- knows it by a weak reference in a table of 64 entries, and takes an entry for
-- another slot once the slot is gone or no longer live. Every call holds the
-- mutex, so that the calls come one after the other. A slot that still holds a key
-- is live and owned and in the table: so every sweep finds it, and a slot that was
-- closed or swept gives no key again.
import TvStack.Maps
import TvStack.SlotHistories

open Machines Words

namespace maleicacid.cas

abbrev Token := { bytes : List UInt8 // bytes.length = 16 }

def kSessionCapacity : Nat := 64

/-! ## The C++ functions -/

structure Slot where
  token : Token
  shared : SharedKeyState := {}
  live : Bool := true
  group : UInt8 := 0
  /-- Whether someone still holds the slot. -/
  owned : Bool := true
  /-- The stores that the memory of the slot has seen. -/
  stores : List (Option Secret16) := []

def Slot.store (slot : Slot) (value : Option Secret16) : Slot × Bool :=
  let (shared, result) := slot.shared.store value
  ({ slot with shared, stores := slot.stores ++ [value] }, result)

/-- The slots by the order of their creation, and the table of the weak references to them. -/
structure KeyRegistry where
  heap : FinMap Nat Slot := {}
  next : Nat := 0
  slots : Fin kSessionCapacity → Option Nat := fun _ => none
  issued : List Token := []

/-- A read of the random source, and whether the memory of a slot can be had. -/
structure Draw where
  random : Option Token
  created : Bool

/-- The loop that looks for a new token. -/
def draw_token (issued : List Token) : List Draw → Option Token
  | [] => none
  | draw :: draws =>
    match draw.random with
    | none => none
    | some token =>
      if token ∈ issued ∨ token.val.all (· = 0) then draw_token issued draws
      else if draw.created then some token
      else none

namespace KeyRegistry

variable (registry : KeyRegistry) (id : Nat) (slot : Slot) (i : Fin kSessionCapacity)

/-- `weak_ptr::lock` on an entry. -/
def lock : Option (Nat × Slot) :=
  match registry.slots i with
  | none => none
  | some id =>
    match registry.heap.get id with
    | none => none
    | some slot => if slot.owned then some (id, slot) else none

def put : KeyRegistry :=
  { registry with heap := registry.heap.insert id slot }

/-- An entry whose slot is gone or no longer live. -/
def isEmpty : Bool :=
  match registry.lock i with
  | none => true
  | some (_, slot) => !slot.live

def open_slot (draws : List Draw) : KeyRegistry × Result :=
  match (List.finRange kSessionCapacity).find? registry.isEmpty with
  | none => (registry, .Busy)
  | some empty =>
    match draw_token registry.issued (draws.take 8) with
    | none => (registry, .Busy)
    | some token =>
      ({ heap := registry.heap.insert registry.next { token }
         next := registry.next + 1
         slots := Function.update registry.slots empty (some registry.next)
         issued := token :: registry.issued }, .Ok)

def close : KeyRegistry :=
  registry.put id { (slot.store none).1 with live := false }

def update (keys : Secret16) (group : UInt8) : KeyRegistry × Result :=
  if !slot.live then (registry, .SessionClosed)
  else
    let (slot, stored) := { slot with group }.store (some keys)
    if !stored then (registry.put id { slot with live := false }, .Revoked)
    else (registry.put id slot, .Ok)

/-- The body of the loops over the table: a slot that passes is changed. -/
def sweep_entry (passes : Slot → Bool) (change : Slot → Slot) (registry : KeyRegistry)
    (i : Fin kSessionCapacity) : KeyRegistry :=
  match registry.lock i with
  | none => registry
  | some (id, slot) => if passes slot then registry.put id (change slot) else registry

def sweep (passes : Slot → Bool) (change : Slot → Slot) : KeyRegistry :=
  (List.finRange kSessionCapacity).foldl (sweep_entry passes change) registry

def invalidateGroup (group : UInt8) : KeyRegistry :=
  registry.sweep (·.group = group) fun slot => (slot.store none).1

def revokeAll : KeyRegistry :=
  registry.sweep (fun _ => true) fun slot => { (slot.store none).1 with live := false }

/-- `SharedKeyState::snapshot` while nobody stores: four attempts of seven loads. -/
def snapshot_alone (m : SharedKeyState) : Nat → Reader → Result
  | 0, _ => .Busy
  | loads + 1, reader =>
    match reader.load m with
    | (_, some (result, _)) => result
    | (reader, none) => snapshot_alone m loads reader

/-- The result, and the descriptor for the reader, where `fd` is what opening it gives. -/
def bind (token : Token) (fd : Int) : Result × Int :=
  let entry := (List.finRange kSessionCapacity).findSome? fun i =>
    (registry.lock i).filter fun (_, slot) => slot.live && slot.token = token
  match entry with
  | none => (.SessionClosed, -1)
  | some (_, slot) =>
    match snapshot_alone slot.shared 28 (.Sequence 0) with
    | .Ok => (if fd ≥ 0 then .Ok else .Busy, fd)
    | result => (result, -1)

/-- The last owner lets go of the slot, and `~SharedSlot` erases its memory. -/
def release : KeyRegistry :=
  registry.put id { (slot.store none).1 with owned := false }

end KeyRegistry

inductive RegistryCall
  | Open (draws : List Draw)
  | Close (id : Nat)
  | Update (id : Nat) (keys : Secret16) (group : UInt8)
  | InvalidateGroup (group : UInt8)
  | RevokeAll
  | Release (id : Nat)

namespace KeyRegistry

variable (registry : KeyRegistry)

/-- The slot of a session that still holds it. -/
def held (id : Nat) : Option Slot :=
  (registry.heap.get id).filter (·.owned)

/-- A call, with its result if it has one. Only who holds a slot can name it. -/
def call : RegistryCall → KeyRegistry × Option Result
  | .Open draws => ((registry.open_slot draws).1, some (registry.open_slot draws).2)
  | .Close id =>
    match registry.held id with
    | none => (registry, none)
    | some slot => (registry.close id slot, none)
  | .Update id keys group =>
    match registry.held id with
    | none => (registry, none)
    | some slot =>
      ((registry.update id slot keys group).1, some (registry.update id slot keys group).2)
  | .InvalidateGroup group => (registry.invalidateGroup group, none)
  | .RevokeAll => (registry.revokeAll, none)
  | .Release id =>
    match registry.held id with
    | none => (registry, none)
    | some slot => (registry.release id slot, none)

end KeyRegistry

open KeyRegistry

variable {empty : Fin kSessionCapacity}

/-! ## What a call does to a slot -/

theorem store_valid (m : SharedKeyState) (value : Option Secret16) :
    (m.store value).1.valid = (value.isSome && (m.store value).2) := by
  by_cases hlast : m.sequence ≥ U64_MAX - 1
  · simp only [SharedKeyState.store, store_writes, if_pos hlast, Bool.and_false]
    rfl
  · simp only [SharedKeyState.store, store_writes, if_neg hlast, Bool.and_true]
    rfl

/-- The memory of a slot is what its stores made, and a slot that is closed or given up shows no
key. -/
structure Slot.Fits (slot : Slot) : Prop where
  shared : slot.shared = memory_after {} slot.stores
  emptied : slot.live = false ∨ slot.owned = false → slot.shared.valid = false

/-- What becomes of a slot. Without an update, or once it is closed, all further stores are null. -/
structure Follows (updates : Bool) (slot slot' : Slot) : Prop where
  token : slot'.token = slot.token
  live : slot.live = false → slot'.live = false
  owned : slot.owned = false → slot'.owned = false
  group : updates = false → slot'.group = slot.group
  valid : updates = false → slot.shared.valid = false → slot'.shared.valid = false
  stores : ∃ more, slot'.stores = slot.stores ++ more ∧
    (updates = false ∨ slot.live = false → ∀ value ∈ more, value = none)
  fits : slot.Fits → slot'.Fits

variable {u u' : Bool} {slot slot' slot'' : Slot}

theorem Follows.refl (u : Bool) (slot : Slot) : Follows u slot slot :=
  ⟨rfl, id, id, fun _ => rfl, fun _ => id,
    ⟨[], (List.append_nil _).symm, fun _ _ h => absurd h List.not_mem_nil⟩, id⟩

theorem Follows.trans (h : Follows u slot slot') (h' : Follows u' slot' slot'') :
    Follows (u || u') slot slot'' := by
  obtain ⟨more, hmore, hnull⟩ := h.stores
  obtain ⟨more', hmore', hnull'⟩ := h'.stores
  refine ⟨h'.token.trans h.token, h'.live ∘ h.live, h'.owned ∘ h.owned, ?_, ?_,
    ⟨more ++ more', ?_, ?_⟩, h'.fits ∘ h.fits⟩
  · intro hquiet
    rw [Bool.or_eq_false_iff] at hquiet
    exact (h'.group hquiet.2).trans (h.group hquiet.1)
  · intro hquiet
    rw [Bool.or_eq_false_iff] at hquiet
    exact h'.valid hquiet.2 ∘ h.valid hquiet.1
  · rw [hmore', hmore, List.append_assoc]
  · intro hquiet value hvalue
    rw [Bool.or_eq_false_iff] at hquiet
    rcases List.mem_append.mp hvalue with hold | hnew
    · exact hnull (hquiet.imp_left And.left) value hold
    · exact hnull' (hquiet.imp And.right h.live) value hnew

/-- One store. It brings a key by an update of a live slot alone, and a slot that is closed or given
up with it shows none. -/
theorem follows_store {value : Option Secret16} (htoken : slot'.token = slot.token)
    (hshared : slot'.shared = (slot.shared.store value).1)
    (hstores : slot'.stores = slot.stores ++ [value])
    (hlive : slot.live = false → slot'.live = false)
    (howned : slot.owned = false → slot'.owned = false)
    (hgroup : u = false → slot'.group = slot.group)
    (hvalue : value = none ∨ u = true ∧ slot.live = true)
    (hempty : slot'.live = false ∨ slot'.owned = false →
      (value.isSome && (slot.shared.store value).2) = false) :
    Follows u slot slot' := by
  have hnull (hquiet : u = false ∨ slot.live = false) : value = none := by
    refine hvalue.resolve_right fun ⟨hupdates, hopen⟩ => ?_
    rw [hupdates, hopen] at hquiet
    rcases hquiet with hquiet | hquiet <;> contradiction
  refine ⟨htoken, hlive, howned, hgroup, ?_, ⟨[value], hstores, ?_⟩, fun h => ⟨?_, ?_⟩⟩
  · intro hquiet _
    rw [hshared, store_valid, hnull (.inl hquiet)]
    rfl
  · intro hquiet v hv
    exact (List.mem_singleton.mp hv).trans (hnull hquiet)
  · rw [hshared, hstores, h.shared, memory_after, memory_after, List.foldl_concat]
  · intro hgone
    rw [hshared, store_valid]
    exact hempty hgone

/-! ## What a call does to the registry -/

/-- A step that opens no slot. -/
structure Kept (updates : Nat → Bool) (s s' : KeyRegistry) : Prop where
  some : ∀ id slot, s.heap.get id = some slot →
    ∃ slot', s'.heap.get id = some slot' ∧ Follows (updates id) slot slot'
  none : ∀ id, s.heap.get id = none → s'.heap.get id = none
  next : s'.next = s.next
  slots : s'.slots = s.slots
  issued : s'.issued = s.issued

variable {s s' s'' : KeyRegistry} {us : Nat → Bool} {id : Nat}

theorem Kept.refl (us : Nat → Bool) (s : KeyRegistry) : Kept us s s :=
  ⟨fun id slot h => ⟨slot, h, Follows.refl (us id) slot⟩, fun _ h => h, rfl, rfl, rfl⟩

theorem Kept.trans (h : Kept us s s') (h' : Kept us s' s'') : Kept us s s'' := by
  refine ⟨?_, fun id hnone => h'.none id (h.none id hnone), h'.next.trans h.next,
    h'.slots.trans h.slots, h'.issued.trans h.issued⟩
  intro id slot hslot
  obtain ⟨slot', hslot', hfollows⟩ := h.some id slot hslot
  obtain ⟨slot'', hslot'', hfollows'⟩ := h'.some id slot' hslot'
  refine ⟨slot'', hslot'', ?_⟩
  rw [← Bool.or_self (us id)]
  exact hfollows.trans hfollows'

theorem Kept.put (hslot : s.heap.get id = .some slot) (h : Follows (us id) slot slot') :
    Kept us s (s.put id slot') := by
  refine ⟨?_, ?_, rfl, rfl, rfl⟩
  · intro other old hold
    simp only [KeyRegistry.put, FinMap.get_insert]
    split
    · rename_i hsame
      subst hsame
      rw [hslot] at hold
      cases hold
      exact ⟨slot', rfl, h⟩
    · exact ⟨old, hold, Follows.refl _ _⟩
  · intro other hnone
    simp only [KeyRegistry.put, FinMap.get_insert]
    split
    · rename_i hsame
      rw [hsame, hslot] at hnone
      contradiction
    · exact hnone

theorem lock_eq_some {i : Fin kSessionCapacity} :
    s.lock i = some (id, slot) ↔
      s.slots i = some id ∧ s.heap.get id = some slot ∧ slot.owned = true := by
  unfold lock
  constructor
  · intro h
    split at h
    · contradiction
    rename_i held hheld
    split at h
    · contradiction
    rename_i found hfound
    split at h
    · rename_i howned
      cases h
      exact ⟨hheld, hfound, howned⟩
    · contradiction
  · rintro ⟨hentry, hslot, howned⟩
    simp only [hentry, hslot, howned, if_true]

/-! ## The loops over the table -/

section Sweep

variable {passes : Slot → Bool} {change : Slot → Slot}

section

variable (hchange : ∀ slot, Follows false slot (change slot))
include hchange

theorem sweep_entry_keeps (s : KeyRegistry) (i : Fin kSessionCapacity) :
    Kept (fun _ => false) s (s.sweep_entry passes change i) := by
  unfold sweep_entry
  split
  · exact Kept.refl _ s
  rename_i id slot hlock
  split
  · exact Kept.put (lock_eq_some.mp hlock).2.1 (hchange slot)
  · exact Kept.refl _ s

theorem sweep_entries_keep (is : List (Fin kSessionCapacity)) (s : KeyRegistry) :
    Kept (fun _ => false) s (is.foldl (sweep_entry passes change) s) := by
  induction is generalizing s with
  | nil => exact Kept.refl _ s
  | cons i is ih => exact (sweep_entry_keeps hchange s i).trans (ih _)

theorem sweep_keeps : Kept (fun _ => false) s (s.sweep passes change) :=
  sweep_entries_keep hchange _ s

end

/-- An entry leaves a slot as it is, or changes it; its own slot it changes. -/
theorem sweep_entry_slot (change : Slot → Slot) (i : Fin kSessionCapacity)
    (hslot : s.heap.get id = some slot) (howned : slot.owned = true)
    (hpasses : passes slot = true) :
    (s.sweep_entry passes change i).heap.get id = some (change slot) ∨
      s.slots i ≠ some id ∧ (s.sweep_entry passes change i).heap.get id = some slot := by
  by_cases hentry : s.slots i = some id
  · left
    unfold sweep_entry
    rw [lock_eq_some.mpr ⟨hentry, hslot, howned⟩]
    simp only [hpasses, if_true, put, FinMap.get_insert_self]
  · right
    refine ⟨hentry, ?_⟩
    unfold sweep_entry
    split
    · exact hslot
    rename_i other found hlock
    have hother : id ≠ other := fun hsame => hentry (hsame ▸ (lock_eq_some.mp hlock).1)
    split
    · simp only [put, FinMap.get_insert, if_neg hother, hslot]
    · exact hslot

/-- The loop reaches every slot that the table refers to. -/
theorem sweep_finds {Q : Slot → Prop} (hchange : ∀ slot, Follows false slot (change slot))
    (hstays : ∀ slot slot', Q slot → Follows false slot slot' → Q slot')
    {i : Fin kSessionCapacity} (hentry : s.slots i = some id) (hslot : s.heap.get id = some slot)
    (howned : slot.owned = true) (hpasses : passes slot = true) (hQ : Q (change slot)) :
    ∃ slot', (s.sweep passes change).heap.get id = some slot' ∧ Q slot' := by
  have hmem := List.mem_finRange i
  unfold sweep
  generalize List.finRange kSessionCapacity = is at hmem
  induction is generalizing s with
  | nil => contradiction
  | cons j is ih =>
    have hkept : Kept _ s (s.sweep_entry passes change j) := sweep_entry_keeps hchange s j
    rcases sweep_entry_slot change j hslot howned hpasses with hdone | ⟨hne, hsame⟩
    · -- from here on the slot only follows what it was changed to
      obtain ⟨slot', hslot', hfollows⟩ := (sweep_entries_keep hchange is _).some id _ hdone
      exact ⟨slot', hslot', hstays _ _ hQ hfollows⟩
    · have hlater : i ∈ is := (List.mem_cons.mp hmem).resolve_left fun h => hne (h ▸ hentry)
      exact ih ((congrFun hkept.slots i).trans hentry) hsame hlater

end Sweep

/-! ## One call -/

theorem Follows.weaken (h : Follows false slot slot') (u : Bool) : Follows u slot slot' := by
  rw [← Bool.or_false u]
  exact (Follows.refl u slot).trans h

theorem Kept.weaken (h : Kept (fun _ => false) s s') (us : Nat → Bool) : Kept us s s' :=
  ⟨fun id slot hslot => (h.some id slot hslot).imp fun _ hnew => ⟨hnew.1, hnew.2.weaken (us id)⟩,
    h.none, h.next, h.slots, h.issued⟩

/-- Whether a call is an update of the slot. -/
def RegistryCall.updates : RegistryCall → Nat → Bool
  | .Update id _ _, other => id = other
  | _, _ => false

theorem held_eq_some : s.held id = some slot ↔ s.heap.get id = some slot ∧ slot.owned = true := by
  unfold KeyRegistry.held
  rw [Option.filter_eq_some_iff]

theorem follows_null (slot : Slot) : Follows false slot (slot.store none).1 :=
  follows_store rfl rfl rfl id id (fun _ => rfl) (.inl rfl) fun _ => rfl

theorem follows_closed (slot : Slot) :
    Follows false slot { (slot.store none).1 with live := false } :=
  follows_store rfl rfl rfl (fun _ => rfl) id (fun _ => rfl) (.inl rfl) fun _ => rfl

theorem follows_released (slot : Slot) :
    Follows false slot { (slot.store none).1 with owned := false } :=
  follows_store rfl rfl rfl id (fun _ => rfl) (fun _ => rfl) (.inl rfl) fun _ => rfl

theorem update_keeps (hheld : s.held id = some slot) (keys : Secret16) (group : UInt8) :
    Kept (RegistryCall.Update id keys group).updates s (s.update id slot keys group).1 := by
  obtain ⟨hslot, howned⟩ := held_eq_some.mp hheld
  have hupdates : (RegistryCall.Update id keys group).updates id = true := decide_eq_true rfl
  unfold update
  split
  · exact Kept.refl _ s
  rename_i hclosed
  have hlive : slot.live = true := by simpa using hclosed
  have hnotquiet {P : Prop} (h : (RegistryCall.Update id keys group).updates id = false) : P := by
    rw [hupdates] at h
    contradiction
  dsimp only
  split
  · -- the sequence has come to its end: the slot is closed
    rename_i hfailed
    refine Kept.put hslot (follows_store rfl rfl rfl (fun _ => rfl) (fun h => h) hnotquiet
      (.inr ⟨hupdates, hlive⟩) ?_)
    intro _
    simpa [Slot.store] using hfailed
  · refine Kept.put hslot (follows_store rfl rfl rfl (fun h => h) (fun h => h) hnotquiet
      (.inr ⟨hupdates, hlive⟩) ?_)
    rintro (hgone | hgone)
    · exact absurd hlive (by rw [show slot.live = false from hgone]; nofun)
    · exact absurd howned (by rw [show slot.owned = false from hgone]; nofun)

/-- Every call but an opening keeps the table, and each slot follows what it was. -/
theorem call_keeps (s : KeyRegistry) (call : RegistryCall) (h : ∀ draws, call ≠ .Open draws) :
    Kept call.updates s (s.call call).1 := by
  cases call with
  | Open draws => exact absurd rfl (h draws)
  | Close id =>
    simp only [KeyRegistry.call]
    split
    · exact Kept.refl _ s
    · rename_i slot hheld
      exact Kept.put (held_eq_some.mp hheld).1 (follows_closed slot)
  | Update id keys group =>
    simp only [KeyRegistry.call]
    split
    · exact Kept.refl _ s
    · rename_i slot hheld
      exact update_keeps hheld keys group
  | InvalidateGroup group =>
    simp only [KeyRegistry.call]
    exact (sweep_keeps follows_null).weaken _
  | RevokeAll =>
    simp only [KeyRegistry.call]
    exact (sweep_keeps follows_closed).weaken _
  | Release id =>
    simp only [KeyRegistry.call]
    split
    · exact Kept.refl _ s
    · rename_i slot hheld
      exact Kept.put (held_eq_some.mp hheld).1 (follows_released slot)

theorem draw_token.spec {issued : List Token} {draws : List Draw} {token : Token}
    (h : draw_token issued draws = some token) :
    token ∉ issued ∧ ¬ token.val.all (· = 0) = true := by
  induction draws with
  | nil => contradiction
  | cons draw draws ih =>
    unfold draw_token at h
    split at h
    · contradiction
    split at h
    · exact ih h
    rename_i hnew
    split at h
    · cases h
      exact not_or.mp hnew
    · contradiction

/-- What an opening does, if it does anything. -/
def opened (s : KeyRegistry) (empty : Fin kSessionCapacity) (token : Token) : KeyRegistry where
  heap := s.heap.insert s.next { token }
  next := s.next + 1
  slots := Function.update s.slots empty (some s.next)
  issued := token :: s.issued

theorem open_slot.spec (s : KeyRegistry) (draws : List Draw) :
    (s.open_slot draws).1 = s ∨ ∃ empty token, s.isEmpty empty = true ∧ token ∉ s.issued ∧
      ¬ token.val.all (· = 0) = true ∧ (s.open_slot draws).1 = opened s empty token := by
  unfold KeyRegistry.open_slot
  split
  · exact .inl rfl
  rename_i empty hempty
  split
  · exact .inl rfl
  rename_i token htoken
  obtain ⟨hnew, hzero⟩ := draw_token.spec htoken
  exact .inr ⟨empty, token, List.find?_some hempty, hnew, hzero, rfl⟩

/-! ## The invariant -/

structure RegistryFits (s : KeyRegistry) : Prop where
  fresh : ∀ {id slot}, s.heap.get id = some slot → id < s.next
  fits : ∀ {id slot}, s.heap.get id = some slot → slot.Fits
  /-- The table refers to every slot that may hold a key. -/
  listed : ∀ {id slot}, s.heap.get id = some slot → slot.live = true → slot.owned = true →
    ∃ i, s.slots i = some id
  issued : ∀ {id slot}, s.heap.get id = some slot → slot.token ∈ s.issued
  nonzero : ∀ token ∈ s.issued, ¬ token.val.all (· = 0) = true
  distinct : ∀ {id id' slot slot'}, s.heap.get id = some slot → s.heap.get id' = some slot' →
    slot.token = slot'.token → id = id'

theorem initial_fits : RegistryFits {} :=
  ⟨fun h => absurd h FinMap.get_empty_ne, fun h => absurd h FinMap.get_empty_ne,
    fun h => absurd h FinMap.get_empty_ne, fun h => absurd h FinMap.get_empty_ne,
    fun _ h => absurd h List.not_mem_nil, fun h => absurd h FinMap.get_empty_ne⟩

/-- A slot behind a step that opens none was there before. -/
theorem Kept.back (h : Kept us s s') (hslot' : s'.heap.get id = .some slot') :
    ∃ slot, s.heap.get id = .some slot ∧ Follows (us id) slot slot' := by
  cases hslot : s.heap.get id with
  | none =>
    rw [h.none id hslot] at hslot'
    contradiction
  | some slot =>
    obtain ⟨new, hnew, hfollows⟩ := h.some id slot hslot
    rw [hnew] at hslot'
    cases hslot'
    exact ⟨slot, rfl, hfollows⟩

theorem RegistryFits.keep (hfits : RegistryFits s) (h : Kept us s s') : RegistryFits s' := by
  refine ⟨?_, ?_, ?_, ?_, by rw [h.issued]; exact hfits.nonzero, ?_⟩
  · intro id slot' hslot'
    obtain ⟨slot, hslot, -⟩ := h.back hslot'
    exact h.next ▸ hfits.fresh hslot
  · intro id slot' hslot'
    obtain ⟨slot, hslot, hfollows⟩ := h.back hslot'
    exact hfollows.fits (hfits.fits hslot)
  · intro id slot' hslot' hlive howned
    obtain ⟨slot, hslot, hfollows⟩ := h.back hslot'
    rw [h.slots]
    refine hfits.listed hslot ?_ ?_
    · exact Bool.of_not_eq_false fun hclosed => by simp [hfollows.live hclosed] at hlive
    · exact Bool.of_not_eq_false fun hgone => by simp [hfollows.owned hgone] at howned
  · intro id slot' hslot'
    obtain ⟨slot, hslot, hfollows⟩ := h.back hslot'
    rw [h.issued, hfollows.token]
    exact hfits.issued hslot
  · intro id id' slot' other' hslot' hother' htoken
    obtain ⟨slot, hslot, hfollows⟩ := h.back hslot'
    obtain ⟨other, hother, hfollows'⟩ := h.back hother'
    rw [hfollows.token, hfollows'.token] at htoken
    exact hfits.distinct hslot hother htoken

theorem opened_cases {token : Token} (h : (opened s empty token).heap.get id = some slot) :
    id = s.next ∧ slot = { token } ∨ s.heap.get id = some slot := by
  exact (FinMap.get_of_insert h).imp_right And.right

/-- An entry that is taken for the new slot referred to no slot that may hold a key. -/
theorem RegistryFits.opens (hfits : RegistryFits s) {token : Token}
    (hempty : s.isEmpty empty = true) (hnew : token ∉ s.issued)
    (hzero : ¬ token.val.all (· = 0) = true) : RegistryFits (opened s empty token) := by
  refine ⟨?_, ?_, ?_, ?_, ?_, ?_⟩
  · intro id slot hslot
    rcases opened_cases hslot with ⟨hid, -⟩ | hold
    · exact hid ▸ Nat.lt_succ_self _
    · exact Nat.lt_succ_of_lt (hfits.fresh hold)
  · intro id slot hslot
    rcases opened_cases hslot with ⟨-, hslot⟩ | hold
    · subst hslot
      exact ⟨rfl, fun _ => rfl⟩
    · exact hfits.fits hold
  · intro id slot hslot hlive howned
    rcases opened_cases hslot with ⟨hid, -⟩ | hold
    · exact ⟨empty, by simp only [opened, Function.update_self, hid]⟩
    · obtain ⟨i, hi⟩ := hfits.listed hold hlive howned
      have hne : i ≠ empty := by
        rintro rfl
        unfold isEmpty at hempty
        rw [lock_eq_some.mpr ⟨hi, hold, howned⟩] at hempty
        simp [hlive] at hempty
      exact ⟨i, by simp only [opened, Function.update_of_ne hne, hi]⟩
  · intro id slot hslot
    rcases opened_cases hslot with ⟨-, hslot⟩ | hold
    · exact hslot ▸ List.mem_cons_self
    · exact List.mem_cons_of_mem _ (hfits.issued hold)
  · intro other hother
    rcases List.mem_cons.mp hother with hother | hold
    · exact hother ▸ hzero
    · exact hfits.nonzero other hold
  · intro id id' slot slot' hslot hslot' htoken
    rcases opened_cases hslot with ⟨hid, hslot⟩ | hold <;>
      rcases opened_cases hslot' with ⟨hid', hslot'⟩ | hold'
    · exact hid.trans hid'.symm
    · rw [hslot] at htoken
      exact absurd (hfits.issued hold') (htoken ▸ hnew)
    · rw [hslot'] at htoken
      exact absurd (hfits.issued hold) (htoken ▸ hnew)
    · exact hfits.distinct hold hold' htoken

theorem call_fits (hfits : RegistryFits s) (call : RegistryCall) :
    RegistryFits (s.call call).1 ∧ ∀ id slot, s.heap.get id = some slot →
      ∃ slot', (s.call call).1.heap.get id = some slot' ∧ Follows (call.updates id) slot slot' := by
  by_cases hopen : ∃ draws, call = .Open draws
  · obtain ⟨draws, rfl⟩ := hopen
    rcases open_slot.spec s draws with hsame | ⟨empty, token, hempty, hnew, hzero, heq⟩
    · simp only [KeyRegistry.call, hsame]
      exact ⟨hfits, fun id slot hslot => ⟨slot, hslot, Follows.refl _ slot⟩⟩
    · simp only [KeyRegistry.call, heq]
      refine ⟨hfits.opens hempty hnew hzero, fun id slot hslot => ⟨slot, ?_, .refl _ slot⟩⟩
      simp only [opened, FinMap.get_insert, if_neg (Nat.ne_of_lt (hfits.fresh hslot)), hslot]
  · have hkept := call_keeps s call (not_exists.mp hopen)
    exact ⟨hfits.keep hkept, hkept.some⟩

/-! ## Runs -/

/-- The registry behind calls. -/
def after_calls (s : KeyRegistry) (calls : List RegistryCall) : KeyRegistry :=
  (run KeyRegistry.call s calls).1

theorem after_calls_nil (s : KeyRegistry) : after_calls s [] = s := rfl

theorem after_calls_cons (s : KeyRegistry) (call : RegistryCall) (calls : List RegistryCall) :
    after_calls s (call :: calls) = after_calls (s.call call).1 calls := by
  simp only [after_calls, run_cons]

theorem after_calls_append (s : KeyRegistry) (calls later : List RegistryCall) :
    after_calls s (calls ++ later) = after_calls (after_calls s calls) later := by
  simp only [after_calls, run_append]

theorem run_fits (hfits : RegistryFits s) (calls : List RegistryCall) :
    RegistryFits (after_calls s calls) :=
  run_keeps (P := RegistryFits) (fun _ call h => (call_fits h call).1) s calls hfits

theorem run_follows (hfits : RegistryFits s) (calls : List RegistryCall)
    (hslot : s.heap.get id = some slot) :
    ∃ slot', (after_calls s calls).heap.get id = some slot' ∧
      Follows (calls.any (·.updates id)) slot slot' := by
  induction calls generalizing s slot with
  | nil => exact ⟨slot, hslot, Follows.refl _ slot⟩
  | cons call calls ih =>
    obtain ⟨hfits', hcall⟩ := call_fits hfits call
    obtain ⟨mid, hmid, hfirst⟩ := hcall id slot hslot
    obtain ⟨slot', hslot', hrest⟩ := ih hfits' hmid
    exact ⟨slot', hslot', hfirst.trans hrest⟩

/-! ## The law -/

/-- The stores that a slot has seen. -/
def stores_of (s : KeyRegistry) (id : Nat) : List (Option Secret16) :=
  ((s.heap.get id).map Slot.stores).getD []

/-- While these calls are made, no reader gets a key from the slot. -/
def KeyGone (s : KeyRegistry) (later : List RegistryCall) (id : Nat) : Prop :=
  ∃ more, stores_of (after_calls s later) id = stores_of s id ++ more ∧
    GivesNoKey (stores_of s id) more

/-- Every update of the slot by its session is refused. -/
def Refuses (s : KeyRegistry) (id : Nat) : Prop :=
  ∀ slot, s.held id = some slot → ∀ keys group,
    (s.call (.Update id keys group)).2 = some .SessionClosed

/-- A slot that shows no key, with no update to come or closed. -/
theorem key_gone (hfits : RegistryFits s) (hslot : s.heap.get id = some slot)
    (hvalid : slot.shared.valid = false) {later : List RegistryCall}
    (hquiet : later.any (·.updates id) = false ∨ slot.live = false) : KeyGone s later id := by
  obtain ⟨slot', hslot', hfollows⟩ := run_follows hfits later hslot
  obtain ⟨more, hmore, hnull⟩ := hfollows.stores
  have hstores : stores_of s id = slot.stores := by simp [stores_of, hslot]
  have hmemory : (memory_after {} slot.stores).valid = false := by
    rw [← (hfits.fits hslot).shared]
    exact hvalid
  refine ⟨more, ?_, ?_⟩
  · rw [hstores, ← hmore]
    simp [stores_of, hslot']
  · rw [hstores]
    exact gives_no_key hmemory (hnull hquiet)

theorem closed_for_good (hfits : RegistryFits s) (hslot : s.heap.get id = some slot)
    (hclosed : slot.live = false) (later : List RegistryCall) :
    Refuses (after_calls s later) id ∧ KeyGone s later id := by
  refine ⟨?_, key_gone hfits hslot ((hfits.fits hslot).emptied (.inl hclosed)) (.inr hclosed)⟩
  intro last hheld keys group
  obtain ⟨slot', hslot', hfollows⟩ := run_follows hfits later hslot
  have hlast := (held_eq_some.mp hheld).1
  rw [hslot'] at hlast
  cases hlast
  simp [KeyRegistry.call, hheld, update, hfollows.live hclosed]

theorem close_closes (hheld : s.held id = some slot) :
    ∃ slot', (s.call (.Close id)).1.heap.get id = some slot' ∧ slot'.live = false := by
  simp only [KeyRegistry.call, hheld, KeyRegistry.close, put, FinMap.get_insert_self]
  exact ⟨_, rfl, rfl⟩

theorem revokeAll_closes (hfits : RegistryFits s) (hheld : s.held id = some slot) :
    ∃ slot', (s.call .RevokeAll).1.heap.get id = some slot' ∧ slot'.live = false := by
  obtain ⟨hslot, howned⟩ := held_eq_some.mp hheld
  by_cases hlive : slot.live = true
  · obtain ⟨i, hentry⟩ := hfits.listed hslot hlive howned
    simp only [KeyRegistry.call]
    exact sweep_finds follows_closed (fun _ _ hclosed h => h.live hclosed) hentry
      hslot howned rfl rfl
  · obtain ⟨slot', hslot', hfollows⟩ := (call_fits hfits .RevokeAll).2 id slot hslot
    exact ⟨slot', hslot', hfollows.live (Bool.eq_false_iff.mpr hlive)⟩

/-- A slot of the group shows no key after its group was invalidated. -/
theorem invalidateGroup_empties (hfits : RegistryFits s) (hslot : s.heap.get id = some slot)
    {group : UInt8} (hgroup : slot.group = group) :
    ∃ slot', (s.call (.InvalidateGroup group)).1.heap.get id = some slot' ∧
      slot'.shared.valid = false := by
  obtain ⟨hfits', hcall⟩ := call_fits hfits (.InvalidateGroup group)
  obtain ⟨slot', hslot', hfollows⟩ := hcall id slot hslot
  by_cases hgone : slot.live = false ∨ slot.owned = false
  · exact ⟨slot', hslot', (hfits'.fits hslot').emptied (hgone.imp hfollows.live hfollows.owned)⟩
  rw [not_or, Bool.not_eq_false, Bool.not_eq_false] at hgone
  obtain ⟨i, hentry⟩ := hfits.listed hslot hgone.1 hgone.2
  simp only [KeyRegistry.call]
  exact sweep_finds follows_null (fun _ _ hempty h => h.valid rfl hempty)
    hentry hslot hgone.2 (decide_eq_true hgroup) (store_valid _ none)

theorem update_sets_group (hheld : s.held id = some slot) (keys : Secret16) (group : UInt8) :
    ∃ slot', (s.call (.Update id keys group)).1.heap.get id = some slot' ∧
      (slot'.live = false ∨ slot'.group = group) := by
  simp only [KeyRegistry.call, hheld]
  unfold update
  split
  · rename_i hclosed
    exact ⟨slot, (held_eq_some.mp hheld).1, .inl (by simpa using hclosed)⟩
  dsimp only
  split
  · exact ⟨_, FinMap.get_insert_self _ _, .inl rfl⟩
  · exact ⟨_, FinMap.get_insert_self _ _, .inr rfl⟩

/-- A slot of the group is without a key until its next update, and for good if it was closed. -/
theorem invalidated_until_update (hfits : RegistryFits s) (hslot : s.heap.get id = some slot)
    {group : UInt8} (hgroup : slot.live = false ∨ slot.group = group) {later : List RegistryCall}
    (hquiet : later.any (·.updates id) = false) :
    KeyGone (s.call (.InvalidateGroup group)).1 later id := by
  obtain ⟨hfits', hcall⟩ := call_fits hfits (.InvalidateGroup group)
  rcases hgroup with hclosed | hgroup
  · obtain ⟨slot', hslot', hfollows⟩ := hcall id slot hslot
    exact (closed_for_good hfits' hslot' (hfollows.live hclosed) later).2
  · obtain ⟨slot', hslot', hvalid⟩ := invalidateGroup_empties hfits hslot hgroup
    exact key_gone hfits' hslot' hvalid (.inl hquiet)

/-- Once a slot is closed, or revoked with all others, its updates are refused and it gives no key
again. Once the group of its latest update is invalidated it gives none until the next update. No
two slots have one token, and no token is zero. -/
theorem revoked_keys_never_come_back (calls later : List RegistryCall) (id : Nat) :
    (∀ call, call = .Close id ∨ call = .RevokeAll → ((after_calls {} calls).held id).isSome →
      Refuses (after_calls {} (calls ++ call :: later)) id ∧
        KeyGone (after_calls {} (calls ++ [call])) later id) ∧
    (∀ keys group between, ((after_calls {} calls).held id).isSome →
      (∀ call ∈ between ++ later, call.updates id = false) →
      KeyGone
        (after_calls {} (calls ++ .Update id keys group :: between ++ [.InvalidateGroup group]))
        later id) ∧
    (∀ slot, (after_calls {} calls).heap.get id = some slot →
      ¬ slot.token.val.all (· = 0) = true ∧
      ∀ other slot', (after_calls {} calls).heap.get other = some slot' →
        slot.token = slot'.token → id = other) := by
  have hfits := run_fits initial_fits calls
  refine ⟨?_, ?_, ?_⟩
  · intro call hcall hheld
    obtain ⟨slot, hheld⟩ := Option.isSome_iff_exists.mp hheld
    have hclosed : ∃ slot', ((after_calls {} calls).call call).1.heap.get id = some slot' ∧
        slot'.live = false := by
      rcases hcall with rfl | rfl
      · exact close_closes hheld
      · exact revokeAll_closes hfits hheld
    obtain ⟨slot', hslot', hlive⟩ := hclosed
    rw [after_calls_append, after_calls_append]
    exact closed_for_good (call_fits hfits call).1 hslot' hlive later
  · intro keys group between hheld hquiet
    obtain ⟨slot, hheld⟩ := Option.isSome_iff_exists.mp hheld
    have hquiet : (between ++ later).any (·.updates id) = false := by
      rw [List.any_eq_false]
      exact fun call hcall => Bool.eq_false_iff.mp (hquiet call hcall)
    rw [List.any_append, Bool.or_eq_false_iff] at hquiet
    obtain ⟨updated, hupdated, hgroup⟩ := update_sets_group hheld keys group
    have hfits' := (call_fits hfits (.Update id keys group)).1
    obtain ⟨slot', hslot', hfollows⟩ := run_follows hfits' between hupdated
    rw [hquiet.1] at hfollows
    have hgroup' := hgroup.imp hfollows.live ((hfollows.group rfl).trans ·)
    rw [List.append_assoc, after_calls_append, List.cons_append, after_calls_cons,
      after_calls_append, after_calls_cons, after_calls_nil]
    exact invalidated_until_update (run_fits hfits' between) hslot' hgroup' hquiet.2
  · intro slot hslot
    exact ⟨hfits.nonzero _ (hfits.issued hslot), fun other slot' => hfits.distinct hslot⟩

namespace OneSlot

def token : Token := ⟨List.replicate 16 1, rfl⟩

def keys : Secret16 := ⟨List.replicate 16 7, rfl⟩

def calls : List RegistryCall := [.Open [⟨some token, true⟩], .Update 0 keys 2]

theorem the_closed_slot_gives_no_key :
    ((after_calls {} calls).held 0).isSome = true ∧
      Refuses (after_calls {} (calls ++ [.Close 0, .RevokeAll])) 0 ∧
      KeyGone (after_calls {} (calls ++ [.Close 0])) [.RevokeAll] 0 := by
  have hheld : ((after_calls {} calls).held 0).isSome = true := by decide
  exact ⟨hheld, (revoked_keys_never_come_back calls [.RevokeAll] 0).1 (.Close 0) (.inl rfl) hheld⟩

end OneSlot

/-! ## Readers -/

/-- No reader is bound to a slot that is closed or gone, and no other slot has its token. -/
theorem bind_refuses (hfits : RegistryFits s) (hslot : s.heap.get id = some slot)
    (hdead : slot.live = false ∨ slot.owned = false) (fd : Int) :
    s.bind slot.token fd = (.SessionClosed, -1) := by
  unfold KeyRegistry.bind
  dsimp only
  split
  · rfl
  rename_i other hfound
  obtain ⟨i, -, hentry⟩ := List.exists_of_findSome?_eq_some hfound
  obtain ⟨hlock, hmatch⟩ := Option.filter_eq_some_iff.mp hentry
  obtain ⟨-, hother, howned⟩ := lock_eq_some.mp hlock
  rw [Bool.and_eq_true, decide_eq_true_iff] at hmatch
  cases hfits.distinct hother hslot hmatch.2
  cases hother.symm.trans hslot
  rcases hdead with hclosed | hgone
  · exact absurd (hclosed.symm.trans hmatch.1) Bool.false_ne_true
  · exact absurd (hgone.symm.trans howned) Bool.false_ne_true

/-- A revoked token is dead: no reader is bound again to a slot that was there when it was closed,
or when all were revoked, whatever is called later. -/
theorem revoked_tokens_are_never_bound (calls later : List RegistryCall) {call : RegistryCall}
    (hcall : call = .Close id ∨ call = .RevokeAll)
    (hslot : (after_calls {} calls).heap.get id = some slot) (fd : Int) :
    (after_calls {} (calls ++ call :: later)).bind slot.token fd = (.SessionClosed, -1) := by
  have hfits : RegistryFits (after_calls {} calls) := run_fits initial_fits calls
  obtain ⟨hfits', hcalled⟩ := call_fits hfits call
  obtain ⟨slot', hslot', hfollows⟩ := hcalled id slot hslot
  obtain ⟨last, hlast, hlater⟩ := run_follows hfits' later hslot'
  rw [after_calls_append, after_calls_cons, ← hfollows.token, ← hlater.token]
  refine bind_refuses (run_fits hfits' later) hlast ?_ fd
  by_cases howned : slot.owned = true
  · left
    have hheld := held_eq_some.mpr ⟨hslot, howned⟩
    obtain ⟨closed, hclosed, hlive⟩ : ∃ slot', ((after_calls {} calls).call call).1.heap.get id =
        some slot' ∧ slot'.live = false := by
      rcases hcall with rfl | rfl
      · exact close_closes hheld
      · exact revokeAll_closes hfits hheld
    cases hclosed.symm.trans hslot'
    exact hlater.live hlive
  · exact .inr (hlater.owned (hfollows.owned (Bool.eq_false_iff.mpr howned)))

namespace OneSlot

theorem the_revoked_token_is_not_bound : ∃ slot, (after_calls {} calls).heap.get 0 = some slot ∧
    (after_calls {} (calls ++ [.RevokeAll])).bind slot.token 3 = (.SessionClosed, -1) := by
  have hopened : ((after_calls {} calls).heap.get 0).isSome = true := by decide
  obtain ⟨slot, hslot⟩ := Option.isSome_iff_exists.mp hopened
  exact ⟨slot, hslot, revoked_tokens_are_never_bound calls [] (.inr rfl) hslot 3⟩

end OneSlot

end maleicacid.cas
