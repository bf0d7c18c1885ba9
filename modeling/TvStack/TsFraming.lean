-- The framer of the transport stream: `TsPacketCompletionBuffer` takes bytes
-- in reads of any size and gives packets of 188 bytes. In sync it needs one
-- sync byte for each packet. Out of sync it waits for three of them, 188 bytes
-- apart, and keeps a tail of 376 bytes.
import TvStack.Loops
import TvStack.Words
import Mathlib.Tactic.Ring

open Loops Words

namespace tuner_hal2_common

def TS_PACKET_SIZE : Nat := 188
def TS_RESYNC_CONFIRM_PACKETS : Nat := 3
def TS_RESYNC_TAIL_BYTES : Nat := TS_PACKET_SIZE * (TS_RESYNC_CONFIRM_PACKETS - 1)
def TS_RESYNC_CONFIRM_BYTES : Nat := TS_RESYNC_TAIL_BYTES + 1

/-- `[u8; TS_PACKET_SIZE]` -/
abbrev TsPacket := { bytes : List UInt8 // bytes.length = TS_PACKET_SIZE }

structure TsPacketBufferDrain where
  packets : List TsPacket
  malformed_bytes : Nat

structure TsPacketCompletionBuffer where
  buf : List UInt8 := []
  completed : List TsPacket := []
  malformed_bytes : Nat := 0
  malformed_bytes_saturated : Bool := false
  resync_required : Bool := false

namespace TsPacketCompletionBuffer

variable {buf : List UInt8} {o : Nat}

/-! ## The Rust functions -/

def add_local_malformed (localCount amount : Nat) (saturated : Bool) : Nat × Bool :=
  if localCount + amount ≤ USIZE_MAX then (localCount + amount, saturated) else (USIZE_MAX, true)

variable (b : List UInt8) (s : TsPacketCompletionBuffer)

def add_malformed_bytes (amount : Nat) : TsPacketCompletionBuffer :=
  if amount = 0 then s
  else
    let amount := min amount U64_MAX
    let s :=
      if s.malformed_bytes + amount ≤ U64_MAX then
        { s with malformed_bytes := s.malformed_bytes + amount }
      else { s with malformed_bytes := U64_MAX, malformed_bytes_saturated := true }
    if amount = U64_MAX then { s with malformed_bytes_saturated := true } else s

def confirmed_sync_offset (buf : List UInt8) : Option Nat :=
  if buf.length < TS_RESYNC_CONFIRM_BYTES then none
  else
    let last_start := buf.length - TS_RESYNC_CONFIRM_BYTES
    (List.range (last_start + 1)).find? fun offset =>
      (List.range TS_RESYNC_CONFIRM_PACKETS).all fun packet_index =>
        buf[offset + packet_index * TS_PACKET_SIZE]? == some 0x47

/-- The variables of the loop of `push`. -/
structure PushVars where
  buffer : TsPacketCompletionBuffer
  malformed_bytes : Nat
  local_malformed_saturated : Bool

variable {v w : PushVars}

/-- `self.buf.drain(..amount)`, counted as malformed. -/
def PushVars.discard (v : PushVars) (amount : Nat) : PushVars :=
  let counted := add_local_malformed v.malformed_bytes amount v.local_malformed_saturated
  { buffer := { v.buffer with buf := v.buffer.buf.drop amount },
    malformed_bytes := counted.1, local_malformed_saturated := counted.2 }

/-- `self.resync_required = required` -/
def PushVars.resync (v : PushVars) (required : Bool) : PushVars :=
  { v with buffer := { v.buffer with resync_required := required } }

/-- The first 188 bytes of the buffer move to `completed` as one packet. -/
def PushVars.complete (v : PushVars) (h : ¬ v.buffer.buf.length < TS_PACKET_SIZE) : PushVars :=
  let packet : TsPacket :=
    ⟨v.buffer.buf.take TS_PACKET_SIZE, by rw [List.length_take]; omega⟩
  { v with buffer :=
    { v.buffer with
      buf := v.buffer.buf.drop TS_PACKET_SIZE, completed := v.buffer.completed ++ [packet] } }

/-- One turn of the loop of `push`. -/
def push_turn (v : PushVars) : ForInStep PushVars :=
  if v.buffer.resync_required then
    match confirmed_sync_offset v.buffer.buf with
    | none =>
      if v.buffer.buf.length > TS_RESYNC_TAIL_BYTES then
        .done (v.discard (v.buffer.buf.length - TS_RESYNC_TAIL_BYTES))
      else .done v
    | some offset => .yield ((if offset > 0 then v.discard offset else v).resync false)
  else if h : v.buffer.buf.length < TS_PACKET_SIZE then .done v
  else if v.buffer.buf.head? ≠ some 0x47 then .yield (v.resync true)
  else .yield (v.complete h)

/-- A turn takes bytes away, or goes from one mode to the other. It leaves the synced mode only
at a byte that is no sync byte, and comes back to it only at a sync byte. -/
def push_size (v : PushVars) : Nat :=
  3 * v.buffer.buf.length +
    if v.buffer.resync_required = (v.buffer.buf.head? == some 0x47) then 2 else 1

/-- The loop that moves packets out of `completed`. -/
def drain_loop (max_packets : Nat) : List TsPacket → List TsPacket → List TsPacket × List TsPacket
  | packets, [] => (packets, [])
  | packets, packet :: rest =>
    if packets.length < max_packets then drain_loop max_packets (packets ++ [packet]) rest
    else (packets, packet :: rest)

def drain_completed (max_packets : Nat) : TsPacketCompletionBuffer × List TsPacket :=
  let r := drain_loop max_packets [] s.completed
  ({ s with completed := r.2 }, r.1)

/-- The end of `push`: the malformed bytes of the call go to the counter of the buffer. -/
def PushVars.counted (v : PushVars) : TsPacketCompletionBuffer :=
  let s := if v.malformed_bytes > 0 then v.buffer.add_malformed_bytes v.malformed_bytes
    else v.buffer
  if v.local_malformed_saturated then { s with malformed_bytes_saturated := true } else s

open PushVars

def push (data : List UInt8) : TsPacketCompletionBuffer × TsPacketBufferDrain :=
  let v := loop push_turn push_size ⟨{ s with buf := s.buf ++ data }, 0, false⟩
  let r := v.counted.drain_completed USIZE_MAX
  (r.1, { packets := r.2, malformed_bytes := v.malformed_bytes })

def push_limited (data : List UInt8) (max_packets : Nat) :
    TsPacketCompletionBuffer × TsPacketBufferDrain :=
  let r := s.push data
  if r.2.packets.length ≤ max_packets then r
  else
    let packets := r.2.packets.take max_packets
    let pending := r.2.packets.drop max_packets
    -- `push_front` of each pending packet, the last one first
    let completed := pending.reverse.foldl (fun queue packet => packet :: queue) r.1.completed
    ({ r.1 with completed }, { packets, malformed_bytes := r.2.malformed_bytes })

def clear : TsPacketCompletionBuffer :=
  { s with buf := [], completed := [], resync_required := false }

def drain_for_boundary : TsPacketCompletionBuffer × TsPacketBufferDrain :=
  let r := s.drain_completed USIZE_MAX
  let malformed_bytes := r.1.buf.length
  let s := if malformed_bytes > 0 then { r.1.add_malformed_bytes malformed_bytes with buf := [] }
    else r.1
  ({ s with resync_required := false }, { packets := r.2, malformed_bytes })

/-! ## The sync search -/

/-- Three sync bytes, 188 bytes apart, the first at `o`. -/
def SyncedAt (buf : List UInt8) (o : Nat) : Prop :=
  ∀ k < TS_RESYNC_CONFIRM_PACKETS, buf[o + k * TS_PACKET_SIZE]? = some 0x47

theorem SyncedAt.lt_length (h : SyncedAt buf o) : o + TS_RESYNC_TAIL_BYTES < buf.length := by
  have h2 := h 2 (by decide)
  obtain ⟨hlt, _⟩ := List.getElem?_eq_some_iff.mp h2
  exact hlt

theorem SyncedAt.head (h : SyncedAt buf 0) : buf.head? = some 0x47 := by
  simpa [List.head?_eq_getElem?] using h 0 (by decide)

theorem SyncedAt.append (h : SyncedAt buf o) : SyncedAt (buf ++ b) o := by
  intro k hk
  obtain ⟨hlt, _⟩ := List.getElem?_eq_some_iff.mp (h k hk)
  rw [List.getElem?_append_left hlt]
  exact h k hk

theorem SyncedAt.of_append {b : List UInt8} (h : SyncedAt (buf ++ b) o)
    (ho : o + TS_RESYNC_TAIL_BYTES < buf.length) : SyncedAt buf o := by
  intro k hk
  have hlt : o + k * TS_PACKET_SIZE < buf.length := by
    simp only [TS_RESYNC_TAIL_BYTES, TS_PACKET_SIZE] at *
    omega
  have hs := h k hk
  rwa [List.getElem?_append_left hlt] at hs

theorem syncedAt_drop (buf : List UInt8) (d o : Nat) :
    SyncedAt (buf.drop d) o ↔ SyncedAt buf (o + d) := by
  constructor
  · intro h k hk
    have hs := h k hk
    rw [List.getElem?_drop] at hs
    rw [← hs]
    congr 1
    omega
  · intro h k hk
    rw [List.getElem?_drop, ← h k hk]
    congr 1
    omega

theorem confirmed_all_iff (buf : List UInt8) (o : Nat) :
    ((List.range TS_RESYNC_CONFIRM_PACKETS).all fun packet_index =>
      buf[o + packet_index * TS_PACKET_SIZE]? == some 0x47) = true ↔ SyncedAt buf o := by
  simp [SyncedAt]

theorem confirmed_sync_offset.spec_some (buf : List UInt8) (o : Nat) :
    confirmed_sync_offset buf = some o ↔ SyncedAt buf o ∧ ∀ j < o, ¬ SyncedAt buf j := by
  unfold confirmed_sync_offset
  split_ifs with hlt
  · simp only [false_iff, not_and]
    intro h
    have := h.lt_length
    simp only [TS_RESYNC_CONFIRM_BYTES] at hlt
    omega
  · simp only [List.find?_range_eq_some, confirmed_all_iff, Bool.not_eq_true', List.mem_range]
    constructor
    · rintro ⟨h1, _, h3⟩
      refine ⟨h1, fun j hj hs => ?_⟩
      have := h3 j hj
      rw [← Bool.not_eq_true, confirmed_all_iff] at this
      exact this hs
    · rintro ⟨h1, h2⟩
      have := h1.lt_length
      simp only [TS_RESYNC_CONFIRM_BYTES]
      refine ⟨h1, by omega, fun j hj => ?_⟩
      rw [← Bool.not_eq_true, confirmed_all_iff]
      exact h2 j hj

theorem confirmed_sync_offset.spec_none (buf : List UInt8) :
    confirmed_sync_offset buf = none ↔ ∀ o, ¬ SyncedAt buf o := by
  unfold confirmed_sync_offset
  split_ifs with hlt
  · simp only [true_iff]
    intro o h
    have := h.lt_length
    simp only [TS_RESYNC_CONFIRM_BYTES] at hlt
    omega
  · simp only [List.find?_range_eq_none, Bool.not_eq_true']
    constructor
    · intro h o hs
      have hl := hs.lt_length
      have := h o (by simp only [TS_RESYNC_CONFIRM_BYTES] at ⊢; omega)
      rw [← Bool.not_eq_true, confirmed_all_iff] at this
      exact this hs
    · intro h o _
      rw [← Bool.not_eq_true, confirmed_all_iff]
      exact h o

/-- A confirmed offset stays the first one when more bytes come. -/
theorem confirmed_sync_offset_append (h : confirmed_sync_offset buf = some o) :
    confirmed_sync_offset (buf ++ b) = some o := by
  rw [confirmed_sync_offset.spec_some] at h ⊢
  obtain ⟨hs, hfirst⟩ := h
  refine ⟨hs.append b, fun j hj hsj => hfirst j hj (hsj.of_append ?_)⟩
  have := hs.lt_length
  omega

/-- The tail of 376 bytes holds every offset that is not tested yet: without the bytes before
it, the search gives the same place. -/
theorem confirmed_sync_offset_drop {d : Nat} (h : confirmed_sync_offset buf = none)
    (hd : d + TS_RESYNC_TAIL_BYTES ≤ buf.length) :
    confirmed_sync_offset (buf ++ b) =
      (confirmed_sync_offset (buf.drop d ++ b)).map (· + d) := by
  rw [confirmed_sync_offset.spec_none] at h
  have hdrop : buf.drop d ++ b = (buf ++ b).drop d := by
    rw [List.drop_append_of_le_length (by omega)]
  have hsmall : ∀ j < d, ¬ SyncedAt (buf ++ b) j := fun j hj hs =>
    h j (hs.of_append (by omega))
  rw [hdrop]
  cases hc : confirmed_sync_offset ((buf ++ b).drop d) with
  | none =>
    rw [confirmed_sync_offset.spec_none] at hc
    simp only [Option.map_none]
    rw [confirmed_sync_offset.spec_none]
    intro o hs
    by_cases ho : o < d
    · exact hsmall o ho hs
    refine hc (o - d) ?_
    rw [syncedAt_drop]
    rwa [Nat.sub_add_cancel (by omega)]
  | some o =>
    rw [confirmed_sync_offset.spec_some] at hc
    simp only [Option.map_some]
    rw [confirmed_sync_offset.spec_some]
    refine ⟨(syncedAt_drop _ _ _).mp hc.1, fun j hj hs => ?_⟩
    by_cases hjd : j < d
    · exact hsmall j hjd hs
    refine hc.2 (j - d) (by omega) ?_
    rw [syncedAt_drop]
    rwa [Nat.sub_add_cancel (by omega)]

/-! ## One turn of the loop -/

section turns

variable {v : PushVars}

section

variable (hr : v.buffer.resync_required = true)
include hr

theorem push_turn_keep (hn : confirmed_sync_offset v.buffer.buf = none)
    (hl : v.buffer.buf.length ≤ TS_RESYNC_TAIL_BYTES) : push_turn v = .done v := by
  simp [push_turn, hr, hn, not_lt.mpr hl]

theorem push_turn_cut (hn : confirmed_sync_offset v.buffer.buf = none)
    (hl : TS_RESYNC_TAIL_BYTES < v.buffer.buf.length) :
    push_turn v = .done (v.discard (v.buffer.buf.length - TS_RESYNC_TAIL_BYTES)) := by
  simp [push_turn, hr, hn, hl]

theorem push_turn_found {o : Nat} (ho : confirmed_sync_offset v.buffer.buf = some o) :
    push_turn v = .yield ((if o > 0 then v.discard o else v).resync false) := by
  simp [push_turn, hr, ho]

end

section

variable (hr : v.buffer.resync_required = false)
include hr

theorem push_turn_short (hl : v.buffer.buf.length < TS_PACKET_SIZE) : push_turn v = .done v := by
  simp [push_turn, hr, hl]

theorem push_turn_lost (hl : ¬ v.buffer.buf.length < TS_PACKET_SIZE)
    (hh : v.buffer.buf.head? ≠ some 0x47) : push_turn v = .yield (v.resync true) := by
  simp [push_turn, hr, hl, hh]

theorem push_turn_complete (hl : ¬ v.buffer.buf.length < TS_PACKET_SIZE)
    (hh : v.buffer.buf.head? = some 0x47) : push_turn v = .yield (v.complete hl) := by
  simp [push_turn, hr, hl, hh]

end

/-- All that a turn that leaves the loop can do. -/
theorem push_turn_done {w : PushVars} (h : push_turn v = .done w) :
    (v.buffer.resync_required = true ∧ confirmed_sync_offset v.buffer.buf = none ∧
      ((v.buffer.buf.length ≤ TS_RESYNC_TAIL_BYTES ∧ w = v) ∨
        ∃ d, 0 < d ∧ v.buffer.buf.length = TS_RESYNC_TAIL_BYTES + d ∧ w = v.discard d)) ∨
    (v.buffer.resync_required = false ∧ v.buffer.buf.length < TS_PACKET_SIZE ∧ w = v) := by
  unfold push_turn at h
  split at h
  · rename_i hr
    split at h
    · rename_i hn
      refine .inl ⟨hr, hn, ?_⟩
      split at h
      · simp only [ForInStep.done.injEq] at h
        exact .inr ⟨v.buffer.buf.length - TS_RESYNC_TAIL_BYTES, by omega, by omega, h.symm⟩
      · cases h
        exact .inl ⟨by omega, rfl⟩
    · cases h
  · rename_i hr
    split at h
    · cases h
      exact .inr ⟨by simpa using hr, by assumption, rfl⟩
    · split at h <;> cases h

/-- All that a turn that goes on can do. -/
theorem push_turn_yield {w : PushVars} (h : push_turn v = .yield w) :
    (v.buffer.resync_required = true ∧ ∃ o, confirmed_sync_offset v.buffer.buf = some o ∧
      w = (if o > 0 then v.discard o else v).resync false) ∨
    (v.buffer.resync_required = false ∧ ¬ v.buffer.buf.length < TS_PACKET_SIZE ∧
      v.buffer.buf.head? ≠ some 0x47 ∧ w = v.resync true) ∨
    (v.buffer.resync_required = false ∧ v.buffer.buf.head? = some 0x47 ∧
      ∃ hl : ¬ v.buffer.buf.length < TS_PACKET_SIZE, w = v.complete hl) := by
  unfold push_turn at h
  split at h
  · rename_i hr
    split at h
    · split at h <;> cases h
    rename_i o ho
    cases h
    exact .inl ⟨hr, o, ho, rfl⟩
  · rename_i hr
    have hr : v.buffer.resync_required = false := by simpa using hr
    split at h
    · cases h
    rename_i hl
    split_ifs at h with hh
    · cases h
      exact .inr (.inl ⟨hr, hl, hh, rfl⟩)
    · cases h
      exact .inr (.inr ⟨hr, not_not.mp hh, hl, rfl⟩)

end turns

theorem push_turn_lowers : Lowers push_turn push_size := by
  intro v w h
  have hbound : ∀ u : PushVars, 3 * u.buffer.buf.length < push_size u ∧
      push_size u ≤ 3 * u.buffer.buf.length + 2 := by
    intro u
    unfold push_size
    split_ifs <;> omega
  have hv := hbound v
  have hw := hbound w
  rcases push_turn_yield h with ⟨hr, o, ho, rfl⟩ | ⟨hr, _, hh, rfl⟩ | ⟨hr, _, hl, rfl⟩
  · rw [confirmed_sync_offset.spec_some] at ho
    have hlt := ho.1.lt_length
    by_cases h0 : o > 0
    · rw [if_pos h0] at hw ⊢
      simp only [resync, PushVars.discard, List.length_drop] at hw ⊢
      omega
    · have h0 : o = 0 := by omega
      subst h0
      simp [push_size, resync, hr, ho.1.head]
  · have hb : (v.buffer.buf.head? == some 0x47) = false := by simpa using hh
    simp [push_size, resync, hr, hb]
  · simp only [complete, List.length_drop, TS_PACKET_SIZE] at hw hl ⊢
    omega

/-- The loop of `push`. -/
def pushed (v : PushVars) : PushVars := loop push_turn push_size v

theorem pushed_done (h : push_turn v = .done w) : pushed v = w :=
  loop_done push_turn_lowers h

theorem pushed_yield (h : push_turn v = .yield w) : pushed v = pushed w :=
  loop_yield push_turn_lowers h

/-! ## More bytes behind the buffer -/

/-- The bytes of a read, put behind the bytes of the buffer. -/
def PushVars.extend (v : PushVars) (b : List UInt8) : PushVars :=
  { v with buffer := { v.buffer with buf := v.buffer.buf ++ b } }

theorem add_local_malformed_add (c m n : Nat) (s : Bool) :
    add_local_malformed (add_local_malformed c m s).1 n (add_local_malformed c m s).2 =
      add_local_malformed c (m + n) s := by
  unfold add_local_malformed
  by_cases h1 : c + m ≤ USIZE_MAX
  · simp only [h1, if_true, Nat.add_assoc]
  have h2 : ¬ c + (m + n) ≤ USIZE_MAX := by omega
  simp only [h1, if_false]
  split
  · have : n = 0 := by omega
    simp [this]
  · rfl

theorem discard_discard (v : PushVars) (m n : Nat) :
    (v.discard m).discard n = v.discard (m + n) := by
  unfold PushVars.discard
  simp only [add_local_malformed_add, List.drop_drop]

theorem extend_discard (v : PushVars) (b : List UInt8) (n : Nat) (h : n ≤ v.buffer.buf.length) :
    (v.extend b).discard n = (v.discard n).extend b := by
  simp [PushVars.discard, extend, List.drop_append_of_le_length h]

/-- A turn that goes on does the same with more bytes behind the buffer. -/
theorem push_turn_extend (h : push_turn v = .yield w) :
    push_turn (v.extend b) = .yield (w.extend b) := by
  have hbuf : (v.extend b).buffer.buf = v.buffer.buf ++ b := rfl
  rcases push_turn_yield h with ⟨hr, o, ho, rfl⟩ | ⟨hr, hl, hh, rfl⟩ | ⟨hr, hh, hl, rfl⟩
  · rw [push_turn_found (v := v.extend b) hr (confirmed_sync_offset_append b ho)]
    rw [confirmed_sync_offset.spec_some] at ho
    have hlt := ho.1.lt_length
    split
    · rw [extend_discard v b o (by omega)]
      rfl
    · rfl
  · have hl' : ¬ (v.extend b).buffer.buf.length < TS_PACKET_SIZE := by
      rw [hbuf, List.length_append]; omega
    have hh' : (v.extend b).buffer.buf.head? ≠ some 0x47 := by
      rw [hbuf, List.head?_append_of_ne_nil]
      · exact hh
      · intro hnil
        simp [hnil, TS_PACKET_SIZE] at hl
    exact push_turn_lost hr hl' hh'
  · have hl' : ¬ (v.extend b).buffer.buf.length < TS_PACKET_SIZE := by
      rw [hbuf, List.length_append]; omega
    have hh' : (v.extend b).buffer.buf.head? = some 0x47 := by
      rw [hbuf, List.head?_append, hh]
      rfl
    rw [push_turn_complete (v := v.extend b) hr hl' hh']
    simp only [complete, extend,
      List.take_append_of_le_length (not_lt.mp hl),
      List.drop_append_of_le_length (not_lt.mp hl)]

/-- Out of sync, the loop goes on from the kept tail as it would from all of the bytes. -/
theorem pushed_discard_tail (v : PushVars) (b : List UInt8) (d : Nat)
    (hr : v.buffer.resync_required = true) (hn : confirmed_sync_offset v.buffer.buf = none)
    (hd : v.buffer.buf.length = TS_RESYNC_TAIL_BYTES + d) (hpos : 0 < d) :
    pushed (v.extend b) = pushed ((v.discard d).extend b) := by
  have hoff := confirmed_sync_offset_drop b hn (d := d) (by omega)
  have hlen : (v.extend b).buffer.buf.length = TS_RESYNC_TAIL_BYTES + (d + b.length) := by
    simp only [extend, List.length_append]; omega
  have hlen' : ((v.discard d).extend b).buffer.buf.length = TS_RESYNC_TAIL_BYTES + b.length := by
    simp only [extend, PushVars.discard, List.length_append, List.length_drop]; omega
  have hcut : (v.extend b).discard d = (v.discard d).extend b := extend_discard v b d (by omega)
  cases hc : confirmed_sync_offset (v.buffer.buf.drop d ++ b) with
  | none =>
    rw [hc] at hoff
    rw [pushed_done (push_turn_cut (v := v.extend b) hr hoff (by omega)), hlen,
      Nat.add_sub_cancel_left, ← discard_discard, hcut]
    by_cases hb : b.length = 0
    · have hb : b = [] := List.length_eq_zero_iff.mp hb
      subst hb
      rw [pushed_done (push_turn_keep (v := (v.discard d).extend []) hr hc (by
        rw [hlen']; simp)), ← hcut, discard_discard]
      rfl
    · rw [pushed_done (push_turn_cut (v := (v.discard d).extend b) hr hc (by omega)), hlen',
        Nat.add_sub_cancel_left]
  | some o =>
    rw [hc, Option.map_some] at hoff
    rw [pushed_yield (push_turn_found (v := v.extend b) hr hoff), if_pos (by omega),
      pushed_yield (push_turn_found (v := (v.discard d).extend b) hr hc), Nat.add_comm o d,
      ← discard_discard, hcut]
    split
    · rfl
    have h0 : o = 0 := by omega
    rw [h0, ← hcut, discard_discard]
    rfl

/-- The loop may stop before the bytes `b` and go on with them later. -/
theorem pushed_extend (v : PushVars) (b : List UInt8) :
    pushed (v.extend b) = pushed ((pushed v).extend b) := by
  refine loop_rel push_turn_lowers (fun v w => pushed (v.extend b) = pushed (w.extend b)) ?_ ?_ v
  · intro v w h
    rcases push_turn_done h with ⟨hr, hn, ⟨_, rfl⟩ | ⟨d, hpos, hd, rfl⟩⟩ | ⟨_, _, rfl⟩
    · rfl
    · exact pushed_discard_tail v b d hr hn hd hpos
    · rfl
  · intro v w u h hu
    rw [pushed_yield (push_turn_extend b h)]
    exact hu

/-! ## What the loop does with the bytes -/

/-- The bytes of `input`, cut into packets that start with the sync byte, skipped bytes, and the
bytes that are left at the end. -/
inductive Cut : List UInt8 → List TsPacket → Nat → List UInt8 → Prop
  | rest (buf : List UInt8) : Cut buf [] 0 buf
  | skip (gap : List UInt8) {input : List UInt8} {ps : List TsPacket} {n : Nat}
      {rest : List UInt8} : Cut input ps n rest → Cut (gap ++ input) ps (gap.length + n) rest
  | packet (p : TsPacket) {input : List UInt8} {ps : List TsPacket} {n : Nat}
      {rest : List UInt8} (h : p.val.head? = some 0x47) :
      Cut input ps n rest → Cut (p.val ++ input) (p :: ps) n rest

theorem Cut.length {input : List UInt8} {ps : List TsPacket} {n : Nat} {rest : List UInt8}
    (h : Cut input ps n rest) : input.length = TS_PACKET_SIZE * ps.length + n + rest.length := by
  induction h with
  | rest buf => simp
  | skip gap _ ih => rw [List.length_append]; omega
  | packet p _ _ ih => rw [List.length_append, ih, p.property, List.length_cons]; ring

/-- The bytes that may stay in the buffer between two calls. -/
def TailFits (resync : Bool) (buf : List UInt8) : Prop :=
  if resync then buf.length ≤ TS_RESYNC_TAIL_BYTES else buf.length < TS_PACKET_SIZE

/-- `v` after a loop that completed `ps`, skipped `n` bytes, and left `buf` in mode `resync`. -/
def PushVars.after (v : PushVars) (ps : List TsPacket) (n : Nat) (buf : List UInt8)
    (resync : Bool) : PushVars :=
  { buffer := { v.buffer with
      buf := buf, completed := v.buffer.completed ++ ps, resync_required := resync },
    malformed_bytes := (add_local_malformed v.malformed_bytes n v.local_malformed_saturated).1,
    local_malformed_saturated :=
      (add_local_malformed v.malformed_bytes n v.local_malformed_saturated).2 }

theorem after_nil (v : PushVars) (h : v.malformed_bytes ≤ USIZE_MAX) :
    v.after [] 0 v.buffer.buf v.buffer.resync_required = v := by
  simp [after, add_local_malformed, h]

theorem discard_after (v : PushVars) (o : Nat) (r : Bool) (ps : List TsPacket) (n : Nat)
    (buf : List UInt8) (r' : Bool) :
    ((v.discard o).resync r).after ps n buf r' = v.after ps (o + n) buf r' := by
  simp only [after, resync, PushVars.discard, add_local_malformed_add]

theorem discard_le (v : PushVars) (o : Nat) : (v.discard o).malformed_bytes ≤ USIZE_MAX := by
  simp only [PushVars.discard, add_local_malformed]
  split
  · assumption
  · exact le_rfl

theorem take_head (h : buf.head? = some 0x47) : (buf.take TS_PACKET_SIZE).head? = some 0x47 := by
  cases buf with
  | nil => cases h
  | cons x xs => simpa [TS_PACKET_SIZE] using h

/-- The loop cuts the bytes of the buffer. How it cuts them depends on the bytes and on the mode
only, and not on what was counted or completed before. -/
def CutAlike (v : PushVars) : Prop :=
  ∃ ps n buf r, Cut v.buffer.buf ps n buf ∧ TailFits r buf ∧
    ∀ u : PushVars, u.buffer.buf = v.buffer.buf →
      u.buffer.resync_required = v.buffer.resync_required → u.malformed_bytes ≤ USIZE_MAX →
      pushed u = u.after ps n buf r

theorem pushed_cuts (v : PushVars) : CutAlike v := by
  refine loop_rel push_turn_lowers (fun v _ => CutAlike v) ?_ ?_ v
  · intro v w h
    rcases push_turn_done h with ⟨hr, hn, ⟨hl, _⟩ | ⟨d, hpos, hd, _⟩⟩ | ⟨hr, hl, _⟩
    · refine ⟨[], 0, v.buffer.buf, true, .rest _, by simpa [TailFits] using hl, ?_⟩
      intro u hub hur hum
      rw [pushed_done (push_turn_keep (hur.trans hr) (hub ▸ hn) (hub ▸ hl)),
        ← hub, ← hur.trans hr, after_nil u hum]
    · have hcut : Cut v.buffer.buf [] ((v.buffer.buf.take d).length + 0)
          (v.buffer.buf.drop d) := by
        have := Cut.skip (v.buffer.buf.take d) (Cut.rest (v.buffer.buf.drop d))
        rwa [List.take_append_drop] at this
      rw [List.length_take_of_le (by omega)] at hcut
      refine ⟨[], d, _, true, hcut, by simp [TailFits]; omega, ?_⟩
      intro u hub hur hum
      rw [pushed_done (push_turn_cut (hur.trans hr) (hub ▸ hn) (by rw [hub]; omega)),
        hub, hd]
      simp [PushVars.discard, after, hub, hur.trans hr]
    · refine ⟨[], 0, v.buffer.buf, false, .rest _, by simpa [TailFits] using hl, ?_⟩
      intro u hub hur hum
      rw [pushed_done (push_turn_short (hur.trans hr) (hub ▸ hl)),
        ← hub, ← hur.trans hr, after_nil u hum]
  · intro v w _ h ih
    obtain ⟨ps, n, buf, r, hcut, hfit, hpush⟩ := ih
    rcases push_turn_yield h with ⟨hr, o, ho, rfl⟩ | ⟨hr, hl, hh, rfl⟩ | ⟨hr, hh, hl, rfl⟩
    · have hlt := ((confirmed_sync_offset.spec_some _ _).mp ho).1.lt_length
      by_cases h0 : o > 0
      · simp only [h0, if_true] at hcut hpush
        have hskip := Cut.skip (v.buffer.buf.take o) hcut
        simp only [resync, PushVars.discard, List.take_append_drop,
          List.length_take_of_le (show o ≤ v.buffer.buf.length by omega)] at hskip
        refine ⟨ps, o + n, buf, r, hskip, hfit, ?_⟩
        intro u hub hur hum
        rw [pushed_yield (push_turn_found (hur.trans hr) (hub ▸ ho)), if_pos h0,
          hpush ((u.discard o).resync false) (congrArg (List.drop o) hub) rfl (discard_le u o),
          discard_after]
      · simp only [h0] at hcut hpush
        refine ⟨ps, n, buf, r, hcut, hfit, ?_⟩
        intro u hub hur hum
        rw [pushed_yield (push_turn_found (hur.trans hr) (hub ▸ ho)), if_neg h0,
          hpush (u.resync false) hub rfl hum]
        rfl
    · refine ⟨ps, n, buf, r, hcut, hfit, ?_⟩
      intro u hub hur hum
      rw [pushed_yield (push_turn_lost (hur.trans hr) (hub ▸ hl) (hub ▸ hh)),
        hpush (u.resync true) hub rfl hum]
      rfl
    · have hpacket := Cut.packet ⟨v.buffer.buf.take TS_PACKET_SIZE, by
        rw [List.length_take]; omega⟩ (take_head hh) hcut
      simp only [complete, List.take_append_drop] at hpacket
      refine ⟨_, n, buf, r, hpacket, hfit, ?_⟩
      intro u hub hur hum
      have hul : ¬ u.buffer.buf.length < TS_PACKET_SIZE := hub ▸ hl
      rw [pushed_yield (push_turn_complete (hur.trans hr) hul (hub ▸ hh)),
        hpush (u.complete hul) (congrArg (List.drop _) hub) hur hum]
      simp [complete, after, hub]

end TsPacketCompletionBuffer

end tuner_hal2_common
