-- Reads of any size. The framer's answer to a read is a pure function of the
-- bytes it holds and of its mode: the packets depend on the bytes, not on the reads.
-- Over any calls on a fresh buffer, every byte that came in went out in a packet, was
-- reported as malformed, or is still in the buffer.
import Mathlib.Data.List.Forall2
import TvStack.Machines
import TvStack.TsFraming

open List Loops Machines Words

namespace tuner_hal2_common.TsPacketCompletionBuffer

/-! ## The pure model of the framer -/

variable (resync : Bool) (v : PushVars) (buf : List UInt8) (s : TsPacketCompletionBuffer)

/-- The loop over `buf` with nothing counted or completed before. -/
def scan : PushVars :=
  pushed ⟨{ buf, resync_required := resync }, 0, false⟩

/-- The packets that the loop completes. -/
def framesOf : List TsPacket :=
  (scan resync buf).buffer.completed

/-- The bytes that the loop leaves. -/
def restOf : List UInt8 := (scan resync buf).buffer.buf

/-- The mode in which the loop ends. -/
def modeOf : Bool := (scan resync buf).buffer.resync_required

/-- The bytes that the loop skips. -/
def skippedOf : Nat :=
  buf.length - TS_PACKET_SIZE * (framesOf resync buf).length - (restOf resync buf).length

theorem scan_cuts :
    Cut buf (framesOf resync buf) (skippedOf resync buf) (restOf resync buf) ∧
      TailFits (modeOf resync buf) (restOf resync buf) ∧
      ∀ u : PushVars, u.buffer.buf = buf → u.buffer.resync_required = resync →
        u.malformed_bytes ≤ USIZE_MAX → pushed u = u.after (framesOf resync buf)
          (skippedOf resync buf) (restOf resync buf) (modeOf resync buf) := by
  obtain ⟨ps, n, rest, r, hcut, hfit, hpush⟩ :=
    pushed_cuts ⟨{ buf, resync_required := resync }, 0, false⟩
  have hscan : scan resync buf = _ := hpush _ rfl rfl (Nat.zero_le _)
  have hframes : framesOf resync buf = ps := by
    simp [framesOf, hscan, PushVars.after]
  have hrest : restOf resync buf = rest := by simp [restOf, hscan, PushVars.after]
  have hmode : modeOf resync buf = r := by simp [modeOf, hscan, PushVars.after]
  have hlen := hcut.length
  simp only at hlen
  have hskip : skippedOf resync buf = n := by
    unfold skippedOf
    rw [hframes, hrest]
    omega
  rw [hframes, hrest, hmode, hskip]
  exact ⟨hcut, hfit, hpush⟩

theorem skipped_length :
    buf.length = TS_PACKET_SIZE * (framesOf resync buf).length + skippedOf resync buf +
      (restOf resync buf).length := (scan_cuts resync buf).1.length

theorem pushed_eq (u : PushVars) (h : u.malformed_bytes ≤ USIZE_MAX) :
    pushed u = u.after (framesOf u.buffer.resync_required u.buffer.buf)
      (skippedOf u.buffer.resync_required u.buffer.buf)
      (restOf u.buffer.resync_required u.buffer.buf)
      (modeOf u.buffer.resync_required u.buffer.buf) :=
  (scan_cuts _ _).2.2 u rfl rfl h

variable (r : Bool) (data : List UInt8)

/-- The bytes `b` are framed from where the bytes before them left the framer. -/
theorem scan_append (buf b : List UInt8) :
    framesOf r (buf ++ b) = framesOf r buf ++ framesOf (modeOf r buf) (restOf r buf ++ b) ∧
      restOf r (buf ++ b) = restOf (modeOf r buf) (restOf r buf ++ b) ∧
      modeOf r (buf ++ b) = modeOf (modeOf r buf) (restOf r buf ++ b) := by
  have hle : (add_local_malformed 0 (skippedOf r buf) false).1 ≤ USIZE_MAX :=
    discard_le ⟨{ buf }, 0, false⟩ (skippedOf r buf)
  have hext := pushed_extend ⟨{ buf, resync_required := r }, 0, false⟩ b
  rw [pushed_eq _ (Nat.zero_le _), pushed_eq ⟨{ buf, resync_required := r }, 0, false⟩
    (Nat.zero_le _), pushed_eq _ hle] at hext
  simp only [PushVars.after, PushVars.mk.injEq,
    TsPacketCompletionBuffer.mk.injEq] at hext
  exact ⟨hext.1.2.1, hext.1.1, hext.1.2.2.2.2⟩

theorem skippedOf_append (buf b : List UInt8) :
    skippedOf r (buf ++ b) =
      skippedOf r buf + skippedOf (modeOf r buf) (restOf r buf ++ b) := by
  obtain ⟨hf, hr, _⟩ := scan_append r buf b
  have h1 := skipped_length r (buf ++ b)
  have h2 := skipped_length r buf
  have h3 := skipped_length (modeOf r buf) (restOf r buf ++ b)
  rw [hf, hr, length_append, length_append, Nat.mul_add] at h1
  rw [length_append] at h3
  omega

/-! ## The specs of the Rust functions -/

theorem drain_loop.spec (max_packets : Nat) (packets queue : List TsPacket)
    (h : packets.length ≤ max_packets) :
    drain_loop max_packets packets queue =
      (packets ++ queue.take (max_packets - packets.length),
        queue.drop (max_packets - packets.length)) := by
  induction queue generalizing packets with
  | nil => simp [drain_loop]
  | cons packet rest ih =>
    unfold drain_loop
    split
    · rw [ih (packets ++ [packet]) (by simp; omega)]
      have : max_packets - packets.length = (max_packets - (packets ++ [packet]).length) + 1 := by
        simp; omega
      rw [this]
      simp
    · have : max_packets - packets.length = 0 := by omega
      simp [this]

section

variable (s : TsPacketCompletionBuffer)

theorem drain_completed.spec (max_packets : Nat) :
    s.drain_completed max_packets =
      ({ s with completed := s.completed.drop max_packets }, s.completed.take max_packets) := by
  simp [drain_completed, drain_loop.spec]

variable (amount : Nat)

theorem add_malformed_bytes.frame :
    (s.add_malformed_bytes amount).buf = s.buf ∧
      (s.add_malformed_bytes amount).completed = s.completed ∧
      (s.add_malformed_bytes amount).resync_required = s.resync_required := by
  unfold add_malformed_bytes
  split
  · exact ⟨rfl, rfl, rfl⟩
  · dsimp only
    split <;> split <;> exact ⟨rfl, rfl, rfl⟩

theorem add_malformed_bytes.exact (h : s.malformed_bytes + amount < U64_MAX) :
    (s.add_malformed_bytes amount).malformed_bytes = s.malformed_bytes + amount ∧
      (s.add_malformed_bytes amount).malformed_bytes_saturated = s.malformed_bytes_saturated := by
  have hmin : min amount U64_MAX = amount := by omega
  have hne : amount ≠ U64_MAX := by omega
  unfold add_malformed_bytes
  by_cases h0 : amount = 0
  · simp [h0]
  · simp [h0, hmin, hne, h.le]

theorem add_malformed_bytes.room (h : (s.add_malformed_bytes amount).malformed_bytes < U64_MAX) :
    s.malformed_bytes + amount < U64_MAX := by
  unfold add_malformed_bytes at h
  by_cases h0 : amount = 0
  · simpa [h0] using h
  simp only [h0, if_false] at h
  by_cases hfit : s.malformed_bytes + min amount U64_MAX ≤ U64_MAX
  · simp only [hfit, if_true] at h
    by_cases htop : min amount U64_MAX = U64_MAX
    · simp only [htop, if_true] at h; omega
    · simp only [htop, if_false] at h; omega
  · simp only [hfit] at h
    by_cases htop : min amount U64_MAX = U64_MAX <;> simp [htop] at h

end

theorem counted.frame :
    v.counted.buf = v.buffer.buf ∧ v.counted.completed = v.buffer.completed ∧
      v.counted.resync_required = v.buffer.resync_required := by
  unfold PushVars.counted
  dsimp only
  split <;> split
  · exact add_malformed_bytes.frame _ _
  · exact ⟨rfl, rfl, rfl⟩
  · exact add_malformed_bytes.frame _ _
  · exact ⟨rfl, rfl, rfl⟩

theorem counted.malformed_bytes_eq :
    v.counted.malformed_bytes =
      if v.malformed_bytes > 0 then
        (v.buffer.add_malformed_bytes v.malformed_bytes).malformed_bytes
      else v.buffer.malformed_bytes := by
  unfold PushVars.counted
  split <;> split <;> rfl

theorem counted.exact (hs : v.local_malformed_saturated = false)
    (h : v.buffer.malformed_bytes + v.malformed_bytes < U64_MAX) :
    v.counted.malformed_bytes = v.buffer.malformed_bytes + v.malformed_bytes ∧
      v.counted.malformed_bytes_saturated = v.buffer.malformed_bytes_saturated := by
  obtain ⟨h1, h2⟩ := add_malformed_bytes.exact v.buffer v.malformed_bytes h
  unfold PushVars.counted
  simp only [hs, Bool.false_eq_true, if_false]
  split
  · exact ⟨h1, h2⟩
  · exact ⟨by omega, rfl⟩

theorem counted.room (h : v.counted.malformed_bytes < U64_MAX) :
    v.buffer.malformed_bytes + v.malformed_bytes < U64_MAX := by
  rw [counted.malformed_bytes_eq] at h
  split at h
  · exact add_malformed_bytes.room v.buffer v.malformed_bytes h
  · omega

/-- Below `usize::MAX`, the local count is exact. -/
theorem after_counts (ps : List TsPacket) (n : Nat) (buf : List UInt8) (r : Bool)
    (hm : v.malformed_bytes = 0) (hs : v.local_malformed_saturated = false) :
    (n ≤ USIZE_MAX ∧ (v.after ps n buf r).malformed_bytes = n ∧
      (v.after ps n buf r).local_malformed_saturated = false) ∨
    (USIZE_MAX < n ∧ (v.after ps n buf r).malformed_bytes = USIZE_MAX) := by
  simp only [PushVars.after, hm, hs, add_local_malformed, Nat.zero_add]
  split
  · exact .inl ⟨by assumption, rfl, rfl⟩
  · exact .inr ⟨by omega, rfl⟩

theorem push.spec : let frames := s.completed ++ framesOf s.resync_required (s.buf ++ data)
    (s.push data).1.buf = restOf s.resync_required (s.buf ++ data) ∧
      (s.push data).1.resync_required = modeOf s.resync_required (s.buf ++ data) ∧
      (s.push data).1.completed = frames.drop USIZE_MAX ∧
      (s.push data).2.packets = frames.take USIZE_MAX := by
  have hp := pushed_eq ⟨{ s with buf := s.buf ++ data }, 0, false⟩ (Nat.zero_le _)
  unfold pushed at hp
  unfold push
  rw [hp]
  simp only [drain_completed.spec, counted.frame]
  exact ⟨rfl, rfl, rfl, rfl⟩

/-- Below the top of the counter, `push` counts the bytes it skips. -/
theorem push.spec_counts
    (h : s.malformed_bytes + skippedOf s.resync_required (s.buf ++ data) < U64_MAX) :
    (s.push data).1.malformed_bytes =
        s.malformed_bytes + skippedOf s.resync_required (s.buf ++ data) ∧
      (s.push data).1.malformed_bytes_saturated = s.malformed_bytes_saturated ∧
      (s.push data).2.malformed_bytes = skippedOf s.resync_required (s.buf ++ data) := by
  have hp := pushed_eq ⟨{ s with buf := s.buf ++ data }, 0, false⟩ (Nat.zero_le _)
  unfold pushed at hp
  unfold push
  simp only [hp, drain_completed.spec]
  rcases after_counts ⟨{ s with buf := s.buf ++ data }, 0, false⟩
    (framesOf s.resync_required (s.buf ++ data)) (skippedOf s.resync_required (s.buf ++ data))
    (restOf s.resync_required (s.buf ++ data)) (modeOf s.resync_required (s.buf ++ data))
    rfl rfl with ⟨_, hm, hs⟩ | ⟨hbig, _⟩
  · obtain ⟨h1, h2⟩ := counted.exact _ hs (by rw [hm]; exact h)
    rw [h1, h2, hm]
    exact ⟨rfl, rfl, rfl⟩
  · simp only [USIZE_MAX, U64_MAX] at h hbig
    omega

theorem push.room (h : (s.push data).1.malformed_bytes < U64_MAX) :
    s.malformed_bytes + skippedOf s.resync_required (s.buf ++ data) < U64_MAX := by
  have hp := pushed_eq ⟨{ s with buf := s.buf ++ data }, 0, false⟩ (Nat.zero_le _)
  unfold pushed at hp
  unfold push at h
  simp only [hp, drain_completed.spec] at h
  have hroom := counted.room _ h
  rcases after_counts ⟨{ s with buf := s.buf ++ data }, 0, false⟩
    (framesOf s.resync_required (s.buf ++ data)) (skippedOf s.resync_required (s.buf ++ data))
    (restOf s.resync_required (s.buf ++ data)) (modeOf s.resync_required (s.buf ++ data))
    rfl rfl with ⟨_, hm, _⟩ | ⟨hbig, hm⟩
  · rw [hm] at hroom
    exact hroom
  · rw [hm] at hroom
    simp only [USIZE_MAX, U64_MAX] at hroom
    omega

attribute [ext] TsPacketCompletionBuffer TsPacketBufferDrain

/-! ## Reads of any size -/

theorem framesOf_length_le (buf : List UInt8) : (framesOf r buf).length ≤ buf.length := by
  have := skipped_length r buf
  simp only [TS_PACKET_SIZE] at this
  omega

section

variable (s : TsPacketCompletionBuffer) (data : List UInt8)

/-- The packets of one `push` fit the vectors of Rust, so it drains all of them. -/
theorem push.spec_fits (hfit : s.completed.length + s.buf.length + data.length ≤ USIZE_MAX) :
    (s.push data).1.completed = [] ∧
      (s.push data).2.packets = s.completed ++ framesOf s.resync_required (s.buf ++ data) := by
  obtain ⟨_, _, h3, h4⟩ := push.spec s data
  have hlen := framesOf_length_le s.resync_required (s.buf ++ data)
  rw [length_append] at hlen
  rw [h3, h4]
  exact ⟨drop_of_length_le (by rw [length_append]; omega),
    take_of_length_le (by rw [length_append]; omega)⟩

theorem push_append (a b : List UInt8)
    (hfit : s.completed.length + s.buf.length + (a ++ b).length ≤ USIZE_MAX)
    (hcount : (s.push (a ++ b)).1.malformed_bytes < U64_MAX) :
    s.push (a ++ b) = (((s.push a).1.push b).1,
      { packets := (s.push a).2.packets ++ ((s.push a).1.push b).2.packets,
        malformed_bytes :=
          (s.push a).2.malformed_bytes + ((s.push a).1.push b).2.malformed_bytes }) := by
  have hroom := push.room s (a ++ b) hcount
  obtain ⟨o1, o2, _, _⟩ := push.spec s (a ++ b)
  obtain ⟨o3, o4⟩ := push.spec_fits s (a ++ b) hfit
  obtain ⟨c1, c2, c3⟩ := push.spec_counts s (a ++ b) hroom
  rw [← append_assoc] at hroom o1 o2 o4 c1 c3
  obtain ⟨hf, hr, hm⟩ := scan_append s.resync_required (s.buf ++ a) b
  rw [skippedOf_append] at c1 c3
  -- the first read
  rw [length_append] at hfit
  obtain ⟨a1, a2, _, _⟩ := push.spec s a
  obtain ⟨a3, a4⟩ := push.spec_fits s a (by omega)
  obtain ⟨d1, d2, d3⟩ := push.spec_counts s a (by omega)
  -- the second read, from where the first one stopped
  obtain ⟨b1, b2, _, _⟩ := push.spec (s.push a).1 b
  have hlen := skipped_length s.resync_required (s.buf ++ a)
  rw [length_append] at hlen
  obtain ⟨b3, b4⟩ := push.spec_fits (s.push a).1 b (by
    rw [a3, a1, length_nil]; omega)
  obtain ⟨e1, e2, e3⟩ := push.spec_counts (s.push a).1 b (by rw [a1, a2]; omega)
  rw [a1, a2] at b1 b2 b4 e1 e3
  rw [a3] at b4
  refine Prod.ext ?_ ?_
  · apply TsPacketCompletionBuffer.ext
    · rw [o1, hr, b1]
    · rw [o3, b3]
    · rw [c1, e1, d1, Nat.add_assoc]
    · rw [c2, e2, d2]
    · rw [o2, hm, b2]
  · apply TsPacketBufferDrain.ext
    · rw [o4, hf, a4, b4]
      simp only [nil_append, append_assoc]
    · rw [c3, d3, e3]

theorem push_buf_length_le : (s.push data).1.buf.length ≤ s.buf.length + data.length := by
  have hlen := skipped_length s.resync_required (s.buf ++ data)
  rw [length_append] at hlen
  rw [(push.spec s data).1]
  omega

/-- Any division of the bytes into reads leaves the buffer that one read of them leaves, and the
answers to the reads, put together, are the answer to that one read. -/
theorem run_push (c : List UInt8) (cs : List (List UInt8))
    (hfit : s.completed.length + s.buf.length + (c :: cs).flatten.length ≤ USIZE_MAX)
    (hcount : (s.push (c :: cs).flatten).1.malformed_bytes < U64_MAX) :
    (run push s (c :: cs)).1 = (s.push (c :: cs).flatten).1 ∧
      ((run push s (c :: cs)).2.map (·.packets)).flatten =
        (s.push (c :: cs).flatten).2.packets ∧
      ((run push s (c :: cs)).2.map (·.malformed_bytes)).sum =
        (s.push (c :: cs).flatten).2.malformed_bytes := by
  induction cs generalizing s c with
  | nil => simp
  | cons d ds ih =>
    rw [flatten_cons] at hfit hcount ⊢
    have happ := push_append s c (d :: ds).flatten hfit hcount
    have hcount' : ((s.push c).1.push (d :: ds).flatten).1.malformed_bytes < U64_MAX := by
      rw [happ] at hcount
      exact hcount
    have hfit' : (s.push c).1.completed.length + (s.push c).1.buf.length +
        (d :: ds).flatten.length ≤ USIZE_MAX := by
      have hbuf := push_buf_length_le s c
      rw [length_append] at hfit
      rw [(push.spec_fits s c (by omega)).1, length_nil]
      omega
    obtain ⟨h1, h2, h3⟩ := ih (s.push c).1 d hfit' hcount'
    rw [happ, run_cons]
    refine ⟨h1, ?_, ?_⟩
    · rw [map_cons, flatten_cons, h2]
    · rw [map_cons, sum_cons, h3]

end

/-- From every state, one read of `a ++ b` answers and leaves what a read of `a` and then a read of
`b` do, and so does every other division of these bytes into reads, as long as the packets of one
call fit a vector and the counter is below its top. -/
theorem framing_does_not_depend_on_the_reads (s : TsPacketCompletionBuffer) (a b : List UInt8)
    (hfit : s.completed.length + s.buf.length + (a ++ b).length ≤ USIZE_MAX)
    (hcount : (s.push (a ++ b)).1.malformed_bytes < U64_MAX) :
    s.push (a ++ b) = (((s.push a).1.push b).1,
      { packets := (s.push a).2.packets ++ ((s.push a).1.push b).2.packets,
        malformed_bytes :=
          (s.push a).2.malformed_bytes + ((s.push a).1.push b).2.malformed_bytes }) ∧
    ∀ reads : List (List UInt8), reads ≠ [] → reads.flatten = a ++ b →
      (run push s reads).1 = (s.push (a ++ b)).1 ∧
        ((run push s reads).2.map (·.packets)).flatten = (s.push (a ++ b)).2.packets ∧
        ((run push s reads).2.map (·.malformed_bytes)).sum =
          (s.push (a ++ b)).2.malformed_bytes := by
  refine ⟨push_append s a b hfit hcount, ?_⟩
  intro reads hne hflat
  obtain ⟨c, cs, rfl⟩ := exists_cons_of_ne_nil hne
  rw [← hflat] at hfit hcount ⊢
  exact run_push s c cs hfit hcount

/-- 200 bytes with no sync byte. -/
def lostBytes : List UInt8 := List.replicate 200 0

/-- A loss of sync over two reads of 200 bytes each: 24 bytes are given up, in one read or two. -/
theorem two_reads_of_lost_bytes :
    (push {} (lostBytes ++ lostBytes)).2.malformed_bytes = 24 ∧
      (push {} (lostBytes ++ lostBytes)).1 = ((push {} lostBytes).1.push lostBytes).1 := by
  have h := framing_does_not_depend_on_the_reads {} lostBytes lostBytes (by decide +kernel)
    (by decide +kernel)
  refine ⟨by decide +kernel, ?_⟩
  rw [h.1]

/-! ## Whole packets -/

section

variable (s : TsPacketCompletionBuffer) {ps : List TsPacket} {t c : List UInt8}
  {cs : List (List UInt8)} (hsync : ∀ p ∈ ps, p.val.head? = some 0x47)
  (htail : t.length < TS_PACKET_SIZE)
include hsync htail

/-- In sync, the loop takes whole packets one by one and leaves the start of the next. -/
theorem pushed_packets (hmode : s.resync_required = false) :
    pushed ⟨{ s with buf := (ps.map (·.val)).flatten ++ t }, 0, false⟩ =
      ⟨{ s with buf := t, completed := s.completed ++ ps }, 0, false⟩ := by
  induction ps generalizing s with
  | nil =>
    rw [append_nil]
    exact pushed_done (push_turn_short hmode htail)
  | cons p ps ih =>
    have hp := p.property
    have hlater := ih { s with completed := s.completed ++ [p] }
      (fun q hq => hsync q (mem_cons_of_mem p hq)) hmode
    rw [pushed_yield (push_turn_complete hmode (by simp [hp]) (by simp [hsync p mem_cons_self]))]
    simp only [PushVars.complete, map_cons, flatten_cons, append_assoc, take_left' hp,
      drop_left' hp]
    rw [hlater, append_assoc]
    rfl

/-- On a cleared framer, reads of any size that together hold packets and the start of one more give
exactly those packets, skip nothing and leave that start. -/
theorem packets_come_back (hreads : (c :: cs).flatten = (ps.map (·.val)).flatten ++ t)
    (hfit : (c :: cs).flatten.length ≤ USIZE_MAX) (hcount : s.malformed_bytes < U64_MAX) :
    ((run push s.clear (c :: cs)).2.map (·.packets)).flatten = ps ∧
      ((run push s.clear (c :: cs)).2.map (·.malformed_bytes)).sum = 0 ∧
      (run push s.clear (c :: cs)).1 = { s.clear with buf := t } := by
  have hfew : ps.length ≤ USIZE_MAX := by
    have hframes := framesOf_length_le false (c :: cs).flatten
    rw [hreads, framesOf, scan, pushed_packets {} hsync htail rfl, ← hreads] at hframes
    exact hframes.trans hfit
  have hpush : s.clear.push (c :: cs).flatten = ({ s.clear with buf := t }, ⟨ps, 0⟩) := by
    have hloop := pushed_packets s.clear hsync htail rfl
    simp only [pushed, push, clear, hreads, nil_append] at hloop ⊢
    rw [hloop]
    simp [PushVars.counted, drain_completed.spec, take_of_length_le, hfew]
  obtain ⟨hstate, hpackets, hskipped⟩ := run_push s.clear c cs (by simpa [clear] using hfit)
    (by rw [hpush]; exact hcount)
  rw [hstate, hpackets, hskipped, hpush]
  exact ⟨rfl, rfl, rfl⟩

end

/-- A packet of padding behind its sync byte. -/
def padding : TsPacket := ⟨0x47 :: replicate 187 0, rfl⟩

/-- Two packets and the start of a third, in three reads on a buffer with a byte left over. -/
theorem padding_comes_back :
    let framed := run push (clear { buf := [0x00] })
      [padding.val.take 9, padding.val.drop 9 ++ padding.val, [0x47, 0x01]]
    (framed.2.map (·.packets)).flatten = [padding, padding] ∧
      (framed.2.map (·.malformed_bytes)).sum = 0 ∧ framed.1.buf = [0x47, 0x01] := by
  have hreads : [padding.val.take 9, padding.val.drop 9 ++ padding.val, [0x47, 0x01]].flatten =
      ([padding, padding].map (·.val)).flatten ++ [0x47, 0x01] := by
    simp [← append_assoc]
  obtain ⟨hpackets, hskipped, hstate⟩ := packets_come_back { buf := [0x00] } (by simp [padding])
    (by decide) hreads (by simp [padding.property, TS_PACKET_SIZE, USIZE_MAX]) (by decide)
  exact ⟨hpackets, hskipped, congrArg (·.buf) hstate⟩

end tuner_hal2_common.TsPacketCompletionBuffer

namespace tuner_hal2_common.TsPacketCompletionBuffer

variable {ps : List TsPacket} {rest : List UInt8}

/-! ## The calls -/

inductive Call
  | push (data : List UInt8)
  | push_limited (data : List UInt8) (max_packets : Nat)
  | drain_completed (max_packets : Nat)
  | drain_for_boundary

/-- The bytes that a call brings. -/
def Call.data : Call → List UInt8
  | .push data | .push_limited data _ => data
  | .drain_completed _ | .drain_for_boundary => []

/-- The call without its packet limit. -/
def Call.unlimited : Call → Call
  | .push data | .push_limited data _ => .push data
  | .drain_completed _ => .drain_completed USIZE_MAX
  | .drain_for_boundary => .drain_for_boundary

/-- One call, and what it returns. `drain_completed` returns packets only. -/
def call (s : TsPacketCompletionBuffer) : Call → TsPacketCompletionBuffer × TsPacketBufferDrain
  | .push data => s.push data
  | .push_limited data max_packets => s.push_limited data max_packets
  | .drain_completed max_packets =>
    ((s.drain_completed max_packets).1,
      { packets := (s.drain_completed max_packets).2, malformed_bytes := 0 })
  | .drain_for_boundary => s.drain_for_boundary

def input (calls : List Call) : List UInt8 := (calls.map Call.data).flatten

def returned (answers : List TsPacketBufferDrain) : List TsPacket :=
  (answers.map (·.packets)).flatten

def reported (answers : List TsPacketBufferDrain) : Nat := (answers.map (·.malformed_bytes)).sum

/-! ## The stream of packets

The framer without its queue, its counter and its limits: the bytes it holds and its mode. -/

structure Stream where
  resync : Bool := false
  buf : List UInt8 := []

/-- What a call adds to the stream: packets, and bytes that are given up. -/
structure Step where
  frames : List TsPacket := []
  skipped : Nat := 0

def Stream.read (t : Stream) (data : List UInt8) : Stream × Step :=
  ({ resync := modeOf t.resync (t.buf ++ data), buf := restOf t.resync (t.buf ++ data) },
    { frames := framesOf t.resync (t.buf ++ data), skipped := skippedOf t.resync (t.buf ++ data) })

def Stream.call (t : Stream) : Call → Stream × Step
  | .push data | .push_limited data _ => t.read data
  | .drain_completed _ => (t, {})
  | .drain_for_boundary => ({}, { skipped := t.buf.length })

def frames (steps : List Step) : List TsPacket := (steps.map (·.frames)).flatten

def skipped (steps : List Step) : Nat := (steps.map (·.skipped)).sum

/-! ## The stream keeps every byte -/

/-- The bytes that were left may be cut further. -/
theorem Cut.trans {input : List UInt8} {qs : List TsPacket} {n m : Nat} {rest' : List UInt8}
    (h : Cut input ps n rest) (h' : Cut rest qs m rest') : Cut input (ps ++ qs) (n + m) rest' := by
  induction h with
  | rest buf => simpa using h'
  | skip gap _ ih =>
    rw [Nat.add_assoc]
    exact Cut.skip gap (ih h')
  | packet p hp _ ih => exact Cut.packet p hp (ih h')

theorem Cut.append {input : List UInt8} {n : Nat} (h : Cut input ps n rest) (data : List UInt8) :
    Cut (input ++ data) ps n (rest ++ data) := by
  induction h with
  | rest buf => exact Cut.rest _
  | skip gap _ ih =>
    rw [append_assoc]
    exact Cut.skip gap ih
  | packet p hp _ ih =>
    rw [append_assoc]
    exact Cut.packet p hp ih

theorem Cut.give_up (buf : List UInt8) : Cut buf [] buf.length [] := by
  simpa using Cut.skip buf (Cut.rest [])

theorem Stream.call_cuts (t : Stream) (c : Call) :
    Cut (t.buf ++ c.data) (t.call c).2.frames (t.call c).2.skipped (t.call c).1.buf := by
  cases c with
  | push data | push_limited data max_packets => exact (scan_cuts t.resync (t.buf ++ data)).1
  | drain_completed max_packets =>
    rw [Call.data, append_nil]
    exact Cut.rest t.buf
  | drain_for_boundary =>
    rw [Call.data, append_nil]
    exact Cut.give_up t.buf

theorem Stream.call_fits (t : Stream) (c : Call) (h : TailFits t.resync t.buf) :
    TailFits (t.call c).1.resync (t.call c).1.buf := by
  cases c with
  | push data | push_limited data max_packets => exact (scan_cuts t.resync (t.buf ++ data)).2.1
  | drain_completed max_packets => exact h
  | drain_for_boundary => simp [Stream.call, TailFits, TS_PACKET_SIZE]

theorem Stream.run_cuts (calls : List Call) :
    Cut (input calls) (frames (run Stream.call {} calls).2) (skipped (run Stream.call {} calls).2)
      (run Stream.call {} calls).1.buf := by
  refine run_history (P := fun (t : Stream) calls steps => Cut (input calls) (frames steps)
    (skipped steps) t.buf) {} (Cut.rest []) ?_ calls
  intro t calls steps c h
  have hcut := (h.append c.data).trans (t.call_cuts c)
  simpa [input, frames, skipped] using hcut

theorem Stream.run_fits (calls : List Call) :
    TailFits (run Stream.call {} calls).1.resync (run Stream.call {} calls).1.buf :=
  run_keeps (P := fun t : Stream => TailFits t.resync t.buf) (fun t c h => t.call_fits c h) {} calls
    (by simp [TailFits, TS_PACKET_SIZE])

/-! ## The framer refines the stream -/

def stream (s : TsPacketCompletionBuffer) : Stream :=
  { resync := s.resync_required, buf := s.buf }

section

variable (s : TsPacketCompletionBuffer)

/-- `push_limited` is `push`, with the packets over the limit back at the front of the queue. -/
theorem push_limited.spec (data : List UInt8) (max_packets : Nat) :
    (s.push_limited data max_packets).1.stream = (s.push data).1.stream ∧
      (s.push_limited data max_packets).1.malformed_bytes = (s.push data).1.malformed_bytes ∧
      (s.push_limited data max_packets).2.malformed_bytes = (s.push data).2.malformed_bytes ∧
      (s.push_limited data max_packets).2.packets ++
          (s.push_limited data max_packets).1.completed =
        (s.push data).2.packets ++ (s.push data).1.completed := by
  unfold push_limited
  dsimp only
  split
  · exact ⟨rfl, rfl, rfl, rfl⟩
  · refine ⟨rfl, rfl, rfl, ?_⟩
    rw [foldl_reverse, foldr_cons_eq_append, map_id', ← append_assoc, take_append_drop]

/-- `drain_for_boundary` gives out the queue and gives up the bytes. -/
theorem drain_for_boundary.spec :
    (s.drain_for_boundary).1.stream = {} ∧
      (s.drain_for_boundary).1.malformed_bytes =
        (s.add_malformed_bytes s.buf.length).malformed_bytes ∧
      (s.drain_for_boundary).2.malformed_bytes = s.buf.length ∧
      (s.drain_for_boundary).2.packets ++ (s.drain_for_boundary).1.completed = s.completed := by
  unfold drain_for_boundary
  simp only [drain_completed.spec, true_and]
  split
  · refine ⟨rfl, ?_, ?_⟩
    · unfold add_malformed_bytes
      dsimp only
      split
      · rfl
      · split <;> split <;> rfl
    · simp only [(add_malformed_bytes.frame _ _).2.1, take_append_drop]
  · have h0 : s.buf = [] := length_eq_zero_iff.mp (by omega)
    refine ⟨by simp [stream, h0], by simp [h0, add_malformed_bytes], ?_⟩
    simp only [take_append_drop]

theorem push_refines (data : List UInt8) :
    (s.push data).1.stream = (s.stream.read data).1 ∧
      (s.push data).2.packets ++ (s.push data).1.completed =
        s.completed ++ (s.stream.read data).2.frames := by
  obtain ⟨h1, h2, h3, h4⟩ := push.spec s data
  refine ⟨?_, ?_⟩
  · simp only [stream, h1, h2, Stream.read]
  · rw [h3, h4, take_append_drop]
    rfl

/-- A call moves the stream of the framer as the stream moves, and its packets join the queue. -/
theorem call_refines (c : Call) :
    (s.call c).1.stream = (s.stream.call c).1 ∧
      (s.call c).2.packets ++ (s.call c).1.completed =
        s.completed ++ (s.stream.call c).2.frames := by
  cases c with
  | push data => exact push_refines s data
  | push_limited data max_packets =>
    obtain ⟨h1, _, _, h4⟩ := push_limited.spec s data max_packets
    obtain ⟨hs, hq⟩ := push_refines s data
    exact ⟨h1.trans hs, h4.trans hq⟩
  | drain_completed max_packets =>
    refine ⟨?_, ?_⟩
    · simp only [call, drain_completed.spec, Stream.call, stream]
    · simp only [call, drain_completed.spec, Stream.call, append_nil, take_append_drop]
  | drain_for_boundary =>
    obtain ⟨h1, _, _, h4⟩ := drain_for_boundary.spec s
    refine ⟨h1, ?_⟩
    rw [Stream.call, append_nil]
    exact h4

theorem push_counts (data : List UInt8) (h : (s.push data).1.malformed_bytes < U64_MAX) :
    (s.push data).1.malformed_bytes = s.malformed_bytes + (s.stream.read data).2.skipped ∧
      (s.push data).2.malformed_bytes = (s.stream.read data).2.skipped := by
  obtain ⟨h1, _, h3⟩ := push.spec_counts s data (push.room s data h)
  exact ⟨h1, h3⟩

/-- Below the top of the counter, a call counts and reports what the stream gives up. -/
theorem call_counts (c : Call) (h : (s.call c).1.malformed_bytes < U64_MAX) :
    (s.call c).1.malformed_bytes = s.malformed_bytes + (s.stream.call c).2.skipped ∧
      (s.call c).2.malformed_bytes = (s.stream.call c).2.skipped := by
  cases c with
  | push data => exact push_counts s data h
  | push_limited data max_packets =>
    obtain ⟨_, h2, h3, _⟩ := push_limited.spec s data max_packets
    simp only [call, h2, h3] at h ⊢
    exact push_counts s data h
  | drain_completed max_packets =>
    exact ⟨rfl, rfl⟩
  | drain_for_boundary =>
    obtain ⟨_, h2, h3, _⟩ := drain_for_boundary.spec s
    simp only [call, h2] at h ⊢
    have hroom := add_malformed_bytes.room s s.buf.length h
    exact ⟨(add_malformed_bytes.exact s s.buf.length hroom).1, rfl⟩

end

theorem run_refines (calls : List Call) :
    (run call {} calls).1.stream = (run Stream.call {} calls).1 ∧
      returned (run call {} calls).2 ++ (run call {} calls).1.completed =
        frames (run Stream.call {} calls).2 ∧
      ((run call {} calls).1.malformed_bytes < U64_MAX →
        (run call {} calls).1.malformed_bytes = skipped (run Stream.call {} calls).2 ∧
          reported (run call {} calls).2 = skipped (run Stream.call {} calls).2) := by
  refine run_history (P := fun (s : TsPacketCompletionBuffer) calls answers =>
    s.stream = (run Stream.call {} calls).1 ∧
      returned answers ++ s.completed = frames (run Stream.call {} calls).2 ∧
      (s.malformed_bytes < U64_MAX →
        s.malformed_bytes = skipped (run Stream.call {} calls).2 ∧
          reported answers = skipped (run Stream.call {} calls).2)) {}
            ⟨rfl, rfl, fun _ => ⟨rfl, rfl⟩⟩
    ?_ calls
  rintro s calls answers c ⟨hstream, hframes, hcount⟩
  obtain ⟨h1, h2⟩ := call_refines s c
  rw [run_snoc, ← hstream]
  refine ⟨h1, ?_, ?_⟩
  · have hq : returned (answers ++ [(s.call c).2]) ++ (s.call c).1.completed =
        returned answers ++ ((s.call c).2.packets ++ (s.call c).1.completed) := by
      simp [returned]
    rw [hq, h2, ← append_assoc, hframes]
    simp [frames]
  · intro h
    obtain ⟨h3, h4⟩ := call_counts s c h
    obtain ⟨h5, h6⟩ := hcount (by omega)
    refine ⟨?_, ?_⟩
    · rw [h3, h5]
      simp [skipped]
    · have hr : reported (answers ++ [(s.call c).2]) =
          reported answers + (s.call c).2.malformed_bytes := by
        simp [reported]
      rw [hr, h4, h6]
      simp [skipped]

/-! ## The law -/

/-- The packets are windows of the input that start with the sync byte, one behind the other. -/
def Windows (input : List UInt8) (packets : List TsPacket) : Prop :=
  ∃ offsets : List Nat, offsets.Pairwise (fun o o' => o + TS_PACKET_SIZE ≤ o') ∧
    List.Forall₂ (fun o (p : TsPacket) => (input.drop o).take TS_PACKET_SIZE = p.val ∧
      p.val.head? = some 0x47) offsets packets

theorem Windows.behind (front : List UInt8) {input : List UInt8} {offsets : List Nat}
    {packets : List TsPacket}
    (h : List.Forall₂ (fun o (p : TsPacket) => (input.drop o).take TS_PACKET_SIZE = p.val ∧
      p.val.head? = some 0x47) offsets packets) :
    List.Forall₂ (fun o (p : TsPacket) => ((front ++ input).drop o).take TS_PACKET_SIZE = p.val ∧
      p.val.head? = some 0x47) (offsets.map (front.length + ·)) packets := by
  rw [forall₂_map_left_iff]
  refine h.imp ?_
  rintro o p ⟨hw, hh⟩
  exact ⟨by rw [drop_append, drop_of_length_le (by omega), nil_append,
    Nat.add_sub_cancel_left, hw], hh⟩

theorem Windows.pairwise_behind (n : Nat) {offsets : List Nat}
    (h : offsets.Pairwise (fun o o' => o + TS_PACKET_SIZE ≤ o')) :
    (offsets.map (n + ·)).Pairwise (fun o o' => o + TS_PACKET_SIZE ≤ o') := by
  rw [pairwise_map]
  exact h.imp fun hle => by omega

theorem Cut.windows {input : List UInt8} {n : Nat} (h : Cut input ps n rest) :
    Windows input ps := by
  induction h with
  | rest buf => exact ⟨[], List.Pairwise.nil, List.Forall₂.nil⟩
  | skip gap _ ih =>
    obtain ⟨offsets, hp, hw⟩ := ih
    exact ⟨_, Windows.pairwise_behind gap.length hp, Windows.behind gap hw⟩
  | packet p hp _ ih =>
    obtain ⟨offsets, hpair, hw⟩ := ih
    refine ⟨0 :: offsets.map (p.val.length + ·), ?_, ?_⟩
    · refine List.Pairwise.cons ?_ (Windows.pairwise_behind _ hpair)
      intro o ho
      obtain ⟨o', _, rfl⟩ := mem_map.mp ho
      omega
    · refine List.Forall₂.cons ⟨?_, hp⟩ (Windows.behind p.val hw)
      exact take_left' p.property

/-- After every call, the bytes that came in are the packets that were returned or are queued, the
bytes that were reported as malformed, and the buffer. The packets are windows of the input in its
order, the same ones that the calls without their limits give, and the buffer stays below one packet
in sync and at its tail out of sync. -/
theorem every_byte_is_accounted_for (calls : List Call) :
    ((run call {} calls).1.malformed_bytes < U64_MAX →
      (input calls).length =
        TS_PACKET_SIZE * ((returned (run call {} calls).2).length +
            (run call {} calls).1.completed.length) +
          reported (run call {} calls).2 + (run call {} calls).1.buf.length) ∧
    Windows (input calls) (returned (run call {} calls).2 ++ (run call {} calls).1.completed) ∧
    returned (run call {} calls).2 ++ (run call {} calls).1.completed =
      returned (run call {} (calls.map Call.unlimited)).2 ++
        (run call {} (calls.map Call.unlimited)).1.completed ∧
    if (run call {} calls).1.resync_required then
      (run call {} calls).1.buf.length ≤ TS_RESYNC_TAIL_BYTES
    else (run call {} calls).1.buf.length < TS_PACKET_SIZE := by
  obtain ⟨hstream, hframes, hcount⟩ := run_refines calls
  have hcut := Stream.run_cuts calls
  have hfit := Stream.run_fits calls
  have hbuf : (run call {} calls).1.buf = (run Stream.call {} calls).1.buf := by
    rw [← hstream]; rfl
  have hmode : (run call {} calls).1.resync_required = (run Stream.call {} calls).1.resync := by
    rw [← hstream]; rfl
  have hunlimited : run Stream.call {} (calls.map Call.unlimited) = run Stream.call {} calls := by
    rw [run_map]
    congr 1
    funext t c
    cases c <;> rfl
  refine ⟨?_, ?_, ?_, ?_⟩
  · intro h
    rw [← length_append, hframes, (hcount h).2, hbuf]
    exact hcut.length
  · rw [hframes]
    exact hcut.windows
  · rw [hframes, (run_refines (calls.map Call.unlimited)).2.1, hunlimited]
  · rw [hmode, hbuf]
    exact hfit

/-- A packet and 13 bytes, read with no room for the packet. -/
def limitedCalls : List Call :=
  [.push_limited (0x47 :: List.replicate 200 0) 0, .drain_completed 1, .drain_for_boundary]

/-- The packet comes with the next drain, and the boundary gives up the 13 bytes. -/
theorem a_limit_delays_a_packet :
    (returned (run call {} limitedCalls).2).length = 1 ∧
      reported (run call {} limitedCalls).2 = 13 ∧
      (input limitedCalls).length =
        TS_PACKET_SIZE * ((returned (run call {} limitedCalls).2).length +
            (run call {} limitedCalls).1.completed.length) +
          reported (run call {} limitedCalls).2 + (run call {} limitedCalls).1.buf.length := by
  have h := (every_byte_is_accounted_for limitedCalls).1 (by decide +kernel)
  exact ⟨by decide +kernel, by decide +kernel, h⟩

end tuner_hal2_common.TsPacketCompletionBuffer
