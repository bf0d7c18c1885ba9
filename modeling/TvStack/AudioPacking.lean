-- The audio frames come back: the frames that were packed into PES payloads
-- come out byte for byte and in order, each with the timestamp of its packet or
-- with the samples since the last one counted on.
import Mathlib.Algebra.Order.BigOperators.Group.List
import TvStack.AudioFrames

open List Loops Machines Words

namespace tuner_hal2_demux.av

open AudioTimestampAssociation

/-! ## Where the frames start -/

variable (frames : List AudioFrame) (packets : List PesPacket)

/-- The place of the first byte of frame `j`, in the bytes of all frames. -/
def startOf (j : Nat) : Nat :=
  ((frames.map (·.bytes.length)).take j).sum

/-- The place of the first byte of packet `i`, in the payloads of all packets. -/
def begins (i : Nat) : Nat :=
  ((packets.map (·.payload.length)).take i).sum

/-- Frame `j` is the first one that starts in packet `i`. -/
def FirstIn (j i : Nat) : Prop :=
  begins packets i ≤ startOf frames j ∧ startOf frames j < begins packets (i + 1) ∧
    ∀ l < j, startOf frames l < begins packets i

instance (frames : List AudioFrame) (packets : List PesPacket) (j i : Nat) :
    Decidable (FirstIn frames packets j i) := by
  unfold FirstIn
  infer_instance

/-- The timestamp of the packet in which frame `j` is the first one to start. -/
def announced (j : Nat) : Option Nat :=
  ((List.range packets.length).find? fun i => FirstIn frames packets j i).bind fun i =>
    packets[i]?.bind (·.pts_90khz)

/-- The samples of `n` frames from frame `j` on. -/
def samplesFrom (j n : Nat) : Nat :=
  (((frames.drop j).take n).map (·.header.sample_count)).sum

/-- The frames, all of one signature, are divided into the payloads of the packets. -/
structure Packed (signature : AudioFrameSignature) (frames : List AudioFrame)
    (packets : List PesPacket) : Prop where
  bytes : (packets.map (·.payload)).flatten = (frames.map (·.bytes)).flatten
  one_layout : ∀ f ∈ frames, f.header.signature = signature
  nonempty : ∀ p ∈ packets, p.payload ≠ []
  /-- The first packet has a timestamp and is aligned. -/
  first : ∀ p ∈ packets.head?, p.pts_90khz.isSome ∧ p.data_alignment_indicator = true
  /-- A frame starts in every packet that has a timestamp. -/
  starts : ∀ i p, packets[i]? = some p → p.pts_90khz.isSome → ∃ j < frames.length,
    begins packets i ≤ startOf frames j ∧ startOf frames j < begins packets (i + 1)
  /-- The samples behind a timestamp are counted in a `u64`. -/
  countable : ∀ j n, (announced frames packets j).isSome → j + n ≤ frames.length →
    (∀ l, j < l → l < j + n → announced frames packets l = none) →
    samplesFrom frames j n ≤ U64_MAX

/-- Frames with the packets they are divided into. -/
structure Packing where
  signature : AudioFrameSignature
  frames : List AudioFrame
  packets : List PesPacket
  packed : Packed signature frames packets

theorem AudioFrame.length_pos (f : AudioFrame) : 0 < f.bytes.length := by
  by_contra hzero
  have hnil : f.bytes = [] := length_eq_zero_iff.mp (by omega)
  have hparsed := f.parsed
  rw [hnil] at hparsed
  cases hparsed

section Positions

variable {frames : List AudioFrame} {packets : List PesPacket} {i j k : Nat}

section

variable {α : Type} (f : α → List UInt8) (l : List α) (n : Nat)

theorem sum_take_add_one {l : List α} {a : α} (h : l[n]? = some a) :
    ((l.map (f · |>.length)).take (n + 1)).sum =
      ((l.map (f · |>.length)).take n).sum + (f a).length := by
  rw [take_add_one, getElem?_map, h]
  simp

theorem drop_sum_take : (l.map f).flatten.drop ((l.map (f · |>.length)).take n).sum =
    ((l.drop n).map f).flatten := by
  have h := drop_sum_flatten (l.map f) n
  rwa [map_map, ← map_drop] at h

theorem sum_take_length (h : l.length ≤ n) :
    ((l.map (f · |>.length)).take n).sum = (l.map f).flatten.length := by
  rw [take_of_length_le (by simpa using h), length_flatten, map_map]
  rfl

end

theorem startOf_succ {f : AudioFrame} (h : frames[j]? = some f) :
    startOf frames (j + 1) = startOf frames j + f.bytes.length :=
  sum_take_add_one AudioFrame.bytes j h

theorem begins_succ {p : PesPacket} (h : packets[i]? = some p) :
    begins packets (i + 1) = begins packets i + p.payload.length :=
  sum_take_add_one PesPacket.payload i h

theorem startOf_mono (frames : List AudioFrame) : Monotone (startOf frames) :=
  monotone_sum_take _

theorem begins_mono (packets : List PesPacket) : Monotone (begins packets) :=
  monotone_sum_take _

theorem startOf_lt (h : j < k) (hj : j < frames.length) : startOf frames j < startOf frames k := by
  have hsucc := startOf_succ (getElem?_eq_getElem hj)
  have hpos := frames[j].length_pos
  have hmono := startOf_mono frames (Nat.add_one_le_of_lt h)
  omega

theorem startOf_length (frames : List AudioFrame) (h : frames.length ≤ j) :
    startOf frames j = (frames.map (·.bytes)).flatten.length :=
  sum_take_length AudioFrame.bytes frames j h

theorem begins_length (packets : List PesPacket) :
    begins packets packets.length = (packets.map (·.payload)).flatten.length :=
  sum_take_length PesPacket.payload packets _ le_rfl

/-- A byte is in one packet. -/
theorem same_packet {t : Nat} (hi : begins packets i ≤ t) (hi' : t < begins packets (i + 1))
    (hk : begins packets k ≤ t) (hk' : t < begins packets (k + 1)) : i = k := by
  have hik := (begins_mono packets).reflect_lt (hi.trans_lt hk')
  have hki := (begins_mono packets).reflect_lt (hk.trans_lt hi')
  omega

theorem announced_first {p : PesPacket} (h : FirstIn frames packets j i)
    (hp : packets[i]? = some p) : announced frames packets j = p.pts_90khz := by
  have hi : i < packets.length := (List.getElem?_eq_some_iff.mp hp).1
  have hfind : (range packets.length).find? (fun i => FirstIn frames packets j i) = some i := by
    cases hfound : (range packets.length).find? fun i => FirstIn frames packets j i with
    | none =>
      have hnot := find?_eq_none.mp hfound i (mem_range.mpr hi)
      exact absurd (by simpa using h) hnot
    | some k =>
      have hk : FirstIn frames packets j k := by simpa using find?_some hfound
      rw [same_packet h.1 h.2.1 hk.1 hk.2.1]
  rw [announced, hfind, Option.bind_some, hp, Option.bind_some]

/-- A frame that starts in a packet behind another one has no timestamp of its own. -/
theorem announced_later {l : Nat} (hbegins : begins packets i ≤ startOf frames j)
    (hends : startOf frames j < begins packets (i + 1)) (hlj : l < j)
    (hl : begins packets i ≤ startOf frames l) : announced frames packets j = none := by
  have hfind : (range packets.length).find? (fun i => FirstIn frames packets j i) = none := by
    apply find?_eq_none.mpr
    intro k _
    rw [decide_eq_true_eq]
    intro hk
    obtain rfl := same_packet hbegins hends hk.1 hk.2.1
    exact absurd (hk.2.2 l hlj) (not_lt.mpr hl)
  rw [announced, hfind]
  rfl

end Positions

/-! ## The anchor behind each frame -/

section Anchors

variable (s : Packing)

/-- The anchor behind the headers of the first `m` frames. -/
def anchorBehind : Nat → Option AudioTimestampAnchor
  | 0 => none
  | m + 1 =>
    match announced s.frames s.packets m with
    | some p => some ⟨p, s.signature, samplesFrom s.frames m 1⟩
    | none => (anchorBehind m).map fun anchor =>
      { anchor with elapsed_samples := anchor.elapsed_samples + samplesFrom s.frames m 1 }

/-- The timestamp of frame `m`. -/
def ptsOf (m : Nat) : Nat :=
  match announced s.frames s.packets m with
  | some p => p
  | none => ((anchorBehind s m).map (·.next_pts_90khz)).getD 0

variable {s} {j m p : Nat}

theorem samplesFrom_add (frames : List AudioFrame) (j n k : Nat) :
    samplesFrom frames j (n + k) = samplesFrom frames j n + samplesFrom frames (j + n) k := by
  simp only [samplesFrom, take_add, drop_drop, map_append, sum_append]

theorem samplesFrom_one {f : AudioFrame} (h : s.frames[m]? = some f) :
    samplesFrom s.frames m 1 = f.header.sample_count := by
  rw [samplesFrom, take_one, head?_drop, h]
  simp

/-- The anchor since the last timestamp counts the samples of all frames from there on. -/
theorem anchorBehind_since (hj : announced s.frames s.packets j = some p) (n : Nat)
    (hnone : ∀ l, j < l → l ≤ j + n → announced s.frames s.packets l = none) :
    anchorBehind s (j + n + 1) =
      some ⟨p, s.signature, samplesFrom s.frames j (n + 1)⟩ := by
  induction n with
  | zero => simp only [anchorBehind, hj]
  | succ n ih =>
    have hbefore := ih fun l hlt hle => hnone l hlt (by omega)
    rw [anchorBehind, hnone (j + (n + 1)) (by omega) le_rfl, ← Nat.add_assoc, hbefore,
      samplesFrom_add s.frames j (n + 1) 1]
    rfl

/-- The timestamp of the `k`-th frame behind the last one that has its own. -/
theorem ptsOf_since (hj : announced s.frames s.packets j = some p) (k : Nat)
    (hnone : ∀ l, j < l → l ≤ j + k → announced s.frames s.packets l = none) :
    ptsOf s (j + k) =
      if k = 0 then p
      else (p + samplesFrom s.frames j k * 90000 / s.signature.sample_rate_hz) % 2 ^ 33 := by
  cases k with
  | zero => rw [ptsOf, Nat.add_zero, hj, if_pos rfl]
  | succ k =>
    have hanchor := anchorBehind_since hj k fun l hlt hle =>
      hnone l hlt (by omega)
    rw [ptsOf, hnone _ (by omega) le_rfl, ← Nat.add_assoc, hanchor]
    rfl

end Anchors

/-! ## Packed frames -/

namespace Packing

variable (s : Packing) {i m t : Nat} {f : AudioFrame}

theorem begins_le (hi : i ≤ s.packets.length) :
    begins s.packets i ≤ startOf s.frames s.frames.length := by
  rw [startOf_length s.frames le_rfl, ← s.packed.bytes, ← begins_length]
  exact begins_mono s.packets hi

theorem announced_zero (hpos : 0 < s.frames.length) : (announced s.frames s.packets 0).isSome := by
  obtain ⟨signature, frames, packets, h⟩ := s
  cases packets with
  | nil =>
    have hlength := congrArg length h.bytes
    rw [← startOf_length frames le_rfl] at hlength
    have hlt := startOf_lt hpos hpos
    simp [startOf] at hlength hlt
    omega
  | cons packet rest =>
    have hne := length_pos_iff.mpr (h.nonempty packet mem_cons_self)
    have hfirst : FirstIn frames (packet :: rest) 0 0 := by
      refine ⟨le_rfl, ?_, fun l hl => absurd hl (Nat.not_lt_zero l)⟩
      simpa [startOf, begins] using hne
    rw [announced_first hfirst rfl]
    exact (h.first packet rfl).1

/-- Before each frame, or at it, there is a last frame with a timestamp of its own. -/
theorem announced_before (hm : m < s.frames.length) :
    ∃ j n p, m = j + n ∧ announced s.frames s.packets j = some p ∧
      ∀ l, j < l → l ≤ j + n → announced s.frames s.packets l = none := by
  induction m with
  | zero =>
    obtain ⟨p, hp⟩ := Option.isSome_iff_exists.mp (s.announced_zero hm)
    exact ⟨0, 0, p, rfl, hp, fun l hlt hle => by omega⟩
  | succ m ih =>
    cases hown : announced s.frames s.packets (m + 1) with
    | some p => exact ⟨m + 1, 0, p, rfl, hown, fun l hlt hle => by omega⟩
    | none =>
      obtain ⟨j, n, p, rfl, hp, hnone⟩ := ih (by omega)
      refine ⟨j, n + 1, p, rfl, hp, fun l hlt hle => ?_⟩
      by_cases hl : l = j + n + 1
      · rw [hl, hown]
      · exact hnone l hlt (by omega)

/-- The header of each frame is committed, with the anchor behind it. -/
theorem commits (hf : s.frames[m]? = some f) :
    ∃ behind, anchorBehind s (m + 1) = some behind ∧
      commit_frame_header (anchorBehind s m) f.header
        (ptsOf s m) (announced s.frames s.packets m).isSome = .ok behind := by
  have hm : m < s.frames.length := (List.getElem?_eq_some_iff.mp hf).1
  have hlayout := s.packed.one_layout f (mem_of_getElem? hf)
  cases hown : announced s.frames s.packets m with
  | some p =>
    refine ⟨⟨p, s.signature, samplesFrom s.frames m 1⟩, ?_, ?_⟩
    · simp only [anchorBehind, hown]
    · simp only [commit_frame_header, ptsOf, hown, Option.isSome_some, if_true, hlayout,
        samplesFrom_one hf]
  | none =>
    obtain ⟨j, n, p, rfl, hp, hnone⟩ := s.announced_before hm
    cases n with
    | zero =>
      rw [Nat.add_zero, hp] at hown
      cases hown
    | succ n =>
      have hbefore := anchorBehind_since hp n fun l hlt hle => hnone l hlt (by omega)
      have hbehind := anchorBehind_since hp (n + 1) hnone
      refine ⟨_, hbehind, ?_⟩
      have hcount := s.packed.countable j (n + 2) (by rw [hp]; rfl) (by omega) fun l hlt hle =>
        hnone l hlt (by omega)
      have hsum := samplesFrom_add s.frames j (n + 1) 1
      rw [samplesFrom_one hf] at hsum
      have hadd : checked_add U64_MAX (samplesFrom s.frames j (n + 1)) f.header.sample_count =
          some (samplesFrom s.frames j (n + 2)) := by
        rw [checked_add, ← hsum, if_pos hcount]
      rw [← Nat.add_assoc, hbefore]
      simp only [commit_frame_header, hlayout, Option.isSome_none, Bool.false_eq_true, if_false,
        ne_eq, not_true_eq_false, hadd]

/-- Behind the first frames there is an anchor, which gives the timestamp of the next frame. -/
theorem anchored (hm : m < s.frames.length) : (anchorBehind s (m + 1)).isSome := by
  obtain ⟨behind, hbehind, _⟩ := s.commits (getElem?_eq_getElem hm)
  rw [hbehind]
  rfl

theorem pts_at_boundary (hm : m < s.frames.length) :
    announced s.frames s.packets m = some (ptsOf s m) ∨
      announced s.frames s.packets m = none ∧
        (anchorBehind s m).map (·.next_pts_90khz) =
          some (ptsOf s m) := by
  unfold ptsOf
  cases hown : announced s.frames s.packets m with
  | some p => exact .inl rfl
  | none =>
    refine .inr ⟨rfl, ?_⟩
    cases m with
    | zero =>
      have hzero := s.announced_zero hm
      rw [hown] at hzero
      cases hzero
    | succ m =>
      obtain ⟨anchor, hanchor⟩ := Option.isSome_iff_exists.mp (s.anchored (m := m) (by omega))
      rw [hanchor]
      rfl

end Packing

/-! ## The frames of a chunk -/

/-- A chunk's payload goes on with a frame, as the bytes of all frames do. -/
theorem AudioFrame.continues {f : AudioFrame} {q : Nat} (rest : List UInt8) (n : Nat)
    (hq : q ≤ f.bytes.length) : f.Continues q (((f.bytes ++ rest).drop q).take n) := by
  rw [AudioFrame.Continues, drop_append_of_le_length hq, ← length_drop, take_take,
    take_append_of_le_length (Nat.min_le_left _ _), take_eq_take_iff]
  simp only [length_take, length_append]
  omega

section Chunks

variable (s : Packing) (origin : TsInputOrigin) {explicit : Option Nat}
  {a : AudioTimestampAssociation}

/-- The association once it read the first `m` frames, and `q` bytes of the next one. -/
inductive Place (m : Nat) : Nat → AudioTimestampAssociation → Prop
  | boundary : m ≤ s.frames.length →
      Place m 0 { anchor := anchorBehind s m, origin := some origin }
  | inside {f : AudioFrame} {q : Nat} {start : AudioFrameInProgress}
      {behind : AudioTimestampAnchor} : s.frames[m]? = some f → 0 < q → q < f.bytes.length →
      start.frame_pts_90khz = ptsOf s m →
      start.reanchor = (announced s.frames s.packets m).isSome →
      anchorBehind s (m + 1) = some behind →
      Place m q (within { origin := some origin } f q start
        (f.anchorAt (anchorBehind s m) behind q))

/-- The timestamp of packet `i` that is still to be given away before the byte at `t`. -/
def Explicit (i : Nat) (pts_90khz : Option Nat) (t : Nat) (explicit : Option Nat) : Prop :=
  (explicit = pts_90khz ∧ ∀ l, startOf s.frames l < t → startOf s.frames l < begins s.packets i) ∨
    (explicit = none ∧ ∃ l, begins s.packets i ≤ startOf s.frames l ∧ startOf s.frames l < t)

/-- The payloads and timestamps of the first `m` frames. -/
def expected (m : Nat) : List (List UInt8 × Option Nat) :=
  (List.range m).map fun j =>
    ((s.frames[j]?.map (·.bytes)).getD [], some (ptsOf s j))

/-- A returned frame: its payload and its timestamp. -/
def AudioMediaFrame.shown (frame : AudioMediaFrame) : List UInt8 × Option Nat :=
  (frame.payload, frame.metadata.pts_90khz)

/-- The loop over the chunk of packet `i`, behind `m` frames and `q` bytes of the next one. -/
structure Reading (i : Nat) (packet : PesPacket) (before m q : Nat)
    (v : ChunkVars) : Prop where
  place : Place s origin m q v.association
  begun : begins s.packets i ≤ startOf s.frames m + q
  in_chunk : startOf s.frames m + q ≤ begins s.packets (i + 1)
  remaining : v.remaining = ((s.frames.map (·.bytes)).flatten.drop (startOf s.frames m + q)).take
    (begins s.packets (i + 1) - (startOf s.frames m + q))
  explicit : Explicit s i packet.pts_90khz (startOf s.frames m + q)
    v.explicit_for_first_start
  outputs : expected s before ++ v.outputs.map (·.shown) =
    expected s m
  failure : v.failure = none

variable {s origin} {i m q before : Nat} {packet : PesPacket}
  {f : AudioFrame} {v : ChunkVars}

theorem expected_succ (hf : s.frames[m]? = some f) :
    expected s (m + 1) =
      expected s m ++
        [(f.bytes, some (ptsOf s m))] := by
  rw [expected, range_succ, map_append, map_singleton, hf]
  rfl

theorem expected_payloads (hm : m ≤ s.frames.length) :
    (expected s m).map Prod.fst = (s.frames.take m).map (·.bytes) := by
  induction m with
  | zero => rfl
  | succ m ih =>
    have hf := getElem?_eq_getElem (Nat.lt_of_succ_le hm)
    rw [expected_succ hf, map_append, ih (by omega), take_add_one, map_append, hf]
    rfl

/-- No frame starts inside another one. -/
theorem starts_before {t l : Nat} (ht : t ≤ startOf s.frames (m + 1))
    (hl : startOf s.frames l < t) : startOf s.frames l ≤ startOf s.frames m := by
  have hlt := (startOf_mono s.frames).reflect_lt (hl.trans_le ht)
  exact startOf_mono s.frames (Nat.le_of_lt_add_one hlt)

/-- Inside a frame nothing changes for the timestamp. -/
theorem Explicit.later {pts_90khz : Option Nat} {t u : Nat}
    (h : Explicit s i pts_90khz t explicit) (ht : startOf s.frames m < t) (htu : t ≤ u)
    (hu : u ≤ startOf s.frames (m + 1)) : Explicit s i pts_90khz u explicit := by
  rcases h with ⟨hexplicit, hall⟩ | ⟨hnone, l, hbegins, hl⟩
  · refine .inl ⟨hexplicit, fun l hl => hall l ?_⟩
    have hle := starts_before hu hl
    omega
  · exact .inr ⟨hnone, l, hbegins, by omega⟩

/-- The timestamp that is still to be given away where a frame starts is that of the frame. -/
theorem Explicit.announced (hp : s.packets[i]? = some packet) (hm : m < s.frames.length)
    (h : Explicit s i packet.pts_90khz (startOf s.frames m) explicit)
    (hbegins : begins s.packets i ≤ startOf s.frames m)
    (hends : startOf s.frames m < begins s.packets (i + 1)) :
    explicit = announced s.frames s.packets m := by
  rcases h with ⟨hexplicit, hall⟩ | ⟨hnone, l, hl, hlm⟩
  · have hfirst : FirstIn s.frames s.packets m i :=
      ⟨hbegins, hends, fun l hl => hall l (startOf_lt hl (hl.trans hm))⟩
    rw [hexplicit, announced_first hfirst hp]
  · have hlt := (startOf_mono s.frames).reflect_lt hlm
    rw [hnone, announced_later hbegins hends hlt hl]

theorem Reading.frame (hp : s.packets[i]? = some packet)
    (hv : Reading s origin i packet before m q v) (hne : v.remaining ≠ []) :
    startOf s.frames m + q < begins s.packets (i + 1) ∧
      ∃ f, s.frames[m]? = some f ∧ q < f.bytes.length := by
  have hin : startOf s.frames m + q < begins s.packets (i + 1) := by
    have hpos := length_pos_iff.mpr hne
    rw [hv.remaining, length_take] at hpos
    omega
  refine ⟨hin, ?_⟩
  have hplace := hv.place
  generalize v.association = a at hplace
  cases hplace with
  | boundary hm =>
    have hi := (List.getElem?_eq_some_iff.mp hp).1
    have hle := s.begins_le (Nat.add_one_le_of_lt hi)
    have hlt := (startOf_mono s.frames).reflect_lt (hin.trans_le hle)
    exact ⟨s.frames[m], getElem?_eq_getElem hlt, s.frames[m].length_pos⟩
  | inside hf _ hlen => exact ⟨_, hf, hlen⟩

/-- The timestamp of the frame that begins at a boundary is the one of the chunk, or that of the
anchor. -/
theorem begin_frame_boundary {anchor : Option AudioTimestampAnchor} {pts_90khz : Nat}
    (hpts : explicit = some pts_90khz ∨
      explicit = none ∧ anchor.map (·.next_pts_90khz) = some pts_90khz)
    (chunk : AudioPesChunk) (remaining : List UInt8) (outputs : List AudioMediaFrame)
    (dts : Option Nat) :
    ChunkVars.begin_frame
        ⟨{ anchor, origin := some origin }, remaining, outputs, explicit, dts, none⟩ chunk =
      .ok ⟨⟨anchor, some origin, .Frame ⟨[], none, pts_90khz, chunk.stream_id,
          chunk.pts_90khz.isSome, dts, chunk.is_pes_private_data, explicit.isSome⟩, none⟩,
        remaining, outputs, none, none, none⟩ := by
  rcases hpts with rfl | ⟨rfl, hanchor⟩
  · rfl
  · obtain ⟨anchor, rfl, rfl⟩ := Option.map_eq_some_iff.mp hanchor
    rfl

/-- Where a frame starts, and inside it, the loop is in that frame. -/
theorem Reading.begin_frame (hp : s.packets[i]? = some packet)
    (hv : Reading s origin i packet before m q v) (hne : v.remaining ≠ [])
    (hf : s.frames[m]? = some f) {behind : AudioTimestampAnchor}
    (hbehind : anchorBehind s (m + 1) = some behind) :
    ∃ start w, v.begin_frame (.from packet) = .ok w ∧
      start.frame_pts_90khz = ptsOf s m ∧
      start.reanchor = (announced s.frames s.packets m).isSome ∧
      w.association = .within { origin := some origin } f q start
        (f.anchorAt (anchorBehind s m) behind q) ∧
      w.remaining = v.remaining ∧ w.outputs = v.outputs ∧ w.failure = none ∧
      Explicit s i packet.pts_90khz (startOf s.frames m + q + 1)
        w.explicit_for_first_start := by
  obtain ⟨hin, g, hg, hlen⟩ := hv.frame hp hne
  cases hf.symm.trans hg
  have hsucc := startOf_succ hf
  obtain ⟨association, remaining, outputs, explicit, dts, failure⟩ := v
  obtain ⟨hplace, hbegun, hchunk, hremaining, hexplicit, houtputs, rfl⟩ := hv
  cases hplace with
  | @inside g _ start behind' hg hq _ hpts hreanchor hbehind' =>
    -- the frame began before
    cases hf.symm.trans hg
    cases hbehind.symm.trans hbehind'
    refine ⟨start, _, ?_, hpts, hreanchor, rfl, rfl, rfl, rfl,
      hexplicit.later (m := m) (by omega) (Nat.le_succ _) (by omega)⟩
    simp only [ChunkVars.begin_frame, hlen, if_true]
  | boundary hm =>
    have hmlt : m < s.frames.length := (List.getElem?_eq_some_iff.mp hf).1
    have hannounced := Explicit.announced hp hmlt hexplicit hbegun hin
    subst hannounced
    refine ⟨⟨[], none, ptsOf s m, packet.stream_id,
      packet.pts_90khz.isSome, dts, packet.is_pes_private_data,
      (announced s.frames s.packets m).isSome⟩, _,
      begin_frame_boundary (s.pts_at_boundary hmlt) .., rfl, rfl, ?_, rfl, rfl, rfl,
      .inr ⟨rfl, m, hbegun, by omega⟩⟩
    rw [within_reading f.header_pos, AudioFrame.anchorAt, if_pos f.header_pos]
    rfl

/-- The payload from a byte of a frame on goes on with that frame. -/
theorem Reading.continues (hv : Reading s origin i packet before m q v)
    (hf : s.frames[m]? = some f) (hlen : q < f.bytes.length) : f.Continues q v.remaining := by
  have hbytes : (s.frames.map (·.bytes)).flatten.drop (startOf s.frames m) =
      f.bytes ++ ((s.frames.drop (m + 1)).map (·.bytes)).flatten := by
    rw [startOf, drop_sum_take, drop_eq_getElem?_toList_append, hf]
    simp
  rw [hv.remaining, ← drop_drop, hbytes]
  exact AudioFrame.continues _ _ hlen.le

section

variable (hp : s.packets[i]? = some packet)
include hp

section

variable (hv : Reading s origin i packet before m q v)
include hv

/-- A turn reads on in its frame, or to the start of the next one. -/
theorem Reading.turn (hne : v.remaining ≠ []) :
    ∃ w m' q', v.turn (.from packet) = .yield w ∧
      Reading s origin i packet before m' q' w := by
  obtain ⟨hin, f, hf, hlen⟩ := hv.frame hp hne
  obtain ⟨behind, hbehind, hcommit⟩ := s.commits hf
  obtain ⟨start, w, hbegin, hpts, hreanchor, hassociation, hremaining, houtputs, hfailure,
    hexplicit⟩ := hv.begin_frame hp hne hf hbehind
  have hfill := fill_frame.spec { origin := some origin } hlen
    (hv.continues hf hlen) (hpts ▸ hreanchor ▸ hcommit) v.outputs rfl
  -- the bytes that this turn takes
  generalize hc : min (f.bytes.length - q) v.remaining.length = c at hfill
  have hturn : v.turn (.from packet) = .yield { w with
      association := .within { origin := some origin } f (q + c) start
        (f.anchorAt (anchorBehind s m) behind (q + c))
      remaining := v.remaining.drop c
      outputs := if q + c < f.bytes.length then v.outputs else v.outputs ++ [f.media start] } := by
    rw [ChunkVars.turn, if_neg hne, hbegin]
    simp only [hassociation, hremaining, houtputs, hfill]
  have hsucc := startOf_succ hf
  have hpos := length_pos_iff.mpr hne
  have hchunk : startOf s.frames m + q + c ≤ begins s.packets (i + 1) := by
    have hlength := congrArg length hv.remaining
    rw [length_take] at hlength
    omega
  have hdrop : v.remaining.drop c = ((s.frames.map (·.bytes)).flatten.drop
      (startOf s.frames m + q + c)).take
      (begins s.packets (i + 1) - (startOf s.frames m + q + c)) := by
    rw [hv.remaining, drop_take, drop_drop, Nat.sub_sub]
  have hlater := hexplicit.later (m := m) (u := startOf s.frames m + q + c) (by omega) (by omega)
    (by omega)
  have hbegun := hv.begun
  by_cases hend : q + c < f.bytes.length
  · -- the frame goes on behind this payload
    rw [if_pos hend] at hturn
    refine ⟨_, m, q + c, hturn, ?_⟩
    rw [Nat.add_assoc] at hchunk hdrop hlater
    exact {
      place := .inside hf (by omega) hend hpts hreanchor hbehind
      begun := by omega
      in_chunk := hchunk
      remaining := hdrop
      explicit := hlater
      outputs := hv.outputs
      failure := hfailure }
  · -- the frame is complete
    have hwhole : startOf s.frames m + q + c = startOf s.frames (m + 1) := by omega
    rw [hwhole] at hchunk hdrop hlater
    rw [if_neg hend] at hturn
    refine ⟨_, m + 1, 0, hturn, ?_⟩
    exact {
      place := by
        rw [within_end (by omega), AudioFrame.anchorAt,
          if_neg (by have := f.header_le; omega), ← hbehind]
        exact .boundary (List.getElem?_eq_some_iff.mp hf).1
      begun := by omega
      in_chunk := hchunk
      remaining := hdrop
      explicit := hlater
      outputs := by
        rw [expected_succ hf, ← hv.outputs, map_append, append_assoc, ← hpts]
        rfl
      failure := hfailure }

/-- At the end of the chunk its timestamp is given away. -/
theorem Reading.explicit_none (hend : startOf s.frames m + q = begins s.packets (i + 1)) :
    v.explicit_for_first_start = none := by
  rcases hv.explicit with ⟨hexplicit, hall⟩ | ⟨hnone, _⟩
  · rw [hexplicit]
    by_contra hsome
    obtain ⟨j, _, hbegins, hends⟩ :=
      s.packed.starts i packet hp (Option.isSome_iff_ne_none.mpr hsome)
    have hlt := hall j (hend ▸ hends)
    omega
  · exact hnone

theorem Reading.loop :
    ∃ m' q', startOf s.frames m' + q' = begins s.packets (i + 1) ∧
      Reading s origin i packet before m' q'
        (Loops.loop (ChunkVars.turn (.from packet))
          ChunkVars.size v) := by
  have hlowers := ChunkVars.turn_lowers (.from packet)
  induction hn : v.size using Nat.strongRecOn generalizing v m q with
  | _ n ih =>
    by_cases hne : v.remaining = []
    · have hdone : v.turn (.from packet) = .done v := by
        rw [ChunkVars.turn, if_pos hne]
      rw [loop_done hlowers hdone]
      refine ⟨m, q, ?_, hv⟩
      have hi := (List.getElem?_eq_some_iff.mp hp).1
      have hle := s.begins_le (Nat.add_one_le_of_lt hi)
      rw [startOf_length s.frames le_rfl] at hle
      have hlength := congrArg length hv.remaining
      rw [hne, length_take, length_drop] at hlength
      have hchunk := hv.in_chunk
      simp only [length_nil] at hlength
      omega
    · obtain ⟨w, m', q', hturn, hw⟩ := hv.turn hp hne
      rw [loop_yield hlowers hturn]
      exact ih _ (hn ▸ hlowers _ _ hturn) hw rfl

end

/-- The chunk of the packet where the association stands is read, and gives the frames that end
in it. -/
theorem process_chunk.spec (ha : Place s origin m q a)
    (hat : startOf s.frames m + q = begins s.packets i) :
    ∃ b outputs m' q', a.process_chunk (.from packet) 0 = .ok (b, outputs) ∧
      Place s origin m' q' b ∧
      startOf s.frames m' + q' = begins s.packets (i + 1) ∧
      expected s m ++ outputs.map (·.shown) =
        expected s m' := by
  have hsucc := begins_succ hp
  have hnonempty := length_pos_iff.mpr (s.packed.nonempty packet (mem_of_getElem? hp))
  have hpayload : packet.payload = ((s.frames.map (·.bytes)).flatten.drop (begins s.packets i)).take
      (begins s.packets (i + 1) - begins s.packets i) := by
    rw [hsucc, ← s.packed.bytes, begins, drop_sum_take,
      drop_eq_getElem?_toList_append, hp]
    simp
  have hreading : Reading s origin i packet m m q
      ⟨a, (AudioPesChunk.from packet).payload.drop 0, [], (AudioPesChunk.from packet).pts_90khz,
        (AudioPesChunk.from packet).dts_90khz, none⟩ :=
    { place := ha
      begun := by omega
      in_chunk := by omega
      remaining := by rw [hat]; exact hpayload
      explicit := .inl ⟨rfl, fun l hl => hat ▸ hl⟩
      outputs := append_nil _
      failure := rfl }
  obtain ⟨m', q', hend, hloop⟩ := hreading.loop hp
  refine ⟨_, _, m', q', ?_, hloop.place, hend, hloop.outputs⟩
  have hoffset : ¬ (AudioPesChunk.from packet).payload.length ≤ 0 := not_le.mpr hnonempty
  rw [AudioTimestampAssociation.process_chunk, if_neg hoffset]
  simp only [hloop.failure, hloop.explicit_none hp hend, Option.isSome_none,
    Bool.false_eq_true, if_false]

end

/-! ## The packets -/

/-- Where the association stands before packet `n`. It has no origin before the first one. -/
def Standing (s : Packing) (origin : TsInputOrigin) (n m q : Nat)
    (a : AudioTimestampAssociation) : Prop :=
  startOf s.frames m + q = begins s.packets n ∧
    if n = 0 then m = 0 ∧ a = {} else Place s origin m q a

/-- Past the first packet there is an anchor, or a frame in progress. -/
theorem Place.started (ha : Place s origin m q a) (hpos : 0 < startOf s.frames m + q) :
    (a.anchor.isNone && a.assembly == .Boundary) = false := by
  cases ha with
  | boundary hm =>
    cases m with
    | zero => simp [startOf] at hpos
    | succ m =>
      obtain ⟨anchor, hanchor⟩ := Option.isSome_iff_exists.mp (s.anchored hm)
      rw [hanchor]
      rfl
  | inside hf hq hlen =>
    simp [within, hlen]

theorem Place.same_origin (ha : Place s origin m q a) :
    a.origin = some origin ∧ a.cold_start = none := by
  cases ha with
  | boundary | inside => exact ⟨rfl, rfl⟩

/-- Each packet is read by `process_chunk`, from where the association stands. -/
theorem Standing.extract_inner (hp : s.packets[i]? = some packet) (ha : Standing s origin i m q a) :
    ∃ b, Place s origin m q b ∧
      a.extract_inner packet origin = b.process_chunk (.from packet) 0 := by
  obtain ⟨hat, ha⟩ := ha
  have hnonempty : packet.payload.isEmpty = false :=
    isEmpty_eq_false_iff.mpr (s.packed.nonempty packet (mem_of_getElem? hp))
  by_cases hi : i = 0
  · subst hi
    obtain ⟨rfl, rfl⟩ := ha
    obtain ⟨hpts, haligned⟩ := s.packed.first packet (by rw [head?_eq_getElem?]; exact hp)
    have hq : q = 0 := by simpa [startOf, begins] using hat
    subst hq
    refine ⟨_, .boundary (Nat.zero_le _), ?_⟩
    rw [AudioTimestampAssociation.extract_inner, hnonempty]
    have hchunk : (AudioPesChunk.from packet).data_alignment_indicator = true := haligned
    simp [with_origin, Option.isSome_iff_ne_none.mp hpts, hchunk, anchorBehind]
  · rw [if_neg hi] at ha
    obtain ⟨horigin, hcold⟩ := ha.same_origin
    have hfirst : 0 < begins s.packets i := by
      have hi' := (List.getElem?_eq_some_iff.mp hp).1
      have hone := begins_succ (getElem?_eq_getElem (show 0 < s.packets.length by omega))
      have hpos := length_pos_iff.mpr (s.packed.nonempty _ (getElem_mem
        (show 0 < s.packets.length by omega)))
      have hmono := begins_mono s.packets (show 0 + 1 ≤ i by omega)
      omega
    have hstarted := ha.started (by omega)
    refine ⟨a, ha, ?_⟩
    rw [AudioTimestampAssociation.extract_inner, hnonempty]
    simp [with_origin, horigin, hcold, hstarted]

/-- A packet is answered with the frames that end in it. -/
theorem Standing.extract (hp : s.packets[i]? = some packet)
    (ha : Standing s origin i m q a) :
    ∃ b outputs m' q', a.extract packet origin = (b, .ok outputs) ∧
      Standing s origin (i + 1) m' q' b ∧
      expected s m ++ outputs.map (·.shown) =
        expected s m' := by
  obtain ⟨b, hb, hinner⟩ := ha.extract_inner hp
  obtain ⟨c, outputs, m', q', hprocess, hc, hend, houtputs⟩ := process_chunk.spec hp hb ha.1
  refine ⟨c, outputs, m', q', ?_, ⟨hend, by simpa using hc⟩, houtputs⟩
  rw [AudioTimestampAssociation.extract, hinner, hprocess]

/-- The packets of one origin, fed in order to a fresh association. -/
def extract_all (origin : TsInputOrigin) (packets : List PesPacket) :
    AudioTimestampAssociation ×
      List (Except AudioTimestampAssociationFailure (List AudioMediaFrame)) :=
  run (fun a packet => AudioTimestampAssociation.extract a packet origin) {} packets

/-- The first packets are all answered, with the first frames. -/
theorem run_standing (s : Packing) (origin : TsInputOrigin) {n : Nat}
    (hn : n ≤ s.packets.length) :
    ∃ (outputs : List (List AudioMediaFrame)) (m q : Nat),
      (extract_all origin (s.packets.take n)).2 = outputs.map .ok ∧
      Standing s origin n m q (extract_all origin (s.packets.take n)).1 ∧
      outputs.flatten.map (·.shown) = expected s m := by
  induction n with
  | zero => exact ⟨[], 0, 0, rfl, ⟨rfl, by rw [if_pos rfl]; exact ⟨rfl, rfl⟩⟩, rfl⟩
  | succ n ih =>
    obtain ⟨outputs, m, q, hanswers, hstanding, hshown⟩ := ih (Nat.le_of_lt hn)
    have hp := getElem?_eq_getElem hn
    obtain ⟨b, more, m', q', hextract, hb, hmore⟩ := hstanding.extract hp
    refine ⟨outputs ++ [more], m', q', ?_, ?_, ?_⟩
    · rw [extract_all] at hanswers hextract ⊢
      rw [take_add_one, hp, Option.toList_some, run_snoc, hanswers, hextract]
      simp
    · rw [extract_all] at hextract ⊢
      rw [take_add_one, hp, Option.toList_some, run_snoc, hextract]
      exact hb
    · rw [flatten_append, map_append, hshown, ← hmore]
      simp

/-- Where the association stands, the complete frames were read and no other ones. -/
theorem Standing.complete {n : Nat} (ha : Standing s origin n m q a) :
    m ≤ s.frames.length ∧ startOf s.frames m ≤ begins s.packets n ∧
      (m < s.frames.length → begins s.packets n < startOf s.frames (m + 1)) := by
  obtain ⟨hat, ha⟩ := ha
  have hle : startOf s.frames m ≤ begins s.packets n := hat ▸ Nat.le_add_right _ _
  by_cases hn : n = 0
  · subst hn
    obtain ⟨rfl, _⟩ := ha
    refine ⟨Nat.zero_le _, hle, fun hpos => ?_⟩
    exact startOf_lt Nat.one_pos hpos
  · rw [if_neg hn] at ha
    cases ha with
    | boundary hm => exact ⟨hm, hle, fun hlt => hat ▸ startOf_lt (Nat.lt_succ_self m) hlt⟩
    | inside hf _ hlen =>
      have hsucc := startOf_succ hf
      exact ⟨Nat.le_of_lt (List.getElem?_eq_some_iff.mp hf).1, hle, fun _ => by omega⟩

end Chunks

/-! ## The law of the frames -/

/-- After each packet the frames that are complete are returned, byte for byte and in order, and no
packet is refused. The first frame to start in a packet with a timestamp has that one, and the
`k`-th frame behind it has it moved on by the samples of `k` frames, while there is no newer one. -/
theorem packed_audio_frames_come_back {signature : AudioFrameSignature} {frames : List AudioFrame}
    {packets : List PesPacket} (h : Packed signature frames packets) (origin : TsInputOrigin)
    {n : Nat} (hn : n ≤ packets.length) :
    ∃ (outputs : List (List AudioMediaFrame)) (m : Nat),
      (extract_all origin (packets.take n)).2 = outputs.map .ok ∧
      m ≤ frames.length ∧ startOf frames m ≤ begins packets n ∧
      (m < frames.length → begins packets n < startOf frames (m + 1)) ∧
      (n = packets.length → m = frames.length) ∧
      outputs.flatten.map (·.payload) = (frames.take m).map (·.bytes) ∧
      ∀ j k p, j + k < m → announced frames packets j = some p →
        (∀ l, j < l → l ≤ j + k → announced frames packets l = none) →
        outputs.flatten[j + k]?.map (·.metadata.pts_90khz) = some (some (if k = 0 then p
          else (p + samplesFrom frames j k * 90000 / signature.sample_rate_hz) % 2 ^ 33)) := by
  let s : Packing := ⟨signature, frames, packets, h⟩
  obtain ⟨outputs, m, q, hanswers, hstanding, hshown⟩ := run_standing s origin hn
  obtain ⟨hm, hstart, hnext⟩ : m ≤ frames.length ∧ startOf frames m ≤ begins packets n ∧
    (m < frames.length → begins packets n < startOf frames (m + 1)) := hstanding.complete
  refine ⟨outputs, m, hanswers, hm, hstart, hnext, ?_, ?_, ?_⟩
  · rintro rfl
    rw [begins_length, h.bytes, ← startOf_length frames le_rfl] at hnext
    by_contra hne
    have hlt : m < frames.length := by omega
    have hmono := startOf_mono frames (Nat.add_one_le_of_lt hlt)
    omega
  · have hpayloads := congrArg (map Prod.fst) hshown
    rw [expected_payloads hm, map_map] at hpayloads
    exact hpayloads
  · intro j k p hjk hj hnone
    have hpts := congrArg (fun l => l[j + k]?.map Prod.snd) hshown
    simp only [expected, getElem?_map, getElem?_range hjk,
      Option.map_map] at hpts
    exact hpts.trans (congrArg _ (congrArg _ (ptsOf_since (s := s) hj k hnone)))

/-- An ADTS frame of nine bytes, with 1024 samples at 48 kHz. -/
def shortFrame : AudioFrame where
  bytes := [0xff, 0xf8, 0x4c, 0x80, 0x01, 0x20, 0x00, 0x00, 0x00]
  header := ⟨.Adts 1 1 48000 2, 1024, 9, 7⟩
  parsed := by decide
  whole := rfl

def shortPacket (pts_90khz : Option Nat) (payload : List UInt8) : PesPacket where
  pid := ⟨0x110, by decide⟩
  stream_id := 0xc0
  pts_90khz
  dts_90khz := none
  is_pes_private_data := false
  data_alignment_indicator := pts_90khz.isSome
  raw_bytes := payload
  payload

/-- Two frames in three packets: the header of the first one is cut, and the second one starts in
the packet behind it, which has no timestamp. -/
def shortPackets : List PesPacket :=
  [shortPacket (some 90000) (shortFrame.bytes.take 4),
    shortPacket none (shortFrame.bytes.drop 4 ++ shortFrame.bytes.take 2),
    shortPacket none (shortFrame.bytes.drop 2)]

theorem shortPackets_packed :
    Packed shortFrame.header.signature [shortFrame, shortFrame] shortPackets where
  bytes := by decide
  one_layout := by simp
  nonempty := by decide
  first := by decide
  starts i packet hp hpts := by
    have hi : i < 3 := (List.getElem?_eq_some_iff.mp hp).1
    have hstarts : ∀ i < 3, (shortPackets[i]?.any (·.pts_90khz.isSome)) = true →
        ∃ j < 2, begins shortPackets i ≤ startOf [shortFrame, shortFrame] j ∧
          startOf [shortFrame, shortFrame] j < begins shortPackets (i + 1) := by decide
    exact hstarts i hi (by rw [hp]; exact hpts)
  countable j n _ hle _ := by
    have hcount : ∀ j < 3, ∀ n < 3, samplesFrom [shortFrame, shortFrame] j n ≤ U64_MAX := by decide
    have htwo : j + n ≤ 2 := hle
    exact hcount j (by omega) n (by omega)

theorem the_short_frames_come_back :
    ∃ outputs : List (List AudioMediaFrame),
      (extract_all (.Frontend 1) shortPackets).2 = outputs.map .ok ∧
        outputs.flatten.map (·.payload) = [shortFrame.bytes, shortFrame.bytes] ∧
        outputs.flatten[1]?.map (·.metadata.pts_90khz) = some (some 91920) := by
  obtain ⟨outputs, m, hanswers, _, _, _, hall, hpayloads, hpts⟩ :=
    packed_audio_frames_come_back shortPackets_packed (.Frontend 1) (Nat.le_refl 3)
  cases hall rfl
  have hsecond := hpts 0 1 90000 (by decide) (by decide) fun l hlt hle => by
    obtain rfl : l = 1 := by omega
    decide
  exact ⟨outputs, hanswers, hpayloads, hsecond⟩

/-- An empty payload between two parts of a frame is refused, and the frame is lost with it. -/
theorem an_empty_payload_loses_the_frame :
    let packets := [shortPacket (some 90000) (shortFrame.bytes.take 4), shortPacket none [],
      shortPacket none (shortFrame.bytes.drop 4)]
    (packets.map (·.payload)).flatten = shortFrame.bytes ∧
      (extract_all (.Frontend 1) packets).2 =
        [.ok [], .error .UnsupportedOrMalformedFrames, .error .MissingAnchor] := by
  decide

end tuner_hal2_demux.av
