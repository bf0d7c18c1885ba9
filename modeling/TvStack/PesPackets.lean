-- PES assembly undoes packetization: over every division of PES packets into
-- pieces, a fresh assembler gives back exactly these packets, each as early as
-- its end is known. And what holds between the pushes of any payloads.
import TvStack.PesAssembly

open List Machines Words

namespace tuner_hal2_demux

/-- A PES packet with a complete header. A bounded one has the length that its header says. -/
structure Pes where
  raw : List UInt8
  summary : PesHeaderSummary
  header : parse_pes_header_status raw = .Complete summary
  length_eq : ∀ n, summary.expected_len = some n → raw.length = n

variable {p : Pes} {got : List UInt8}

namespace Pes

/-- The packet that the assembler makes of it. -/
def packet (p : Pes) (pid : PacketPid) : PesPacket :=
  { pid
    stream_id := p.summary.stream_id
    pts_90khz := p.summary.pts_90khz
    dts_90khz := p.summary.dts_90khz
    is_pes_private_data := p.summary.is_pes_private_data
    data_alignment_indicator := p.summary.data_alignment_indicator
    raw_bytes := p.raw
    payload := p.raw.drop p.summary.payload_offset }

/-- A packet that its own header ends. -/
def Bounded (p : Pes) : Prop := p.summary.expected_len.isSome

instance (p : Pes) : Decidable p.Bounded := inferInstanceAs (Decidable (_ = true))

/-- The bytes that came so far end the packet. -/
def Ended (p : Pes) (got : List UInt8) : Prop := p.Bounded ∧ p.raw.length ≤ got.length

instance (p : Pes) (got : List UInt8) : Decidable (p.Ended got) :=
  inferInstanceAs (Decidable (_ ∧ _))

end Pes

/-- `got` holds the first bytes of the packet, or all of it and some bytes behind it. -/
def Came (p : Pes) (got : List UInt8) : Prop := ∃ rest more, got ++ rest = p.raw ++ more

theorem Came.status (h : Came p got) :
    parse_pes_header_status got = .Incomplete ∨
      parse_pes_header_status got = .Complete p.summary := by
  obtain ⟨rest, more, heq⟩ := h
  exact parse_pes_header_status.part p.header heq

/-- Once all of the packet came, its bytes are the first ones. -/
theorem Came.take (h : Came p got) (hlen : p.raw.length ≤ got.length) :
    got.take p.raw.length = p.raw := by
  obtain ⟨rest, more, heq⟩ := h
  have htake : (got ++ rest).take p.raw.length = got.take p.raw.length :=
    take_append_of_le_length hlen
  rw [← htake, heq, take_left]

theorem Came.complete (h : Came p got) (hlen : p.raw.length ≤ got.length) :
    parse_pes_header_status got = .Complete p.summary := by
  have htake := h.take hlen
  rw [← take_append_drop p.raw.length got, htake,
    parse_pes_header_status.stable p.raw _ (by rw [p.header]; exact fun hc => by cases hc),
    p.header]

theorem Came.of_append {x : List UInt8} (h : Came p (got ++ x)) : Came p got := by
  obtain ⟨rest, more, heq⟩ := h
  exact ⟨x ++ rest, more, by rw [← append_assoc, heq]⟩

namespace PesAssembler

variable {got x : List UInt8} {a : PesAssembler} {pid : PacketPid} {p : Pes}

/-! ## The states of the assembler -/

/-- The assembler holds the bytes `buf` of the packet `p`, and knows its header or not. -/
def collecting (a : PesAssembler) (pid : PacketPid) (p : Pes) (buf : List UInt8) (known : Bool) :
    PesAssembler :=
  { a with
    pid := some pid
    buf := buf
    expected_len := if known then p.summary.expected_len else none
    unbounded_summary :=
      if known ∧ p.summary.expected_len.isNone then some p.summary else none
    next_header := none }

/-- The unbounded packet `u` is there, and `header` came of the header behind it. -/
def heading (a : PesAssembler) (pid : PacketPid) (u : Pes) (header : List UInt8) : PesAssembler :=
  { a.collecting pid u u.raw true with next_header := some header }

/-- The header is known once it is complete. -/
def known (got : List UInt8) : Bool := parse_pes_header_status got ≠ .Incomplete

/-- The assembler after the bytes `got` of `p`, with no other packet pending. -/
def after (a : PesAssembler) (pid : PacketPid) (p : Pes) (got : List UInt8) : PesAssembler :=
  if p.Ended got then a.reset_state_only else a.collecting pid p got (known got)

/-- The packets that the bytes `got` of `p` give. -/
def given (pid : PacketPid) (p : Pes) (got : List UInt8) : List PesPacket :=
  if p.Ended got then [p.packet pid] else []

theorem with_header_collecting {k : Bool} (hcame : Came p got) (hk : k = true → known got = true) :
    (a.collecting pid p got k).with_header = some (a.collecting pid p got (known got)) := by
  rcases hcame.status with hstatus | hstatus
  · have hkn : known got = false := by simp [known, hstatus]
    have hk : k = false := by
      rw [hkn] at hk
      simpa using hk
    simp [with_header, collecting, hk, hkn, hstatus]
  · have hkn : known got = true := by simp [known, hstatus]
    cases k with
    | false => simp [with_header, collecting, hkn, hstatus]
    | true =>
      cases hexp : p.summary.expected_len with
      | none => simp [with_header, collecting, hkn, hstatus]
      | some n => simp [with_header, collecting, hkn, hexp]

/-- `take_completed` gives the packet: a bounded one whose bytes came, or an unbounded one. -/
theorem take_completed_collecting (a : PesAssembler) (pid : PacketPid) (hcame : Came p got)
    (hlen : p.raw.length ≤ got.length) (hexact : ¬ p.Bounded → got = p.raw) :
    (a.collecting pid p got true).take_completed =
      (a.reset_state_only, some (p.packet pid)) := by
  have hsum : parse_pes_header_summary got = some p.summary := by
    simp [parse_pes_header_summary, hcame.complete hlen]
  have htake := hcame.take hlen
  obtain ⟨hstart, hoffset, _, _⟩ := parse_pes_header_status.complete p.header
  unfold take_completed
  simp only [collecting, hsum]
  cases hexp : p.summary.expected_len with
  | none =>
    have hgot : got = p.raw := hexact (by simp [Pes.Bounded, hexp])
    simp [hexp, hgot, hstart, Pes.packet, reset_state_only]
  | some n =>
    have hn := p.length_eq n hexp
    have hlt : ¬ got.length < n := by omega
    rw [hn] at htake
    simp [hexp, hlt, htake, hstart, Pes.packet, reset_state_only]

/-- The end of `push`: the packet is given once it ended, and else its bytes are kept. -/
theorem push_buffered_collecting {k : Bool} (out : List PesPacket) (hcame : Came p got)
    (hroom : got.length ≤ MAX_PES_BUFFER_BYTES) (hk : k = true → known got = true) :
    (a.collecting pid p got k).push_buffered out =
      (a.after pid p got, out ++ given pid p got) := by
  unfold push_buffered
  rw [with_header_collecting hcame hk]
  dsimp only
  rw [if_neg (show ¬ (a.collecting pid p got (known got)).buf.length > MAX_PES_BUFFER_BYTES from
    not_lt.mpr hroom)]
  by_cases hended : p.Ended got
  · have hkn : known got = true := by simp [known, hcame.complete hended.2]
    obtain ⟨n, hexp⟩ := Option.isSome_iff_exists.mp hended.1
    have hn := p.length_eq n hexp
    have hany : (a.collecting pid p got (known got)).expected_len.any
        (· ≤ (a.collecting pid p got (known got)).buf.length) = true := by
      simpa [collecting, hkn, hexp, hn] using hended.2
    rw [if_pos hany, hkn, take_completed_collecting a pid hcame hended.2 fun hb =>
      absurd hended.1 hb]
    simp [after, given, hended]
  · have hany : ¬ (a.collecting pid p got (known got)).expected_len.any
        (· ≤ (a.collecting pid p got (known got)).buf.length) = true := by
      intro hany
      apply hended
      simp only [collecting, Option.any_eq_true] at hany
      obtain ⟨n, hn, hle⟩ := hany
      split at hn
      · exact ⟨by simp [Pes.Bounded, hn], by rw [p.length_eq n hn]; exact of_decide_eq_true hle⟩
      · cases hn
    rw [if_neg hany]
    simp [after, given, hended]

/-! ## One piece -/

/-- The assembler between two packets. An unbounded packet may be pending. -/
def before (a : PesAssembler) (pid : PacketPid) : Option Pes → PesAssembler
  | none => a.reset_state_only
  | some u => a.collecting pid u u.raw true

/-- The assembler inside the packet `p`, of which `got` came. -/
def within (a : PesAssembler) (pid : PacketPid) (pending : Option Pes) (p : Pes)
    (got : List UInt8) : PesAssembler :=
  match pending with
  | none => a.after pid p got
  | some u => if known got then a.after pid p got else a.heading pid u got

/-- The packets that the pieces of `p` gave, with `got` of them. The pending packet is given with
the header of `p`. -/
def givenWithin (pid : PacketPid) (pending : Option Pes) (p : Pes) (got : List UInt8) :
    List PesPacket :=
  match pending with
  | none => given pid p got
  | some u => if known got then u.packet pid :: given pid p got else []

theorem known_append (x : List UInt8) (h : known got = true) : known (got ++ x) = true := by
  simp only [known, decide_eq_true_eq] at h ⊢
  rw [parse_pes_header_status.stable got x h]
  exact h

theorem push_payload_collecting (a : PesAssembler) (pid : PacketPid) (p : Pes)
    (got x : List UInt8) (k : Bool) :
    (a.collecting pid p got k).push_payload pid x =
      (a.collecting pid p (got ++ x) k).push_buffered [] := rfl

/-- A piece for the header behind an unbounded packet. The copy stops at 264 bytes, where every
header is complete. -/
theorem push_payload_heading (a : PesAssembler) (pid : PacketPid) (u : Pes) {header : List UInt8}
    (hcame : Came p (header ++ x)) (hroom : (header ++ x).length ≤ MAX_PES_BUFFER_BYTES) :
    (a.heading pid u header).push_payload pid x =
      (a.within pid (some u) p (header ++ x), givenWithin pid (some u) p (header ++ x)) := by
  have hcopy : header ++ x = header ++ x.take (min (264 - header.length) x.length) ++
      x.drop (min (264 - header.length) x.length) := by
    rw [append_assoc, take_append_drop]
  generalize hc : min (264 - header.length) x.length = copied at hcopy
  have hpart : Came p (header ++ x.take copied) := by
    rw [hcopy] at hcame
    exact hcame.of_append
  have htaken := take_completed_collecting a pid (⟨[], [], rfl⟩ : Came u u.raw)
    le_rfl fun _ => rfl
  unfold push_payload
  simp only [heading, hc]
  rcases hpart.status with hstatus | hstatus
  · -- the header is still not complete, so all of the piece was copied
    have hall : copied = x.length := by
      have hlt := parse_pes_header_status.incomplete hstatus
      rw [length_append, length_take] at hlt
      omega
    rw [hall, take_length] at hstatus
    have hkn : known (header ++ x) = false := by simp [known, hstatus]
    simp only [hall, take_length, hstatus, within, givenWithin, hkn]
    rfl
  · have hkn : known (header ++ x) = true := by
      rw [hcopy]
      exact known_append _ (by simp [known, hstatus])
    simp only [hstatus]
    have hbuf : { (a.collecting pid u u.raw true).take_completed.1 with
        pid := some pid, buf := header ++ x.take copied ++ x.drop copied } =
        a.collecting pid p (header ++ x) false := by
      rw [htaken]
      simp [collecting, reset_state_only]
    change push_buffered { (a.collecting pid u u.raw true).take_completed.1 with
        pid := some pid, buf := header ++ x.take copied ++ x.drop copied }
      (a.collecting pid u u.raw true).take_completed.2.toList = _
    rw [hbuf, htaken, push_buffered_collecting _ hcame hroom (by simp)]
    simp [within, givenWithin, hkn]

theorem push_first {pending : Option Pes} (hpending : ∀ u ∈ pending, ¬ u.Bounded) (hcame : Came p x)
    (hroom : x.length ≤ MAX_PES_BUFFER_BYTES) :
    (a.before pid pending).push pid true x =
      (a.within pid pending p x, givenWithin pid pending p x) := by
  cases pending with
  | none =>
    have hstart : (a.before pid none).start_unit pid = a.collecting pid p [] false := by
      simp [before, start_unit, reset_state_only, collecting]
    rw [push, hstart, push_payload_collecting, nil_append,
      push_buffered_collecting [] hcame hroom (by simp)]
    rfl
  | some u =>
    have hu : ¬ u.Bounded := hpending u rfl
    have hexp : u.summary.expected_len.isNone := by
      simpa [Pes.Bounded] using hu
    have hstart : (a.before pid (some u)).start_unit pid = a.heading pid u [] := by
      simp [before, start_unit, collecting, heading, hexp]
    rw [push, if_pos rfl, hstart]
    exact push_payload_heading _ _ _ hcame hroom

/-- A later piece of a packet: what it gives is new. -/
theorem push_later (a : PesAssembler) (pid : PacketPid) (pending : Option Pes)
    (hcame : Came p (got ++ x)) (hroom : (got ++ x).length ≤ MAX_PES_BUFFER_BYTES) :
    ((a.within pid pending p got).push pid false x).1 = a.within pid pending p (got ++ x) ∧
      givenWithin pid pending p got ++ ((a.within pid pending p got).push pid false x).2 =
        givenWithin pid pending p (got ++ x) := by
  -- a piece behind the complete header
  have hafter : ((a.after pid p got).push pid false x).1 = a.after pid p (got ++ x) ∧
      given pid p got ++ ((a.after pid p got).push pid false x).2 = given pid p (got ++ x) := by
    by_cases hended : p.Ended got
    · -- the packet ended before: no packet is begun, and the piece is ignored
      have hended' : p.Ended (got ++ x) := ⟨hended.1, by
        rw [length_append]
        exact hended.2.trans (Nat.le_add_right _ _)⟩
      simp [after, given, hended, hended', push, reset_state_only, reset_with_drop]
    · have hpush : (a.collecting pid p got (known got)).push pid false x =
          (a.after pid p (got ++ x), given pid p (got ++ x)) := by
        rw [push, if_neg (by simp), if_neg (by simp [collecting]), push_payload_collecting,
          push_buffered_collecting [] hcame hroom (known_append x)]
        rfl
      simp only [after, given, hended, if_false]
      rw [hpush]
      exact ⟨rfl, rfl⟩
  cases pending with
  | none => exact hafter
  | some u =>
    by_cases hkn : known got = true
    · simp only [within, givenWithin, hkn, known_append x hkn, if_true, cons_append,
        hafter.1, hafter.2, and_self]
    have hpush : (a.heading pid u got).push pid false x =
        (a.heading pid u got).push_payload pid x := by
      rw [push, if_neg (by simp), if_neg (by simp [heading, collecting])]
    have hstep := push_payload_heading a pid u hcame hroom
    simp only [within, givenWithin, hkn, Bool.false_eq_true, if_false]
    rw [hpush, hstep]
    exact ⟨rfl, rfl⟩

/-! ## Whole runs -/

/-- A PES packet, divided into pieces. Only the first piece has the unit start. Bytes may stand
behind a bounded packet, as far as the buffer has room for them. -/
structure Sent where
  pes : Pes
  first : List UInt8
  others : List (List UInt8)
  trailing : List UInt8
  pieces : (first :: others).flatten = pes.raw ++ trailing
  exact : ¬ pes.Bounded → trailing = []
  room : pes.raw.length + trailing.length ≤ MAX_PES_BUFFER_BYTES

/-- One payload of the PID: its unit start and its bytes. -/
abbrev Piece := Bool × List UInt8

variable (sents : List Sent) (s : Sent)

def Sent.payloads : List Piece := (true, s.first) :: s.others.map fun x => (false, x)

def feed (pid : PacketPid) (a : PesAssembler) (piece : Piece) : PesAssembler × List PesPacket :=
  a.push pid piece.1 piece.2

theorem Sent.came (fed : List (List UInt8)) {rest : List (List UInt8)}
    (h : s.others = fed ++ rest) :
    Came s.pes (s.first :: fed).flatten ∧
      (s.first :: fed).flatten.length ≤ MAX_PES_BUFFER_BYTES := by
  have hp := s.pieces
  rw [h, ← cons_append, flatten_append] at hp
  refine ⟨⟨_, _, hp⟩, Nat.le_trans ?_ s.room⟩
  rw [← length_append, ← hp, length_append]
  exact Nat.le_add_right _ _

theorem run_pieces (a : PesAssembler) (pid : PacketPid) {pending : Option Pes}
    (hpending : ∀ u ∈ pending, ¬ u.Bounded) (s : Sent) (fed rest : List (List UInt8))
    (h : s.others = fed ++ rest) :
    let r := run (feed pid) (a.before pid pending)
      ((true, s.first) :: fed.map fun x => (false, x))
    r.1 = a.within pid pending s.pes (s.first :: fed).flatten ∧
      r.2.flatten = givenWithin pid pending s.pes (s.first :: fed).flatten := by
  induction fed using List.reverseRecOn generalizing rest with
  | nil =>
    obtain ⟨hcame, hroom⟩ := s.came [] h
    rw [flatten_singleton] at hcame hroom
    simp [feed, push_first hpending hcame hroom]
  | append_singleton fed x ih =>
    obtain ⟨hcame, hroom⟩ := s.came _ h
    rw [append_assoc] at h
    obtain ⟨h1, h2⟩ := ih _ h
    have hflat : (s.first :: (fed ++ [x])).flatten = (s.first :: fed).flatten ++ x := by simp
    rw [hflat] at hcame hroom ⊢
    obtain ⟨h3, h4⟩ := push_later a pid pending hcame hroom
    rw [map_append, map_singleton, ← cons_append, run_snoc]
    dsimp only
    rw [h1, flatten_append, h2, flatten_singleton]
    exact ⟨h3, h4⟩

/-- The packet that stays pending behind the sent ones: the last one, if it is unbounded. -/
def pendingBehind : Option Pes :=
  (sents.getLast?.map (·.pes)).filter fun p => ¬ p.Bounded

/-- The packets that are given before the header of the next one. -/
def givenBefore (pid : PacketPid) (sents : List Sent) : List PesPacket :=
  if (pendingBehind sents).isSome then sents.dropLast.map (·.pes.packet pid)
  else sents.map (·.pes.packet pid)

theorem pendingBehind_snoc :
    pendingBehind (sents ++ [s]) = if s.pes.Bounded then none else some s.pes := by
  by_cases h : s.pes.Bounded <;> simp [pendingBehind, h]

theorem pendingBehind_unbounded : ∀ u ∈ pendingBehind sents, ¬ u.Bounded := by
  intro u hu
  simp only [pendingBehind, Option.mem_def, Option.filter_eq_some_iff] at hu
  simpa using hu.2

/-- The pending packet is the only one that is not given yet. -/
theorem givenBefore_pending (pid : PacketPid) (sents : List Sent) :
    givenBefore pid sents ++ (pendingBehind sents).toList.map (·.packet pid) =
      sents.map (·.pes.packet pid) := by
  induction sents using List.reverseRecOn with
  | nil => rfl
  | append_singleton sents s _ =>
    unfold givenBefore
    rw [pendingBehind_snoc]
    by_cases h : s.pes.Bounded <;> simp [h]

/-- The pieces of a packet leave the counters alone. -/
theorem within_counts (a : PesAssembler) (pid : PacketPid) (pending : Option Pes) (p : Pes)
    (got : List UInt8) : (a.within pid pending p got).reset_state_only = a.reset_state_only := by
  have hafter : (a.after pid p got).reset_state_only = a.reset_state_only := by
    unfold after
    split_ifs <;> rfl
  cases pending with
  | none => exact hafter
  | some u =>
    by_cases hk : known got = true
    · simpa only [within, hk, if_true] using hafter
    · simp only [within, hk]
      rfl

theorem within_sent (a : PesAssembler) (pid : PacketPid) (pending : Option Pes) (s : Sent) :
    a.within pid pending s.pes (s.pes.raw ++ s.trailing) =
        a.before pid (if s.pes.Bounded then none else some s.pes) ∧
      givenWithin pid pending s.pes (s.pes.raw ++ s.trailing) =
        pending.toList.map (·.packet pid) ++ if s.pes.Bounded then [s.pes.packet pid] else [] := by
  have hcame : Came s.pes (s.pes.raw ++ s.trailing) := ⟨[], s.trailing, append_nil _⟩
  have hlen : s.pes.raw.length ≤ (s.pes.raw ++ s.trailing).length := by
    rw [length_append]
    exact Nat.le_add_right _ _
  have hkn : known (s.pes.raw ++ s.trailing) = true := by simp [known, hcame.complete hlen]
  have hafter : a.after pid s.pes (s.pes.raw ++ s.trailing) =
      a.before pid (if s.pes.Bounded then none else some s.pes) := by
    by_cases hb : s.pes.Bounded
    · have hended : s.pes.Ended (s.pes.raw ++ s.trailing) := ⟨hb, hlen⟩
      simp [after, hended, hb, before]
    have hended : ¬ s.pes.Ended (s.pes.raw ++ s.trailing) := fun h => hb h.1
    rw [s.exact hb, append_nil] at hkn hended ⊢
    simp [after, hended, hb, before, hkn]
  have hgiven : given pid s.pes (s.pes.raw ++ s.trailing) =
      if s.pes.Bounded then [s.pes.packet pid] else [] := by
    by_cases hb : s.pes.Bounded
    · have hended : s.pes.Ended (s.pes.raw ++ s.trailing) := ⟨hb, hlen⟩
      simp [given, hended, hb]
    · have hended : ¬ s.pes.Ended (s.pes.raw ++ s.trailing) := fun h => hb h.1
      simp [given, hended, hb]
  cases pending with
  | none => simp [within, givenWithin, hafter, hgiven]
  | some u => simp [within, givenWithin, hkn, hafter, hgiven]

theorem run_sent (pid : PacketPid) (sents : List Sent) :
    (run (feed pid) {} (sents.flatMap Sent.payloads)).1 =
        before {} pid (pendingBehind sents) ∧
      (run (feed pid) {} (sents.flatMap Sent.payloads)).2.flatten = givenBefore pid sents := by
  induction sents using List.reverseRecOn with
  | nil => exact ⟨rfl, rfl⟩
  | append_singleton sents s ih =>
    obtain ⟨h1, h2⟩ := ih
    obtain ⟨h3, h4⟩ := run_pieces {} pid (pendingBehind_unbounded sents) s s.others
      [] (append_nil _).symm
    obtain ⟨h5, h6⟩ := within_sent {} pid (pendingBehind sents) s
    have hpend := givenBefore_pending pid sents
    rw [s.pieces] at h3 h4
    rw [flatMap_append, flatMap_singleton, run_append, h1, pendingBehind_snoc]
    refine ⟨by rw [Sent.payloads, h3, h5], ?_⟩
    rw [flatten_append, h2, Sent.payloads, h4, h6, ← append_assoc, hpend]
    unfold givenBefore
    rw [pendingBehind_snoc]
    by_cases hb : s.pes.Bounded <;> simp [hb]

/-- Of any packets and the first pieces of one more, a fresh assembler gives, in order, exactly the
packets whose end is known: a bounded one once its bytes came, an unbounded one with the piece that
makes the header behind it complete. No drop is recorded. -/
theorem pes_assembly_undoes_packetization (pid : PacketPid) (sents : List Sent) (s : Sent)
    (fed rest : List (List UInt8)) (h : s.others = fed ++ rest) :
    let r := run (fun (a : PesAssembler) (piece : Piece) => a.push pid piece.1 piece.2) {}
      (sents.flatMap Sent.payloads ++ ((true, s.first) :: fed.map fun x => (false, x)))
    let got := (s.first :: fed).flatten
    r.2.flatten =
        (if (parse_pes_header_summary got).isSome then sents.map (·.pes.packet pid)
          else givenBefore pid sents) ++
        (if s.pes.Ended got then [s.pes.packet pid] else []) ∧
      r.1.reset_state_only = {} := by
  obtain ⟨h1, h2⟩ := run_sent pid sents
  obtain ⟨h3, h4⟩ := run_pieces {} pid (pendingBehind_unbounded sents) s fed rest h
  obtain ⟨hcame, _⟩ := s.came _ h
  have hpend := givenBefore_pending pid sents
  change (run (feed pid) {} _).2.flatten = _ ∧ (run (feed pid) {} _).1.reset_state_only = _
  rw [run_append, h1, flatten_append, h2, h3, h4]
  generalize (s.first :: fed).flatten = got at hcame
  refine ⟨?_, ?_⟩
  · have hkn : (parse_pes_header_summary got).isSome = known got := by
      rcases hcame.status with hstatus | hstatus <;> simp [parse_pes_header_summary, known, hstatus]
    rw [hkn]
    cases hp : pendingBehind sents with
    | none =>
      have hgiven : givenBefore pid sents = sents.map (·.pes.packet pid) := by
        rw [← hpend, hp]
        simp
      rw [hgiven, ite_self]
      rfl
    | some u =>
      rw [hp] at hpend
      by_cases hk : known got = true
      · rw [← hpend]
        simp [givenWithin, hk, given]
      have hended : ¬ s.pes.Ended got := fun he => hk (by
        simp [known, hcame.complete he.2])
      rw [if_neg hended]
      simp [givenWithin, hk]
  · exact within_counts {} pid (pendingBehind sents) s.pes got

/-- A padding packet of one byte. -/
def paddingPes : Pes where
  raw := [0x00, 0x00, 0x01, 0xbe, 0x00, 0x01, 0xff]
  summary := ⟨0xbe, 6, none, none, false, false, some 7⟩
  header := by decide
  length_eq := by
    intro n hn
    cases hn
    rfl

/-- An unbounded video packet with one byte of payload. -/
def videoPes : Pes where
  raw := [0x00, 0x00, 0x01, 0xe0, 0x00, 0x00, 0x80, 0x00, 0x00, 0xaa]
  summary := ⟨0xe0, 9, none, none, false, false, none⟩
  header := by decide
  length_eq := by
    intro n hn
    cases hn

def sentVideo : Sent where
  pes := videoPes
  first := [0x00, 0x00, 0x01, 0xe0]
  others := [[0x00, 0x00, 0x80, 0x00, 0x00, 0xaa]]
  trailing := []
  pieces := by decide
  exact := fun _ => rfl
  room := by decide

/-- The padding packet in two pieces, broken in its header, with two bytes behind it. -/
def sentPadding : Sent where
  pes := paddingPes
  first := [0x00, 0x00, 0x01, 0xbe, 0x00]
  others := [[0x01, 0xff, 0x55, 0x55]]
  trailing := [0x55, 0x55]
  pieces := by decide
  exact := fun h => absurd rfl h
  room := by decide

/-- A PID of the examples. -/
def somePid : PacketPid := ⟨0x0100, low_pid⟩

/-- The video packet waits while the header behind it is broken, and then both packets come. -/
theorem the_video_packet_waits_for_the_next_header :
    (run (fun (a : PesAssembler) (piece : Piece) => a.push somePid piece.1 piece.2) {}
      ([sentVideo].flatMap Sent.payloads ++ [(true, sentPadding.first)])).2.flatten = [] ∧
    (run (fun (a : PesAssembler) (piece : Piece) => a.push somePid piece.1 piece.2) {}
      ([sentVideo].flatMap Sent.payloads ++ sentPadding.payloads)).2.flatten =
        [videoPes.packet somePid, paddingPes.packet somePid] :=
  ⟨(pes_assembly_undoes_packetization somePid [sentVideo] sentPadding [] _ rfl).1,
    (pes_assembly_undoes_packetization somePid [sentVideo] sentPadding sentPadding.others []
      (append_nil _).symm).1⟩

/-- A first piece with a complete header that is too long for the buffer is dropped. -/
theorem push_oversized {bytes : List UInt8} {summary : PesHeaderSummary}
    (hstatus : parse_pes_header_status bytes = .Complete summary)
    (hlen : MAX_PES_BUFFER_BYTES < bytes.length) :
    (push {} pid true bytes).2 = [] ∧
      (push {} pid true bytes).1.last_drop_reason = some .OversizedPes ∧
      (push {} pid true bytes).1.overflow_drop_count = 1 := by
  simp [push, start_unit, reset_state_only, push_payload, push_buffered, with_header, hstatus, hlen,
    reset_with_drop, count_drop, checked_add, U64_MAX]

/-- Behind a bounded packet there is room for `MAX_PES_BUFFER_BYTES` bytes in all: the padding
packet, with that many bytes behind it in its one piece, is dropped and not given. -/
theorem too_many_trailing_bytes_drop_the_packet :
    (push {} somePid true (paddingPes.raw ++ List.replicate MAX_PES_BUFFER_BYTES 0x55)).2 = [] ∧
      (push {} somePid true
        (paddingPes.raw ++ List.replicate MAX_PES_BUFFER_BYTES 0x55)).1.last_drop_reason =
          some .OversizedPes := by
  have hstatus := parse_pes_header_status.stable paddingPes.raw
    (List.replicate MAX_PES_BUFFER_BYTES 0x55) (by rw [paddingPes.header]; exact nofun)
  have hlen : MAX_PES_BUFFER_BYTES <
      (paddingPes.raw ++ List.replicate MAX_PES_BUFFER_BYTES 0x55).length := by
    rw [length_append, length_replicate]
    exact Nat.lt_add_of_pos_left (by decide)
  obtain ⟨h1, h2, _⟩ := push_oversized hstatus hlen
  exact ⟨h1, h2⟩

end PesAssembler

end tuner_hal2_demux

namespace tuner_hal2_demux.PesAssembler

variable {a a' : PesAssembler} {pid : PacketPid} {out : List PesPacket}
  {summary : PesHeaderSummary} {reason : PesDropReason}

/-! ## What is kept -/

/-- A length, or the summary of a packet without one, is that of the header in the buffer. -/
structure Backed (a : PesAssembler) : Prop where
  bounded : ∀ n, a.expected_len = some n → a.unbounded_summary = none ∧
    ∃ summary, parse_pes_header_status a.buf = .Complete summary ∧ summary.expected_len = some n
  unbounded : ∀ summary, a.unbounded_summary = some summary →
    parse_pes_header_status a.buf = .Complete summary ∧ summary.expected_len = none

/-- The state between two pushes. -/
structure Formed (a : PesAssembler) : Prop extends Backed a where
  header : ∀ header, a.next_header = some header →
    parse_pes_header_status header = .Incomplete ∧ a.unbounded_summary.isSome
  room : a.buf.length ≤ MAX_PES_BUFFER_BYTES

theorem Formed.reset (a : PesAssembler) : a.reset_state_only.Formed :=
  ⟨⟨nofun, nofun⟩, nofun, Nat.zero_le _⟩

theorem Backed.append (h : a.Backed) (payload : List UInt8) :
    Backed { a with buf := a.buf ++ payload } := by
  have hstable {summary : PesHeaderSummary}
      (hparse : parse_pes_header_status a.buf = .Complete summary) :
      parse_pes_header_status (a.buf ++ payload) = .Complete summary := by
    rw [parse_pes_header_status.stable _ _ (by rw [hparse]; exact nofun), hparse]
  refine ⟨fun n hn => ?_, fun summary hsummary => ?_⟩
  · obtain ⟨hnone, summary, hparse, hlength⟩ := h.bounded n hn
    exact ⟨hnone, summary, hstable hparse, hlength⟩
  · exact ⟨hstable (h.unbounded summary hsummary).1, (h.unbounded summary hsummary).2⟩

/-- A packet that is given has the bytes that its header announces, and its payload behind the
header. -/
def Whole (p : PesPacket) : Prop :=
  ∃ bytes summary, parse_pes_header_status bytes = .Complete summary ∧ p.raw_bytes <+: bytes ∧
    p.payload = p.raw_bytes.drop summary.payload_offset ∧
    match summary.expected_len with
    | none => p.raw_bytes = bytes
    | some _ => p.raw_bytes.length = 6 + pes_packet_length bytes

/-- The packet of a complete header is given, with the bytes that are there. -/
theorem take_completed.spec (hpid : a.pid.isSome)
    (hparse : parse_pes_header_status a.buf = .Complete summary)
    (hlen : ∀ n, summary.expected_len = some n → n ≤ a.buf.length) :
    ∃ p, a.take_completed =
        ({ a with buf := [], expected_len := none, unbounded_summary := none, pid := none },
          some p) ∧
      Whole p ∧ p.raw_bytes <+: a.buf := by
  obtain ⟨pid, hpid⟩ := Option.isSome_iff_exists.mp hpid
  obtain ⟨hstart, -, hsix, hexpected⟩ := parse_pes_header_status.complete hparse
  have hany : ¬ summary.expected_len.any (a.buf.length < ·) := by
    rw [Option.any_eq_true]
    rintro ⟨n, hn, hlt⟩
    exact absurd (hlen n hn) (Nat.not_le_of_lt (of_decide_eq_true hlt))
  have hdrop (raw : List UInt8) : raw.drop (min summary.payload_offset raw.length) =
      raw.drop summary.payload_offset := drop_eq_drop_iff.mpr (by omega)
  simp only [take_completed, hpid, parse_pes_header_summary, hparse, Option.some_or, hany]
  refine ⟨_, rfl, ⟨a.buf, summary, hparse, ?_⟩, ?_⟩
  · cases hn : summary.expected_len with
    | none => simp [hstart]
    | some n =>
      have hlength : n = 6 + pes_packet_length a.buf := by
        rw [pes_expected_len] at hexpected
        grind
      have htake : (a.buf.take n).take 3 = a.buf.take 3 := by
        rw [take_take, Nat.min_eq_left (by omega)]
      simp only [htake, hstart, if_true, hdrop]
      refine ⟨?_, trivial, (length_take_of_le (hlen n hn)).trans hlength⟩
      exact take_prefix n a.buf
  · cases summary.expected_len with
    | none => exact prefix_rfl
    | some n => exact take_prefix n a.buf

/-! ## What is counted -/

/-- The drop count grows, below its top, and there is a diagnostic. -/
def Reported (a a' : PesAssembler) : Prop :=
  (a.overflow_drop_count < U64_MAX → a.overflow_drop_count < a'.overflow_drop_count) ∧
    a'.last_drop_reason.isSome

structure Counts (a a' : PesAssembler) : Prop where
  count : a.overflow_drop_count ≤ a'.overflow_drop_count
  reason : a.last_drop_reason.isSome → a'.last_drop_reason.isSome

theorem Reported.counts {b : PesAssembler} (h : Reported a a') (hcounts : Counts a' b) :
    Reported a b :=
  ⟨fun hlt => Nat.lt_of_lt_of_le (h.1 hlt) hcounts.count, hcounts.reason h.2⟩

theorem count_drop.reported (a : PesAssembler) (reason : PesDropReason) :
    Reported a (a.count_drop reason) ∧ Counts a (a.count_drop reason) := by
  unfold count_drop
  cases hcount : checked_add U64_MAX a.overflow_drop_count 1 <;>
  all_goals
    unfold checked_add at hcount
    constructor
    · exact ⟨fun hlt => by grind, rfl⟩
    · exact ⟨by grind, fun _ => rfl⟩

theorem reset_with_drop.reported (h : a.pid.isSome ∨ a.buf ≠ []) :
    Reported a (a.reset_with_drop reason) := by
  have hany : (a.pid.isSome || !a.buf.isEmpty || a.expected_len.isSome ||
      a.unbounded_summary.isSome) = true := by
    rcases h with h | h <;> simp [h]
  unfold reset_with_drop
  rw [if_pos hany]
  exact (count_drop.reported a reason).1

theorem reset_with_drop.counts (a : PesAssembler) (reason : PesDropReason) :
    Counts a (a.reset_with_drop reason) := by
  unfold reset_with_drop
  split
  · exact ⟨(count_drop.reported a reason).2.count, (count_drop.reported a reason).2.reason⟩
  · exact ⟨le_rfl, id⟩

/-! ## A push -/

/-- The buffered packet is kept, given or reported. -/
def Accounted (a : PesAssembler) (bytes : List UInt8) (r : PesAssembler × List PesPacket) : Prop :=
  (r.1.pid = a.pid ∧ a.buf <+: r.1.buf) ∨ (∃ p ∈ r.2, p.raw_bytes <+: a.buf ++ bytes) ∨
    Reported a r.1

structure Pushed (a : PesAssembler) (bytes : List UInt8) (r : PesAssembler × List PesPacket) :
    Prop where
  formed : r.1.Formed
  whole : ∀ p ∈ r.2, Whole p
  counts : Counts a r.1
  accounted : Accounted a bytes r

theorem with_header.spec (hbacked : a.Backed) (h : a.with_header = some a') :
    a'.Backed ∧ ∃ expected_len unbounded_summary,
      a' = { a with expected_len, unbounded_summary } := by
  unfold with_header at h
  split at h
  · split at h
    · rename_i summary hparse
      cases h
      refine ⟨⟨fun n hn => ?_, fun summary' hsummary => ?_⟩, _, _, rfl⟩
      · dsimp only at hn
        exact ⟨by simp [hn], summary, hparse, hn⟩
      · split at hsummary
        · cases hsummary
          exact ⟨hparse, Option.isNone_iff_eq_none.mp ‹_›⟩
        · cases hsummary
    · cases h
      exact ⟨hbacked, _, _, rfl⟩
    · cases h
  · cases h
    exact ⟨hbacked, _, _, rfl⟩

theorem Pushed.dropped (hpid : a.pid.isSome) (hout : ∀ p ∈ out, Whole p) (reason : PesDropReason) :
    Pushed a [] (a.reset_with_drop reason, out) :=
  ⟨.reset _, hout, reset_with_drop.counts a reason,
    .inr (.inr (reset_with_drop.reported (.inl hpid)))⟩

theorem push_buffered.spec (hpid : a.pid.isSome) (hnext : a.next_header = none)
    (hbacked : a.Backed) (hout : ∀ p ∈ out, Whole p) :
    Pushed a [] (a.push_buffered out) ∧ ∀ p ∈ out, p ∈ (a.push_buffered out).2 := by
  unfold push_buffered
  split
  · exact ⟨.dropped hpid hout _, fun _ => id⟩
  rename_i a' hheader
  obtain ⟨hbacked', expected_len, unbounded_summary, heq⟩ := with_header.spec hbacked hheader
  have hpid' : a'.pid.isSome := heq ▸ hpid
  have hnext' : a'.next_header = none := heq ▸ hnext
  have hback {r} (h : Pushed a' [] r) : Pushed a [] r := by
    subst heq
    exact ⟨h.formed, h.whole, ⟨h.counts.count, h.counts.reason⟩, h.accounted⟩
  split
  · exact ⟨hback (.dropped hpid' hout _), fun _ => id⟩
  rename_i hroom
  split
  · rename_i hdone
    obtain ⟨n, hn, hle⟩ := (Option.any_eq_true _ _).mp hdone
    obtain ⟨-, summary, hparse, hlength⟩ := hbacked'.bounded n hn
    obtain ⟨p, hp, hwhole, hraw⟩ := take_completed.spec hpid' hparse (by grind)
    rw [hp]
    refine ⟨hback ⟨⟨⟨nofun, nofun⟩, by simp [hnext'], Nat.zero_le _⟩, ?_, ⟨le_rfl, id⟩, ?_⟩,
      ?_⟩
    · exact forall_mem_append.mpr ⟨hout, forall_mem_singleton.mpr hwhole⟩
    · exact .inr (.inl ⟨p, mem_append_right _ mem_cons_self, by rwa [append_nil]⟩)
    · exact fun q hq => mem_append_left _ hq
  · exact ⟨hback ⟨⟨hbacked', by simp [hnext'], not_lt.mp hroom⟩, hout, ⟨le_rfl, id⟩,
      .inl ⟨rfl, prefix_rfl⟩⟩, fun _ => id⟩

theorem push_payload.spec (h : a.Formed) (hpid : a.pid = some pid) (payload : List UInt8) :
    Pushed a payload (a.push_payload pid payload) := by
  have hsome : a.pid.isSome := hpid ▸ rfl
  unfold push_payload
  split
  · rename_i header hheader
    obtain ⟨-, hpending⟩ := h.header header hheader
    dsimp only
    split
    · rename_i hstatus
      exact ⟨⟨⟨h.bounded, h.unbounded⟩, fun _ heq => Option.some.inj heq ▸ ⟨hstatus, hpending⟩,
        h.room⟩, nofun, ⟨le_rfl, id⟩, .inl ⟨rfl, prefix_rfl⟩⟩
    · have hcounts := reset_with_drop.counts { a with next_header := none } .MalformedPes
      exact ⟨.reset _, nofun, ⟨hcounts.count, hcounts.reason⟩,
        .inr (.inr (reset_with_drop.reported (a := { a with next_header := none }) (.inl hsome)))⟩
    · obtain ⟨summary, hsummary⟩ := Option.isSome_iff_exists.mp hpending
      obtain ⟨hparse, hnone⟩ := h.unbounded summary hsummary
      obtain ⟨p, hp, hwhole, hraw⟩ :=
        take_completed.spec (a := { a with next_header := none }) hsome hparse (by simp [hnone])
      rw [hp, append_assoc, take_append_drop]
      obtain ⟨hpushed, hkeeps⟩ := push_buffered.spec (a := { a with
          pid := some pid, buf := header ++ payload, expected_len := none,
          unbounded_summary := none, next_header := none })
        rfl rfl ⟨nofun, nofun⟩ (forall_mem_singleton.mpr hwhole)
      exact ⟨hpushed.formed, hpushed.whole, ⟨hpushed.counts.count, hpushed.counts.reason⟩,
        .inr (.inl ⟨p, hkeeps p mem_cons_self, hraw.trans (prefix_append _ _)⟩)⟩
  · rename_i hnone
    obtain ⟨hpushed, -⟩ := push_buffered.spec (a := { a with buf := a.buf ++ payload }) hsome hnone
      (h.toBacked.append payload) (nofun : ∀ p ∈ [], Whole p)
    refine ⟨hpushed.formed, hpushed.whole, ⟨hpushed.counts.count, hpushed.counts.reason⟩, ?_⟩
    rcases hpushed.accounted with ⟨hkept, hbuf⟩ | ⟨p, hp, hraw⟩ | hreported
    · exact .inl ⟨hkept, (prefix_append _ _).trans hbuf⟩
    · exact .inr (.inl ⟨p, hp, by rwa [append_nil] at hraw⟩)
    · exact .inr (.inr hreported)

/-- A push keeps the state well formed, and only a unit start over a packet that is not unbounded
may lose one in silence. -/
theorem push.spec (h : a.Formed) (start : Bool) (payload : List UInt8) :
    (a.push pid start payload).1.Formed ∧ (∀ p ∈ (a.push pid start payload).2, Whole p) ∧
      (a.buf ≠ [] → (start = true → a.unbounded_summary.isSome) →
        Accounted a payload (a.push pid start payload)) := by
  unfold push
  split
  · rename_i hstart
    unfold start_unit
    split
    · rename_i hnext
      have hpushed := push_payload.spec (a := { a with next_header := some [] })
        ⟨⟨h.bounded, h.unbounded⟩, fun _ heq => Option.some.inj heq ▸ ⟨rfl, hnext.1⟩, h.room⟩
        hnext.2.1 payload
      exact ⟨hpushed.formed, hpushed.whole, fun _ _ => hpushed.accounted⟩
    · split
      · have hpushed := push_payload.spec
          (a := { a.reset_with_drop .MalformedPes with pid := some pid })
          ⟨⟨nofun, nofun⟩, nofun, Nat.zero_le _⟩ rfl payload
        refine ⟨hpushed.formed, hpushed.whole, fun hbuf _ => .inr (.inr ?_)⟩
        have hreported : Reported a (a.reset_with_drop .MalformedPes) :=
          reset_with_drop.reported (.inr hbuf)
        exact hreported.counts ⟨hpushed.counts.count, hpushed.counts.reason⟩
      · rename_i hpending
        have hpushed := push_payload.spec (a := { a.reset_state_only with pid := some pid })
          ⟨⟨nofun, nofun⟩, nofun, Nat.zero_le _⟩ rfl payload
        exact ⟨hpushed.formed, hpushed.whole, fun _ hcondition =>
          absurd (hcondition hstart) hpending⟩
  · split
    · exact ⟨.reset _, nofun, fun hbuf _ => .inr (.inr (reset_with_drop.reported (.inr hbuf)))⟩
    · rename_i hpid
      have hpushed := push_payload.spec h (not_not.mp hpid) payload
      exact ⟨hpushed.formed, hpushed.whole, fun _ _ => hpushed.accounted⟩

/-! ## Every run -/

structure Push where
  pid : PacketPid
  payload_unit_start : Bool
  payload : List UInt8

def accept (a : PesAssembler) (p : Push) : PesAssembler × List PesPacket :=
  a.push p.pid p.payload_unit_start p.payload

theorem run_formed (pushes : List Push) : (run accept {} pushes).1.Formed :=
  run_keeps (P := Formed) (fun _ p h => (push.spec h p.payload_unit_start p.payload).1) {} pushes
    (Formed.reset {})

/-- After any pushes the state is well formed, the next header has room for a byte more, and the
packets that the next push gives are whole. -/
theorem pes_states_are_well_formed (pushes : List Push) (p : Push) :
    let a := (run accept {} pushes).1
    a.Formed ∧ (∀ header, a.next_header = some header → header.length < 264) ∧
      ∀ packet ∈ (a.accept p).2, Whole packet := by
  have h := run_formed pushes
  exact ⟨h, fun header heq => parse_pes_header_status.incomplete (h.header header heq).1,
    (push.spec h p.payload_unit_start p.payload).2.1⟩

/-- After any pushes, a push that is not a unit start over a bounded packet or over the start of a
header keeps, gives or reports the packet that is buffered. -/
theorem no_started_pes_is_lost_in_silence (pushes : List Push) (p : Push)
    (hbuf : (run accept {} pushes).1.buf ≠ [])
    (hstart : p.payload_unit_start = true → (run accept {} pushes).1.unbounded_summary.isSome) :
    Accounted (run accept {} pushes).1 p.payload ((run accept {} pushes).1.accept p) :=
  (push.spec (run_formed pushes) p.payload_unit_start p.payload).2.2 hbuf hstart

/-- The unbounded video packet is given at the start of the next packet. -/
theorem the_video_packet_is_reported :
    let a := (run accept {} [⟨somePid, true, videoPes.raw⟩]).1
    Accounted a paddingPes.raw (a.accept ⟨somePid, true, paddingPes.raw⟩) :=
  no_started_pes_is_lost_in_silence [⟨somePid, true, videoPes.raw⟩] ⟨somePid, true, paddingPes.raw⟩
    (by decide) fun _ => by decide

/-- The padding packet without its last byte is lost in silence at the start of the next packet: all
is as if it had never come. -/
theorem the_padding_packet_is_lost_in_silence :
    let a := (run accept {} [⟨somePid, true, paddingPes.raw.take 6⟩]).1
    let next : Push := ⟨somePid, true, videoPes.raw⟩
    a.buf = paddingPes.raw.take 6 ∧ a.expected_len = some 7 ∧
      a.accept next = accept {} next ∧ (a.accept next).1.overflow_drop_count = 0 ∧
      (a.accept next).1.last_drop_reason = none ∧ (a.accept next).2 = [] := by
  decide

end tuner_hal2_demux.PesAssembler
