-- When the record index reports the PTS of a PES packet. The packet may be cut into payloads
-- anywhere; its PTS is reported with its last byte exactly if the header, and a packet of
-- known length as a whole, is in the window that is read there.
import TvStack.RecordIndex

open List Words

namespace tuner_hal2_demux

variable {bytes : List UInt8} {summary : PesHeaderSummary} {pts : Nat}

namespace record_index

variable {n k : Nat} {self : RecordEventState} {r : Option Int × RecordEventState}
  {before after payloads : List (List UInt8)} {payload : List UInt8}

/-! ## A window of the packet -/

/-- The header is in the window of the first `n` bytes, and so is a packet of known length. -/
def Shows (summary : PesHeaderSummary) (n : Nat) : Prop :=
  summary.payload_offset ≤ n ∧ ∀ len ∈ summary.expected_len, len ≤ n

/-- The payload does not begin like a packet. -/
abbrev Plain (payload : List UInt8) : Prop := [0x00, 0x00, 0x01].isPrefixOf payload = false

section Packet

variable (hheader : parse_pes_header_status bytes = .Complete summary)
  (hpts : summary.pts_90khz = some pts)
include hheader

include hpts in
theorem record_packet_pts_take (hn : n ≤ bytes.length) :
    (Shows summary n → record_packet_pts (bytes.take n) = some (pts : Int)) ∧
      (¬ Shows summary n → record_packet_pts (bytes.take n) = none) := by
  have hlength : (bytes.take n).length = n := length_take_of_le hn
  have hwhole : bytes.take n ++ bytes.drop n = bytes ++ [] := by simp
  obtain ⟨hoffset, hfield⟩ := parse_pes_header_status.with_pts hheader hpts
  unfold record_packet_pts pes_time_fields parse_pes_header_summary
  rcases parse_pes_header_status.part hheader hwhole with hpart | hpart
  · have hend := parse_pes_header_status.before_end hpart
    have hshort : n < summary.payload_offset := by
      by_cases hnine : 9 ≤ n
      · rw [← pes_header_data_len_append (bytes.drop n) (by omega), hwhole, append_nil] at hend
        omega
      · omega
    refine ⟨fun hshows => absurd hshows.1 (not_le.mpr hshort), fun _ => ?_⟩
    simp [hpart]
  · obtain ⟨hstart, hle, -⟩ := parse_pes_header_status.complete hpart
    have hbegins : [0x00, 0x00, 0x01].isPrefixOf (bytes.take n) = true :=
      isPrefixOf_iff_prefix.mpr (prefix_iff_eq_take.mpr hstart.symm)
    rw [hlength] at hle
    simp only [hpart, hbegins, hlength, Shows, hle]
    cases summary.expected_len with
    | none => simp [hpts]
    | some len =>
      by_cases hlen : n < len
      · simp [hlen]
      · simp [hlen, hpts]

/-! ## One payload -/

/-- Each beginning of a packet is kept for the next payload. -/
theorem starts_take (hn : 0 < n) :
    starts_with_complete_or_partial_pes_prefix (bytes.take n) = true := by
  obtain ⟨hstart, -⟩ := parse_pes_header_status.complete hheader
  match n, bytes, hstart with
  | 1, _ :: _ :: _ :: _, rfl => rfl
  | 2, _ :: _ :: _ :: _, rfl => rfl
  | n + 3, _ :: _ :: _ :: _, rfl => rfl

/-- The window of the first `n` bytes was read. They are kept while the PTS field is cut. -/
structure Reads (bytes : List UInt8) (n : Nat) (r : Option Int × RecordEventState) : Prop where
  pts : r.1 = record_packet_pts (bytes.take n)
  reported : r.1.isSome = true → r.2.pes_header_carry = []
  waits : n < 14 → r.1 = none → r.2.pes_header_carry = bytes.take n

theorem observe_pts_first (self : RecordEventState) (hn : 0 < n) :
    Reads bytes n (self.observe_pts (bytes.take n) true) := by
  have hstarts := starts_take hheader hn
  unfold RecordEventState.observe_pts RecordEventState.observe_pts_at_start
  rw [Bool.true_or, if_pos rfl]
  split
  · split
    · rename_i pts heq
      exact ⟨heq.symm, fun _ => rfl, fun _ => nofun⟩
    · rename_i heq
      refine ⟨heq.symm, nofun, fun hlt _ => ?_⟩
      rw [take_take, Nat.min_eq_right (by omega)]
  · rename_i hno
    have hnone : none = record_packet_pts (bytes.take n) := (if_neg hno).symm
    unfold starts_with_complete_or_partial_pes_prefix at hstarts
    simp only [hno, Bool.false_or] at hstarts
    rw [if_pos hstarts]
    exact ⟨hnone, nofun, fun _ _ => rfl⟩

theorem observe_pts_next (hcarry : self.pes_header_carry = bytes.take k) (hk : 0 < k)
    (hfield : k < 14) (hpayload : payload <+: bytes.drop k) (hplain : Plain payload) :
    Reads bytes (k + min payload.length 19) (self.observe_pts payload false) := by
  have hwindow : self.pes_header_carry ++ payload.take 19 =
      bytes.take (k + min payload.length 19) := by
    rw [take_add, hcarry, prefix_iff_eq_take.mp hpayload]
    simp [take_take, Nat.min_comm]
  have hkept : self.pes_header_carry ≠ [] := by
    obtain ⟨-, -, hsix, -⟩ := parse_pes_header_status.complete hheader
    rw [hcarry, ← length_pos_iff, length_take]
    omega
  unfold RecordEventState.observe_pts
  rw [hplain, Bool.or_false, if_neg Bool.false_ne_true, if_neg hkept]
  rw [hwindow, if_neg (not_not.mpr (starts_take hheader (by omega))), take_take,
    Nat.min_eq_right (show k + min payload.length 19 ≤ 32 by omega)]
  refine ⟨rfl, fun hsome => ?_, fun hlt hnone => ?_⟩
  · simp only [hsome, Bool.true_or, if_true]
  · dsimp only at hnone ⊢
    rw [hnone, if_neg]
    simp only [Option.isSome_none, Bool.false_or, decide_eq_true_eq, length_take]
    omega

end Packet

/-! ## All payloads -/

/-- What `observe_pts` returns for each payload. Only the first one may have the unit start. -/
def observed_pts (self : RecordEventState) : Bool → List (List UInt8) → List (Option Int)
  | _, [] => []
  | payload_unit_start, payload :: rest =>
    let (pts, next) := self.observe_pts payload payload_unit_start
    pts :: observed_pts next false rest

/-- Behind the report nothing is reported. -/
theorem observed_pts_quiet (hcarry : self.pes_header_carry = [])
    (hplain : ∀ later ∈ payloads, Plain later) :
    observed_pts self false payloads = payloads.map fun _ => none := by
  induction payloads with
  | nil => rfl
  | cons payload rest ih =>
    obtain ⟨hpayload, hrest⟩ := forall_mem_cons.mp hplain
    have hstep : self.observe_pts payload false = (none, self) := by
      simp only [RecordEventState.observe_pts, hpayload, Bool.or_false, hcarry, Bool.false_eq_true,
        if_false, if_true]
    simp only [observed_pts, hstep, ih hrest, map_cons]

/-- The payloads before this one report nothing, and this one what its window shows. -/
def Reported (bytes : List UInt8) (n : Nat) (before after : List (List UInt8))
    (out : List (Option Int)) : Prop :=
  ∃ others, out = before.map (fun _ => none) ++ record_packet_pts (bytes.take n) :: others ∧
    ((record_packet_pts (bytes.take n)).isSome = true → others = after.map fun _ => none)

theorem Reported.cons {out : List (Option Int)} {pts : Option Int}
    (h : Reported bytes n before after out) (first : List UInt8)
    (hnone : pts = none) : Reported bytes n (first :: before) after (pts :: out) := by
  obtain ⟨others, rfl, hothers⟩ := h
  exact ⟨others, hnone ▸ rfl, hothers⟩

theorem Reads.last (h : Reads bytes n r) (hplain : ∀ later ∈ after, Plain later) :
    Reported bytes n [] after (r.1 :: observed_pts r.2 false after) := by
  refine ⟨_, by rw [h.pts]; rfl, fun hsome => ?_⟩
  exact observed_pts_quiet (h.reported (h.pts ▸ hsome)) hplain

section Runs

variable (hheader : parse_pes_header_status bytes = .Complete summary)
  (hpts : summary.pts_90khz = some pts)
include hheader hpts

/-- While the PTS field is cut, the bytes that came are kept and nothing is reported. -/
theorem Reads.waiting (h : Reads bytes n r) (hn : n < 14) :
    r.1 = none ∧ r.2.pes_header_carry = bytes.take n := by
  obtain ⟨-, hfield⟩ := parse_pes_header_status.with_pts hheader hpts
  obtain ⟨-, hlength, -⟩ := parse_pes_header_status.complete hheader
  have hnone : r.1 = none := by
    rw [h.pts]
    exact (record_packet_pts_take hheader hpts (by omega)).2
      fun hshows => by have := hshows.1; omega
  exact ⟨hnone, h.waits hn hnone⟩

theorem observed_pts_behind (hcarry : self.pes_header_carry = bytes.take k) (hk : 0 < k)
    (hcut : (before ++ payload :: after).flatten = bytes.drop k)
    (hplain : ∀ later ∈ before ++ payload :: after, Plain later)
    (hfield : k + before.flatten.length < 14) :
    Reported bytes (k + before.flatten.length + min payload.length 19) before after
      (observed_pts self false (before ++ payload :: after)) := by
  induction before generalizing self k with
  | nil =>
    obtain ⟨hpayload, hafter⟩ := forall_mem_cons.mp hplain
    exact (observe_pts_next hheader hcarry hk hfield ⟨_, hcut⟩ hpayload).last hafter
  | cons first before ih =>
    obtain ⟨hfirst, hrest⟩ := forall_mem_cons.mp hplain
    rw [flatten_cons, length_append] at hfield
    have hreads := observe_pts_next hheader hcarry hk (by omega) ⟨_, hcut⟩ hfirst
    rw [Nat.min_eq_left (by omega)] at hreads
    obtain ⟨hnone, hcarry'⟩ := hreads.waiting hheader hpts (by omega)
    have hdrop : (before ++ payload :: after).flatten = bytes.drop (k + first.length) := by
      rw [← drop_drop, ← hcut, cons_append, flatten_cons, drop_left]
    rw [flatten_cons, length_append, ← Nat.add_assoc]
    exact (ih hcarry' (by omega) hdrop hrest (by omega)).cons first hnone

/-! ## The law -/

/-- The PTS is reported once, with the payload that completes its field, exactly if the window that
is read there shows the header and, where its length is known, the packet. -/
theorem pts_is_reported_where_shown (self : RecordEventState)
    (hcut : (before ++ payload :: after).flatten = bytes)
    (hfirst : (before ++ payload :: after).head? ≠ some [])
    (hplain : ∀ later ∈ (before ++ payload :: after).tail, Plain later)
    (hfield : before.flatten.length < 14) :
    observed_pts self true (before ++ payload :: after) =
        before.map (fun _ => none) ++ some (pts : Int) :: after.map (fun _ => none) ↔
      Shows summary (if before = [] then payload.length
        else before.flatten.length + min payload.length 19) := by
  obtain ⟨n, hn⟩ : ∃ n, n = if before = [] then payload.length
    else before.flatten.length + min payload.length 19 := ⟨_, rfl⟩
  have hle : n ≤ bytes.length := by
    rw [← hcut, flatten_append, flatten_cons, length_append, length_append, hn]
    split <;> omega
  have hwindow : Reported bytes n before after
      (observed_pts self true (before ++ payload :: after)) := by
    cases before with
    | nil =>
      have htake : bytes.take payload.length = payload := hcut ▸ take_left
      have hpos : 0 < payload.length := length_pos_iff.mpr fun hnil => hfirst (hnil ▸ rfl)
      have hreads := observe_pts_first hheader self hpos
      rw [htake] at hreads
      exact hn ▸ hreads.last hplain
    | cons first before =>
      have htake : bytes.take first.length = first := hcut ▸ take_left
      have hdrop : bytes.drop first.length = (before ++ payload :: after).flatten :=
        hcut ▸ drop_left
      have hpos : 0 < first.length := length_pos_iff.mpr fun hnil => hfirst (hnil ▸ rfl)
      rw [flatten_cons, length_append] at hfield hn
      have hreads := observe_pts_first hheader self hpos
      rw [htake] at hreads
      obtain ⟨hnone, hcarry⟩ := hreads.waiting hheader hpts (by omega)
      rw [hn]
      exact (observed_pts_behind hheader hpts hcarry hpos hdrop.symm hplain hfield).cons first hnone
  obtain ⟨hshown, hhidden⟩ := record_packet_pts_take hheader hpts hle
  obtain ⟨others, hout, hothers⟩ := hwindow
  rw [← hn, hout]
  constructor
  · intro heq
    by_contra hno
    rw [hhidden hno] at heq
    cases append_cancel_left heq
  · intro hshows
    rw [hshown hshows] at hothers ⊢
    rw [hothers rfl]

end Runs

namespace OnePts

/-- A video packet with the PTS 1. -/
def pes (length : UInt8) (data : Nat) : List UInt8 :=
  [0x00, 0x00, 0x01, 0xe0, 0x00, length, 0x80, 0x80, 0x05, 0x21, 0x00, 0x01, 0x00, 0x03] ++
    List.replicate data 0xff

def header (expected_len : Option Nat) : PesHeaderSummary :=
  ⟨0xe0, 14, some 1, none, false, false, expected_len⟩

theorem the_pts_of_a_cut_header_is_reported :
    Shows (header none) 15 ∧
      observed_pts {} true ([(pes 0 1).take 9] ++ [(pes 0 1).drop 9]) = [none, some 1] := by
  have hshows : Shows (header none) 15 := ⟨by decide, nofun⟩
  have hheader : parse_pes_header_status (pes 0 1) = .Complete (header none) := by decide +kernel
  exact ⟨hshows, (pts_is_reported_where_shown hheader rfl {} (by decide) (by decide)
    (by decide) (by decide)).mpr hshows⟩

/-- The field is in the first of two payloads, and is not reported. -/
theorem the_pts_of_a_cut_packet_is_lost :
    parse_pes_header_status (pes 34 26) = .Complete (header (some 40)) ∧
      observed_pts {} true [(pes 34 26).take 20, (pes 34 26).drop 20] = [none, none] := by
  decide +kernel

end OnePts

end record_index

end tuner_hal2_demux
