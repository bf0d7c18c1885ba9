-- The headers of PES packets, and the assembler: `PesAssembler` takes the payloads of
-- the packets of one PID and gives whole PES packets.
import Mathlib.Data.List.TakeDrop
import TvStack.HalCommon
import TvStack.Machines
import TvStack.Words

open Words List

namespace tuner_hal2_demux

def MAX_PES_BUFFER_BYTES : Nat := 1024 * 1024

structure PesHeaderSummary where
  stream_id : UInt8
  payload_offset : Nat
  (pts_90khz dts_90khz : Option Nat)
  is_pes_private_data : Bool
  data_alignment_indicator : Bool
  expected_len : Option Nat
  deriving DecidableEq

variable {bytes : List UInt8} {summary : PesHeaderSummary}

inductive PesHeaderParseStatus
  | Incomplete
  | Malformed
  | Complete (summary : PesHeaderSummary)
  deriving DecidableEq

/-! ## The Rust functions -/

def pes_stream_has_optional_header (stream_id : UInt8) : Bool :=
  stream_id ∉ [0xbc, 0xbe, 0xbf, 0xf0, 0xf1, 0xf2, 0xf8, 0xff]

def pts_dts_field_value (field : List UInt8) (expected_start : UInt8) : Option Nat :=
  if field.length < 5 then none
  else if (byte field 0 >>> 4) ≠ expected_start then none
  else if (byte field 0 &&& 0x01) = 0 ∨ (byte field 2 &&& 0x01) = 0 ∨ (byte field 4 &&& 0x01) = 0
  then none
  else some
    ((((byte field 0 >>> 1).toNat &&& 0x07) <<< 30) ||| ((byte field 1).toNat <<< 22) |||
      ((byte field 2 >>> 1).toNat <<< 15) ||| ((byte field 3).toNat <<< 7) |||
      (byte field 4 >>> 1).toNat)

/-- The cursor behind a field of the optional header, if the field fits. -/
def advance_optional_field (cursor length header_len : Nat) : Option Nat :=
  match checked_add USIZE_MAX cursor length with
  | none => none
  | some fieldEnd => if fieldEnd > header_len then none else some fieldEnd

/-- The cursor behind a field that a flag announces. -/
def advance_flagged_field (flags : UInt8) (header_len cursor : Nat) (field : UInt8 × Nat) :
    Option Nat :=
  if (flags &&& field.1) ≠ 0 then advance_optional_field cursor field.2 header_len else some cursor

variable (extension_flags : UInt8) (optional_header : List UInt8)

/-- The cursor behind the pack header, whose length stands in its first byte. -/
def advance_pack_header (cursor : Nat) : Option Nat :=
  if (extension_flags &&& 0x40) ≠ 0 then do
    let pack_header_len ← optional_header[cursor]?
    let cursor ← checked_add USIZE_MAX cursor 1
    advance_optional_field cursor pack_header_len.toNat optional_header.length
  else some cursor

/-- The cursor behind the last extension, whose length byte has its marker bit set. -/
def advance_extension (cursor : Nat) : Option Nat :=
  if (extension_flags &&& 0x01) ≠ 0 then do
    let extension_length ← optional_header[cursor]?
    if (extension_length &&& 0x80) = 0 then none
    else
      let cursor ← checked_add USIZE_MAX cursor 1
      advance_optional_field cursor (extension_length &&& 0x7f).toNat optional_header.length
  else some cursor

def pes_private_data_presence (flags2 : UInt8) (optional_header : List UInt8) : Option Bool := do
  let pts_dts_flags := (flags2 >>> 6) &&& 0x03
  let cursor ←
    if pts_dts_flags = 0b00 then some 0
    else if pts_dts_flags = 0b10 then some 5
    else if pts_dts_flags = 0b11 then some 10
    else none
  let cursor ← advance_optional_field cursor 0 optional_header.length
  let cursor ← [((0x20 : UInt8), 6), (0x10, 3), (0x08, 1), (0x04, 1), (0x02, 2)].foldlM
    (advance_flagged_field flags2 optional_header.length) cursor
  if (flags2 &&& 0x01) = 0 then some false
  else
    let extension_flags ← optional_header[cursor]?
    let cursor ← checked_add USIZE_MAX cursor 1
    if (extension_flags &&& 0x0e) ≠ 0x0e then none
    else
      let cursor ← advance_flagged_field extension_flags optional_header.length cursor (0x80, 16)
      let cursor ← advance_pack_header extension_flags optional_header cursor
      let cursor ← advance_flagged_field extension_flags optional_header.length cursor (0x20, 2)
      let cursor ← advance_flagged_field extension_flags optional_header.length cursor (0x10, 2)
      let _cursor ← advance_extension extension_flags optional_header cursor
      some ((extension_flags &&& 0x80) ≠ 0)

/-- The packet length in the fifth and the sixth byte. -/
def pes_packet_length (bytes : List UInt8) : Nat :=
  ((byte bytes 4).toNat <<< 8) ||| (byte bytes 5).toNat

def pes_expected_len (bytes : List UInt8) : Option Nat :=
  if pes_packet_length bytes = 0 then none else some (6 + pes_packet_length bytes)

def pes_header_data_len (bytes : List UInt8) : Nat := (byte bytes 8).toNat

def pes_pts_dts_flags (bytes : List UInt8) : UInt8 := (byte bytes 7 >>> 6) &&& 0x03

/-- `match pts_dts_flags`: the PTS field, or `none` for a malformed one. -/
def pes_pts (bytes : List UInt8) : Option (Option Nat) :=
  if pes_pts_dts_flags bytes = 0b10 then
    (pts_dts_field_value ((bytes.take 14).drop 9) 0b0010).map some
  else if pes_pts_dts_flags bytes = 0b11 then
    (pts_dts_field_value ((bytes.take 14).drop 9) 0b0011).map some
  else some none

def pes_dts (bytes : List UInt8) : Option (Option Nat) :=
  if pes_pts_dts_flags bytes = 0b11 then
    (pts_dts_field_value ((bytes.take 19).drop 14) 0b0001).map some
  else some none

/-- The header from the tenth byte on, once all of it is there. -/
def parse_pes_optional_header (bytes : List UInt8) : PesHeaderParseStatus :=
  match pes_pts bytes with
  | none => .Malformed
  | some pts_90khz =>
    match pes_dts bytes with
    | none => .Malformed
    | some dts_90khz =>
      match pes_private_data_presence (byte bytes 7)
          ((bytes.take (9 + pes_header_data_len bytes)).drop 9) with
      | none => .Malformed
      | some is_pes_private_data =>
        .Complete
          { stream_id := byte bytes 3
            payload_offset := 9 + pes_header_data_len bytes
            pts_90khz, dts_90khz, is_pes_private_data
            data_alignment_indicator := (byte bytes 6 &&& 0x04) ≠ 0
            expected_len := pes_expected_len bytes }

def parse_pes_header_status (bytes : List UInt8) : PesHeaderParseStatus :=
  if bytes.length < 6 then .Incomplete
  else if bytes.take 3 ≠ [0x00, 0x00, 0x01] then .Malformed
  else if pes_packet_length bytes = 0 ∧ ¬ (0xe0 ≤ byte bytes 3 ∧ byte bytes 3 ≤ 0xef) then
    .Malformed
  else if ¬ pes_stream_has_optional_header (byte bytes 3) then
    .Complete
      { stream_id := byte bytes 3
        payload_offset := 6
        pts_90khz := none
        dts_90khz := none
        is_pes_private_data := false
        data_alignment_indicator := false
        expected_len := pes_expected_len bytes }
  else if bytes.length < 9 then .Incomplete
  else if (byte bytes 6 &&& 0xc0) ≠ 0x80 then .Malformed
  else if pes_packet_length bytes ≠ 0 ∧ pes_packet_length bytes < 3 + pes_header_data_len bytes
  then .Malformed
  else if pes_pts_dts_flags bytes = 0b01 then .Malformed
  else if pes_pts_dts_flags bytes = 0b10 ∧ pes_header_data_len bytes < 5 then .Malformed
  else if pes_pts_dts_flags bytes = 0b11 ∧ pes_header_data_len bytes < 10 then .Malformed
  else if bytes.length < 9 + pes_header_data_len bytes then .Incomplete
  else parse_pes_optional_header bytes

def parse_pes_header_summary (bytes : List UInt8) : Option PesHeaderSummary :=
  match parse_pes_header_status bytes with
  | .Complete summary => some summary
  | .Incomplete | .Malformed => none

/-! ## More bytes behind the header -/

section more

variable {bytes : List UInt8} (more : List UInt8)

theorem pes_packet_length_append (h : 6 ≤ bytes.length) :
    pes_packet_length (bytes ++ more) = pes_packet_length bytes := by
  simp only [pes_packet_length, byte_append_left more (show 4 < bytes.length by omega),
    byte_append_left more (show 5 < bytes.length by omega)]

theorem pes_expected_len_append (h : 6 ≤ bytes.length) :
    pes_expected_len (bytes ++ more) = pes_expected_len bytes := by
  simp only [pes_expected_len, pes_packet_length_append more h]

theorem pes_header_data_len_append (h : 9 ≤ bytes.length) :
    pes_header_data_len (bytes ++ more) = pes_header_data_len bytes := by
  simp only [pes_header_data_len, byte_append_left more (show 8 < bytes.length by omega)]

theorem pes_pts_dts_flags_append (h : 9 ≤ bytes.length) :
    pes_pts_dts_flags (bytes ++ more) = pes_pts_dts_flags bytes := by
  simp only [pes_pts_dts_flags, byte_append_left more (show 7 < bytes.length by omega)]

/-- The fields of the optional header lie before the payload. -/
theorem parse_pes_optional_header_append (h9 : 9 + pes_header_data_len bytes ≤ bytes.length)
    (hpts : pes_pts_dts_flags bytes = 0b10 → 5 ≤ pes_header_data_len bytes)
    (hdts : pes_pts_dts_flags bytes = 0b11 → 10 ≤ pes_header_data_len bytes) :
    parse_pes_optional_header (bytes ++ more) = parse_pes_optional_header bytes := by
  have h : 9 ≤ bytes.length := by omega
  have hp : pes_pts (bytes ++ more) = pes_pts bytes := by
    unfold pes_pts
    rw [pes_pts_dts_flags_append more h]
    refine ite_congr rfl (fun h10 => ?_) (fun _ => ite_congr rfl (fun h11 => ?_) fun _ => rfl)
    · rw [take_append_of_le_length (by have := hpts h10; omega)]
    · rw [take_append_of_le_length (by have := hdts h11; omega)]
  have hd : pes_dts (bytes ++ more) = pes_dts bytes := by
    unfold pes_dts
    rw [pes_pts_dts_flags_append more h]
    refine ite_congr rfl (fun h11 => ?_) fun _ => rfl
    rw [take_append_of_le_length (by have := hdts h11; omega)]
  unfold parse_pes_optional_header
  rw [hp, hd, pes_header_data_len_append more h, take_append_of_le_length h9,
    pes_expected_len_append more (by omega), byte_append_left more (show 7 < bytes.length by omega),
    byte_append_left more (show 3 < bytes.length by omega),
    byte_append_left more (show 6 < bytes.length by omega)]

end more

/-- An answer stays when more bytes come. -/
theorem parse_pes_header_status.stable (bytes more : List UInt8)
    (h : parse_pes_header_status bytes ≠ .Incomplete) :
    parse_pes_header_status (bytes ++ more) = parse_pes_header_status bytes := by
  unfold parse_pes_header_status at h ⊢
  by_cases h6 : bytes.length < 6
  · rw [if_pos h6] at h
    exact absurd rfl h
  rw [if_neg h6] at h
  rw [if_neg h6, if_neg (by rw [length_append]; omega),
    take_append_of_le_length (by omega), pes_packet_length_append more (by omega),
    byte_append_left more (show 3 < bytes.length by omega), pes_expected_len_append more (by omega)]
  refine ite_congr rfl (fun _ => rfl) fun hstart => ?_
  refine ite_congr rfl (fun _ => rfl) fun hlength => ?_
  refine ite_congr rfl (fun _ => rfl) fun hoptional => ?_
  rw [if_neg hstart, if_neg hlength, if_neg hoptional] at h
  by_cases h9 : bytes.length < 9
  · rw [if_pos h9] at h
    exact absurd rfl h
  rw [if_neg h9] at h
  rw [if_neg h9, if_neg (by rw [length_append]; omega),
    byte_append_left more (show 6 < bytes.length by omega),
    pes_header_data_len_append more (by omega), pes_pts_dts_flags_append more (by omega)]
  refine ite_congr rfl (fun _ => rfl) fun hmarker => ?_
  refine ite_congr rfl (fun _ => rfl) fun hdata => ?_
  refine ite_congr rfl (fun _ => rfl) fun hflags => ?_
  refine ite_congr rfl (fun _ => rfl) fun hpts => ?_
  refine ite_congr rfl (fun _ => rfl) fun hdts => ?_
  rw [if_neg hmarker, if_neg hdata, if_neg hflags, if_neg hpts, if_neg hdts] at h
  by_cases hall : bytes.length < 9 + pes_header_data_len bytes
  · rw [if_pos hall] at h
    exact absurd rfl h
  rw [if_neg hall, if_neg (by rw [length_append]; omega)]
  exact parse_pes_optional_header_append more (by omega)
    (fun h10 => Nat.le_of_not_lt fun hlt => hpts ⟨h10, hlt⟩)
    (fun h11 => Nat.le_of_not_lt fun hlt => hdts ⟨h11, hlt⟩)

/-- What an answer says about the bytes. -/
def PesHeaderParseStatus.Means (bytes : List UInt8) : PesHeaderParseStatus → Prop
  | .Incomplete => bytes.length < 9 + pes_header_data_len bytes
  | .Malformed => True
  | .Complete summary =>
    (bytes.take 3 = [0x00, 0x00, 0x01] ∧ summary.payload_offset ≤ bytes.length ∧
      6 ≤ summary.payload_offset ∧ summary.expected_len = pes_expected_len bytes) ∧
    (pes_packet_length bytes = 0 → 0xe0 ≤ byte bytes 3 ∧ byte bytes 3 ≤ 0xef) ∧
    (summary.pts_90khz.isSome = true →
      summary.payload_offset = 9 + pes_header_data_len bytes ∧ 14 ≤ summary.payload_offset)

theorem PesHeaderParseStatus.Means.ite {c : Prop} [Decidable c] {a b : PesHeaderParseStatus}
    (ha : c → a.Means bytes) (hb : ¬ c → b.Means bytes) : (if c then a else b).Means bytes := by
  by_cases hc : c
  · exact (if_pos hc).symm ▸ ha hc
  · exact (if_neg hc).symm ▸ hb hc

theorem parse_pes_optional_header.means (hstart : bytes.take 3 = [0x00, 0x00, 0x01])
    (hvideo : pes_packet_length bytes = 0 → 0xe0 ≤ byte bytes 3 ∧ byte bytes 3 ≤ 0xef)
    (hfive : pes_pts_dts_flags bytes = 0b10 → 5 ≤ pes_header_data_len bytes)
    (hten : pes_pts_dts_flags bytes = 0b11 → 10 ≤ pes_header_data_len bytes)
    (hall : 9 + pes_header_data_len bytes ≤ bytes.length) :
    (parse_pes_optional_header bytes).Means bytes := by
  unfold parse_pes_optional_header
  split
  · trivial
  rename_i pts hpts
  split
  · trivial
  split
  · trivial
  refine ⟨⟨hstart, hall, Nat.le_add_right_of_le (by decide), rfl⟩, hvideo, fun hsome => ⟨rfl, ?_⟩⟩
  -- a field is read with the flags 10 and 11 only
  dsimp only
  unfold pes_pts at hpts
  split at hpts
  · have hdata := hfive ‹_›
    omega
  split at hpts
  · have hdata := hten ‹_›
    omega
  · cases hpts
    cases hsome

/-- The parser asks for more only while the header is not there. A complete header starts with the
start code and ends within the bytes. -/
theorem parse_pes_header_status.means (bytes : List UInt8) :
    (parse_pes_header_status bytes).Means bytes := by
  refine .ite (fun h6 => ?_) fun h6 => .ite (fun _ => trivial) fun hstart =>
    .ite (fun _ => trivial) fun hvideo => .ite (fun _ => ?_) fun _ => .ite (fun h9 => ?_) fun _ =>
    .ite (fun _ => trivial) fun _ => .ite (fun _ => trivial) fun _ =>
    .ite (fun _ => trivial) fun _ =>
    .ite (fun _ => trivial) fun hfive => .ite (fun _ => trivial) fun hten =>
    .ite (fun hall => hall) fun hall => ?_
  · exact Nat.lt_add_right _ (Nat.lt_trans h6 (by decide))
  · exact ⟨⟨not_not.mp hstart, Nat.le_of_not_lt h6, Nat.le_refl 6, rfl⟩,
      fun hzero => not_not.mp fun hno => hvideo ⟨hzero, hno⟩, nofun⟩
  · exact Nat.lt_add_right _ h9
  · exact parse_pes_optional_header.means (not_not.mp hstart)
      (fun hzero => not_not.mp fun hno => hvideo ⟨hzero, hno⟩)
      (fun hflags => Nat.le_of_not_lt fun hlt => hfive ⟨hflags, hlt⟩)
      (fun hflags => Nat.le_of_not_lt fun hlt => hten ⟨hflags, hlt⟩) (Nat.le_of_not_lt hall)

section Complete

variable (h : parse_pes_header_status bytes = .Complete summary)
include h

theorem means_complete : (PesHeaderParseStatus.Complete summary).Means bytes :=
  h ▸ parse_pes_header_status.means bytes

theorem parse_pes_header_status.complete : bytes.take 3 = [0x00, 0x00, 0x01] ∧
    summary.payload_offset ≤ bytes.length ∧ 6 ≤ bytes.length ∧
      summary.expected_len = pes_expected_len bytes := by
  obtain ⟨⟨hstart, hle, hsix, hlen⟩, -⟩ := means_complete h
  exact ⟨hstart, hle, hsix.trans hle, hlen⟩

/-- A header with a PTS ends behind it. -/
theorem parse_pes_header_status.with_pts {pts : Nat} (hpts : summary.pts_90khz = some pts) :
    summary.payload_offset = 9 + pes_header_data_len bytes ∧ 14 ≤ summary.payload_offset :=
  (means_complete h).2.2 (Option.isSome_of_mem hpts)

end Complete

theorem parse_pes_header_status.before_end (h : parse_pes_header_status bytes = .Incomplete) :
    bytes.length < 9 + pes_header_data_len bytes := by
  have hmeans := parse_pes_header_status.means bytes
  rwa [h] at hmeans

theorem parse_pes_header_status.incomplete (h : parse_pes_header_status bytes = .Incomplete) :
    bytes.length < 264 := by
  have hdata : pes_header_data_len bytes < 256 := (byte bytes 8).toNat_lt
  have hlt := parse_pes_header_status.before_end h
  omega

/-- More bytes change no answer that was given, and 264 bytes are enough for one. -/
theorem pes_header_parsing_is_prefix_stable (bytes more : List UInt8) :
    (parse_pes_header_status bytes ≠ .Incomplete →
      parse_pes_header_status (bytes ++ more) = parse_pes_header_status bytes) ∧
    (parse_pes_header_status bytes = .Incomplete → bytes.length < 264) :=
  ⟨parse_pes_header_status.stable bytes more, parse_pes_header_status.incomplete⟩

/-- The bytes of a packet with a complete header that came so far ask for more, or give its
summary. -/
theorem parse_pes_header_status.part {raw part rest more : List UInt8}
    (h : parse_pes_header_status raw = .Complete summary) (heq : part ++ rest = raw ++ more) :
    parse_pes_header_status part = .Incomplete ∨
      parse_pes_header_status part = .Complete summary := by
  by_cases hpart : parse_pes_header_status part = .Incomplete
  · exact Or.inl hpart
  right
  rw [← parse_pes_header_status.stable part rest hpart, heq,
    parse_pes_header_status.stable raw more (by rw [h]; exact fun hc => by cases hc), h]

end tuner_hal2_demux

open Machines

namespace tuner_hal2_demux

abbrev PacketPid := tuner_hal2_common.TransportStreamPid

structure PesPacket where
  pid : PacketPid
  stream_id : UInt8
  (pts_90khz dts_90khz : Option Nat)
  is_pes_private_data : Bool
  data_alignment_indicator : Bool
  (raw_bytes payload : List UInt8)
  deriving DecidableEq

inductive PesDropReason
  | ContinuationWithoutStart
  | MalformedPes
  | OversizedPes
  | FlushDiscard
  deriving DecidableEq

structure PesAssembler where
  pid : Option PacketPid := none
  buf : List UInt8 := []
  expected_len : Option Nat := none
  unbounded_summary : Option PesHeaderSummary := none
  next_header : Option (List UInt8) := none
  overflow_drop_count : Nat := 0
  overflow_generation : Nat := 0
  overflow_drop_counter_saturated : Bool := false
  overflow_generation_counter_saturated : Bool := false
  last_drop_reason : Option PesDropReason := none
  deriving DecidableEq

namespace PesAssembler

/-! ## The assembler -/

variable (a : PesAssembler)

def reset_state_only : PesAssembler :=
  { a with pid := none, buf := [], expected_len := none, unbounded_summary := none,
           next_header := none }

variable (pid : PacketPid) (reason : PesDropReason)

/-- The counters of a drop. -/
def count_drop : PesAssembler :=
  let a := match checked_add U64_MAX a.overflow_drop_count 1 with
    | some next => { a with overflow_drop_count := next }
    | none => { a with overflow_drop_counter_saturated := true }
  let a := match checked_add U64_MAX a.overflow_generation 1 with
    | some next => { a with overflow_generation := next }
    | none => { a with overflow_generation_counter_saturated := true }
  { a with last_drop_reason := some reason }

def reset_with_drop : PesAssembler :=
  let a :=
    if a.pid.isSome || !a.buf.isEmpty || a.expected_len.isSome || a.unbounded_summary.isSome then
      a.count_drop reason
    else a
  a.reset_state_only

def take_drop_diagnostic : PesAssembler × Option (PesDropReason × Nat) :=
  ({ a with last_drop_reason := none },
    a.last_drop_reason.map fun reason => (reason, a.overflow_generation))

def take_completed : PesAssembler × Option PesPacket :=
  match a.pid with
  | none => (a, none)
  | some pid =>
    match (parse_pes_header_summary a.buf).or a.unbounded_summary with
    | none => (a, none)
    | some summary =>
      if summary.expected_len.any (a.buf.length < ·) then (a, none)
      else
        let raw_bytes := match summary.expected_len with
          | some expected_len => a.buf.take expected_len
          | none => a.buf
        let payload :=
          if raw_bytes.take 3 = [0x00, 0x00, 0x01] then
            raw_bytes.drop (min summary.payload_offset raw_bytes.length)
          else raw_bytes
        ({ a with buf := [], expected_len := none, unbounded_summary := none, pid := none },
          some
            { pid
              stream_id := summary.stream_id
              pts_90khz := summary.pts_90khz
              dts_90khz := summary.dts_90khz
              is_pes_private_data := summary.is_pes_private_data
              data_alignment_indicator := summary.data_alignment_indicator
              raw_bytes, payload })

/-- A payload with a unit start: the next header begins behind an unbounded packet, and else a
new packet begins. -/
def start_unit : PesAssembler :=
  if a.unbounded_summary.isSome ∧ a.pid = some pid ∧ a.next_header.isNone then
    { a with next_header := some [] }
  else
    let a := if a.unbounded_summary.isSome then a.reset_with_drop .MalformedPes
      else a.reset_state_only
    { a with pid := some pid }

/-- The header of the buffered bytes, while no length is known. `none` is a malformed one. -/
def with_header : Option PesAssembler :=
  if a.expected_len.isNone then
    match parse_pes_header_status a.buf with
    | .Complete summary =>
      some { a with
        expected_len := summary.expected_len,
        unbounded_summary := if summary.expected_len.isNone then some summary else none }
    | .Incomplete => some a
    | .Malformed => none
  else some a

/-- The end of `push`, with the payload in the buffer. -/
def push_buffered (out : List PesPacket) : PesAssembler × List PesPacket :=
  match a.with_header with
  | none => (a.reset_with_drop .MalformedPes, out)
  | some a =>
    if a.buf.length > MAX_PES_BUFFER_BYTES then (a.reset_with_drop .OversizedPes, out)
    else if a.expected_len.any (· ≤ a.buf.length) then
      (a.take_completed.1, out ++ a.take_completed.2.toList)
    else (a, out)

/-- The payload goes to the next header, which is kept apart until it is checked, or to the
buffer. The longest header has 264 bytes. -/
def push_payload (payload : List UInt8) : PesAssembler × List PesPacket :=
  match a.next_header with
  | some header =>
    let copied := min (264 - header.length) payload.length
    let header := header ++ payload.take copied
    let a := { a with next_header := none }
    match parse_pes_header_status header with
    | .Incomplete => ({ a with next_header := some header }, [])
    | .Malformed => (a.reset_with_drop .MalformedPes, [])
    | .Complete _ =>
      push_buffered
        { a.take_completed.1 with pid := some pid, buf := header ++ payload.drop copied }
        a.take_completed.2.toList
  | none => push_buffered { a with buf := a.buf ++ payload } []

def push (payload_unit_start : Bool) (payload : List UInt8) : PesAssembler × List PesPacket :=
  if payload_unit_start then (a.start_unit pid).push_payload pid payload
  else if a.pid ≠ some pid then (a.reset_with_drop .ContinuationWithoutStart, [])
  else a.push_payload pid payload

end PesAssembler

end tuner_hal2_demux
