-- The index of a recording: for each packet, the flags of its header that
-- changed, and the start codes of the video stream in its payload. The last
-- three bytes of a payload are looked at again with the next one.
import TvStack.PacketPipeline

open Words

namespace tuner_hal2_demux.record_index

open packet_pipeline

/-- `i32`, for masks of bits. -/
abbrev I32 := BitVec 32

structure RecordStartCodeInfo where
  mask : I32
  first_mb_in_slice : I32
  deriving DecidableEq

def INVALID_FIRST_MB_IN_SLICE : I32 := -1
def RECORD_INDEX_PTS_ABSENT : Int := -1
def SC_INDEX_MASK_ABSENT : I32 := 0
def AVC_SC_I_SLICE : I32 := 1 <<< 0
def AVC_SC_P_SLICE : I32 := 1 <<< 1
def AVC_SC_B_SLICE : I32 := 1 <<< 2
def AVC_SC_SI_SLICE : I32 := 1 <<< 3
def AVC_SC_SP_SLICE : I32 := 1 <<< 4
def HEVC_SC_SPS : I32 := 1 <<< 0
def HEVC_SC_AUD : I32 := 1 <<< 1
def HEVC_SC_BLA_W_LP : I32 := 1 <<< 2
def HEVC_SC_BLA_W_RADL : I32 := 1 <<< 3
def HEVC_SC_BLA_N_LP : I32 := 1 <<< 4
def HEVC_SC_IDR_W_RADL : I32 := 1 <<< 5
def HEVC_SC_IDR_N_LP : I32 := 1 <<< 6
def HEVC_SC_TRAIL_CRA : I32 := 1 <<< 7
def VVC_SC_IDR_W_RADL : I32 := 1 <<< 0
def VVC_SC_IDR_N_LP : I32 := 1 <<< 1
def VVC_SC_CRA : I32 := 1 <<< 2
def VVC_SC_GDR : I32 := 1 <<< 3
def VVC_SC_VPS : I32 := 1 <<< 4
def VVC_SC_SPS : I32 := 1 <<< 5
def VVC_SC_AUD : I32 := 1 <<< 6

def RECORD_SC_TYPE_NONE : Int := 0
def RECORD_SC_TYPE_SC : Int := 1
def RECORD_SC_TYPE_SC_HEVC : Int := 2
def RECORD_SC_TYPE_SC_AVC : Int := 3
def RECORD_SC_TYPE_SC_VVC : Int := 4

def DEMUX_TS_INDEX_FIRST_PACKET : I32 := 1 <<< 0
def DEMUX_TS_INDEX_PAYLOAD_UNIT_START : I32 := 1 <<< 1
def DEMUX_TS_INDEX_CHANGE_TO_NOT_SCRAMBLED : I32 := 1 <<< 2
def DEMUX_TS_INDEX_CHANGE_TO_EVEN_SCRAMBLED : I32 := 1 <<< 3
def DEMUX_TS_INDEX_CHANGE_TO_ODD_SCRAMBLED : I32 := 1 <<< 4
def DEMUX_TS_INDEX_DISCONTINUITY : I32 := 1 <<< 5
def DEMUX_TS_INDEX_RANDOM_ACCESS : I32 := 1 <<< 6
def DEMUX_TS_INDEX_PRIORITY : I32 := 1 <<< 7
def DEMUX_TS_INDEX_PCR : I32 := 1 <<< 8
def DEMUX_TS_INDEX_OPCR : I32 := 1 <<< 9
def DEMUX_TS_INDEX_SPLICING_POINT : I32 := 1 <<< 10
def DEMUX_TS_INDEX_PRIVATE_DATA : I32 := 1 <<< 11
def DEMUX_TS_INDEX_ADAPTATION_EXTENSION : I32 := 1 <<< 12

def supported_record_sc_index_mask (sc_index_type : Int) : I32 :=
  if sc_index_type = RECORD_SC_TYPE_SC then (1 <<< 0) ||| (1 <<< 1) ||| (1 <<< 2) ||| (1 <<< 3)
  else if sc_index_type = RECORD_SC_TYPE_SC_AVC then
    AVC_SC_I_SLICE ||| AVC_SC_P_SLICE ||| AVC_SC_B_SLICE ||| AVC_SC_SI_SLICE ||| AVC_SC_SP_SLICE
  else if sc_index_type = RECORD_SC_TYPE_SC_HEVC then
    HEVC_SC_SPS ||| HEVC_SC_AUD ||| HEVC_SC_BLA_W_LP ||| HEVC_SC_BLA_W_RADL ||| HEVC_SC_BLA_N_LP
      ||| HEVC_SC_IDR_W_RADL ||| HEVC_SC_IDR_N_LP ||| HEVC_SC_TRAIL_CRA
  else if sc_index_type = RECORD_SC_TYPE_SC_VVC then
    VVC_SC_IDR_W_RADL ||| VVC_SC_IDR_N_LP ||| VVC_SC_CRA ||| VVC_SC_GDR ||| VVC_SC_VPS
      ||| VVC_SC_SPS ||| VVC_SC_AUD
  else 0

/-! ## Slice headers -/

/-- The bytes of a NAL unit without the bytes that keep start codes out of it. -/
def nal_to_rbsp_from : Nat → List UInt8 → List UInt8
  | _, [] => []
  | zero_run, byte :: rest =>
    if 2 ≤ zero_run ∧ byte = 0x03 then nal_to_rbsp_from 0 rest
    else byte :: nal_to_rbsp_from (if byte = 0x00 then zero_run + 1 else 0) rest

variable (nal : List UInt8) (payload : List UInt8) (bytes : List UInt8)

def nal_to_rbsp : List UInt8 := nal_to_rbsp_from 0 bytes

structure BitReader where
  bytes : List UInt8
  bit_offset : Nat := 0

namespace BitReader

variable (self : BitReader)

def read_bit : Option (UInt8 × BitReader) :=
  (self.bytes[self.bit_offset / 8]?).map fun byte =>
    ((byte >>> UInt8.ofNat (7 - self.bit_offset % 8)) &&& 1,
      { self with bit_offset := self.bit_offset + 1 })

def read_bits_onto : Nat → Nat → BitReader → Option (Nat × BitReader)
  | 0, value, self => some (value, self)
  | count + 1, value, self => do
    let (bit, self) ← self.read_bit
    read_bits_onto count ((value <<< 1) ||| bit.toNat) self

def read_bits (count : Nat) : Option (Nat × BitReader) :=
  read_bits_onto count 0 self

/-- `while self.read_bit()? == 0`, with room for as many zeros more. -/
def leading_zero_bits : Nat → Nat → BitReader → Option (Nat × BitReader)
  | room, zeros, self => do
    let (bit, self) ← self.read_bit
    if bit = 0 then
      match room with
      | 0 => none
      | room + 1 => leading_zero_bits room (zeros + 1) self
    else some (zeros, self)

/-- The bits behind the leading zeros and the one. -/
def read_suffix (leading_zero_bits : Nat) : Option (Nat × BitReader) :=
  if leading_zero_bits = 0 then some (0, self) else self.read_bits leading_zero_bits

def read_ue : Option (Nat × BitReader) := do
  let (leading_zero_bits, self) ← leading_zero_bits 31 0 self
  let (suffix, self) ← self.read_suffix leading_zero_bits
  some (((1 <<< leading_zero_bits) - 1) + suffix, self)

end BitReader

/-! ## Start codes -/

/-- An answer with a mask, if there is a bit in it. -/
def RecordStartCodeInfo.of_mask (mask first_mb_in_slice : I32) : Option RecordStartCodeInfo :=
  if mask ≠ 0 then some ⟨mask, first_mb_in_slice⟩ else none

def parse_generic_sc_index : Option RecordStartCodeInfo :=
  match nal with
  | [] => none
  | code :: rest =>
    let mask : I32 :=
      if code = 0x00 ∧ 2 ≤ rest.length then
        match (be16 (byte rest 0) (byte rest 1) >>> 3) &&& 0x07 with
        | 1 => 1 <<< 0
        | 2 => 1 <<< 1
        | 3 => 1 <<< 2
        | _ => 0
      else if code = 0xb3 then 1 <<< 3
      else 0
    RecordStartCodeInfo.of_mask mask INVALID_FIRST_MB_IN_SLICE

def avc_slice_mask : Nat → I32
  | 0 => AVC_SC_P_SLICE
  | 1 => AVC_SC_B_SLICE
  | 2 => AVC_SC_I_SLICE
  | 3 => AVC_SC_SP_SLICE
  | 4 => AVC_SC_SI_SLICE
  | _ => 0

def parse_avc_sc_index : Option RecordStartCodeInfo :=
  match nal with
  | [] => none
  | header :: rest =>
    let nal_type := header &&& 0x1f
    if 1 ≤ nal_type ∧ nal_type ≤ 5 then do
      let (first_mb, reader) ← BitReader.read_ue { bytes := nal_to_rbsp rest }
      let (slice_type, _) ← reader.read_ue
      RecordStartCodeInfo.of_mask (avc_slice_mask (slice_type % 5)) (BitVec.ofNat 32 first_mb)
    else none

def hevc_nal_mask (nal_type : Nat) : I32 :=
  if nal_type = 33 then HEVC_SC_SPS
  else if nal_type = 35 then HEVC_SC_AUD
  else if nal_type = 16 then HEVC_SC_BLA_W_LP
  else if nal_type = 17 then HEVC_SC_BLA_W_RADL
  else if nal_type = 18 then HEVC_SC_BLA_N_LP
  else if nal_type = 19 then HEVC_SC_IDR_W_RADL
  else if nal_type = 20 then HEVC_SC_IDR_N_LP
  else if nal_type ≤ 9 ∨ nal_type = 21 then HEVC_SC_TRAIL_CRA
  else 0

def parse_hevc_sc_index : Option RecordStartCodeInfo :=
  if nal.length < 2 then none
  else
    RecordStartCodeInfo.of_mask (hevc_nal_mask ((byte nal 0 >>> 1) &&& 0x3f).toNat)
      INVALID_FIRST_MB_IN_SLICE

def vvc_nal_mask (nal_type : Nat) : I32 :=
  match nal_type with
  | 14 => VVC_SC_VPS
  | 15 => VVC_SC_SPS
  | 20 => VVC_SC_AUD
  | 7 => VVC_SC_GDR
  | 8 => VVC_SC_IDR_W_RADL
  | 9 => VVC_SC_IDR_N_LP
  | 10 => VVC_SC_CRA
  | _ => 0

def parse_vvc_sc_index : Option RecordStartCodeInfo :=
  if nal.length < 2 then none
  else
    RecordStartCodeInfo.of_mask (vvc_nal_mask ((byte nal 1 >>> 3) &&& 0x1f).toNat)
      INVALID_FIRST_MB_IN_SLICE

variable (sc_index_type : Int) (view : TsPacketView)

def parse_sc_index (nal : List UInt8) : Option RecordStartCodeInfo :=
  if sc_index_type = RECORD_SC_TYPE_SC then parse_generic_sc_index nal
  else if sc_index_type = RECORD_SC_TYPE_SC_AVC then parse_avc_sc_index nal
  else if sc_index_type = RECORD_SC_TYPE_SC_HEVC then parse_hevc_sc_index nal
  else if sc_index_type = RECORD_SC_TYPE_SC_VVC then parse_vvc_sc_index nal
  else none

/-- The first prefix of a start code with a byte behind it: where it begins and its length. The
bytes are those from `i` on. -/
def find_sc_prefix_from : Nat → List UInt8 → Option (Nat × Nat)
  | i, a :: b :: c :: d :: rest =>
    if a = 0x00 ∧ b = 0x00 ∧ c = 0x01 then some (i, 3)
    else if a = 0x00 ∧ b = 0x00 ∧ rest ≠ [] ∧ c = 0x00 ∧ d = 0x01 then some (i, 4)
    else find_sc_prefix_from (i + 1) (b :: c :: d :: rest)
  | _, _ => none

def find_sc_prefix : Option (Nat × Nat) := find_sc_prefix_from 0 bytes

/-- What is seen so far in a payload. -/
structure StartCodes where
  observed_mask : I32 := 0
  first_mb : I32 := INVALID_FIRST_MB_IN_SLICE

def StartCodes.note (self : StartCodes) (configured_mask : I32) :
    Option RecordStartCodeInfo → StartCodes
  | none => self
  | some info =>
    { observed_mask := self.observed_mask ||| info.mask
      first_mb :=
        if self.first_mb = INVALID_FIRST_MB_IN_SLICE ∧ info.mask &&& configured_mask ≠ 0 then
          info.first_mb_in_slice
        else self.first_mb }

/-- The loop of `record_sc_info`, from an offset on. Each turn goes on by four bytes or more, and
no offset is beyond the end of the slice, so that the sum does not saturate. -/
def scan_start_codes (sc_index_type : Int) (configured_mask : I32) (es_payload : List UInt8) :
    Nat → Nat → StartCodes → StartCodes
  | 0, _, seen => seen
  | fuel + 1, offset, seen =>
    match find_sc_prefix (es_payload.drop offset) with
    | none => seen
    | some (relative, prefix_len) =>
      let nal_start := offset + relative + prefix_len
      let nal := es_payload.drop nal_start
      let seen := seen.note configured_mask (parse_sc_index sc_index_type nal)
      let offset := nal_start + 1
      if es_payload.length ≤ offset then seen
      else scan_start_codes sc_index_type configured_mask es_payload fuel offset seen

inductive PesPayloadKind
  | NotPes
  | MalformedPes
  | ElementaryStream (bytes : List UInt8)
  deriving DecidableEq

def looks_like_record_index_pes_stream (stream_id : UInt8) : Bool :=
  stream_id ∈ [0xbc, 0xbd, 0xbe, 0xbf, 0xf0, 0xf1, 0xf2, 0xf8, 0xff] ||
    (0xc0 ≤ stream_id && stream_id ≤ 0xdf) || (0xe0 ≤ stream_id && stream_id ≤ 0xef)

def pes_payload_kind : PesPayloadKind :=
  if ¬ [0x00, 0x00, 0x01].isPrefixOf payload then .NotPes
  else
    match payload[3]? with
    | none => .NotPes
    | some stream_id =>
      if ¬ looks_like_record_index_pes_stream stream_id then .NotPes
      else
        match parse_pes_header_summary payload with
        | none => .MalformedPes
        | some summary =>
          if summary.expected_len.any (payload.length < ·) then .MalformedPes
          else if summary.payload_offset ≤ payload.length then
            .ElementaryStream (payload.drop summary.payload_offset)
          else .MalformedPes

def record_sc_info (configured_mask : I32) : Option RecordStartCodeInfo :=
  if sc_index_type = RECORD_SC_TYPE_NONE ∨ configured_mask = 0 then none
  else
    let scan es_payload :=
      let seen := scan_start_codes sc_index_type configured_mask es_payload
        (es_payload.length + 1) 0 {}
      RecordStartCodeInfo.of_mask seen.observed_mask seen.first_mb
    match pes_payload_kind payload with
    | .ElementaryStream bytes => scan bytes
    | .NotPes => scan payload
    | .MalformedPes => none

/-! ## Timestamps -/

def pes_time_fields : Option Nat × Option Nat :=
  match parse_pes_header_summary payload with
  | none => (none, none)
  | some summary =>
    if summary.expected_len.any (payload.length < ·) then (none, none)
    else (summary.pts_90khz, summary.dts_90khz)

def record_packet_pts : Option Int :=
  if [0x00, 0x00, 0x01].isPrefixOf payload then (pes_time_fields payload).1.map Int.ofNat else none

def is_pes_start_prefix_fragment : Bool :=
  payload = [0x00] || payload = [0x00, 0x00]

def starts_with_complete_or_partial_pes_prefix : Bool :=
  [0x00, 0x00, 0x01].isPrefixOf bytes || is_pes_start_prefix_fragment bytes

/-! ## The state of a record filter -/

structure RecordEventState where
  last_transport_scrambling_control : Option UInt8 := none
  sc_prefix_carry : List UInt8 := []
  pes_header_carry : List UInt8 := []

namespace RecordEventState

variable (self : RecordEventState)

def reset_payload_state : RecordEventState :=
  { self with sc_prefix_carry := [], pes_header_carry := [] }

variable (payload : List UInt8)

def payload_with_sc_carry : List UInt8 × RecordEventState :=
  let merged := self.sc_prefix_carry ++ payload
  let keep := min merged.length 3
  (merged, { self with sc_prefix_carry := merged.drop (merged.length - keep) })

/-- The PTS of a header that begins in this payload. -/
def observe_pts_at_start : Option Int × RecordEventState :=
  if [0x00, 0x00, 0x01].isPrefixOf payload then
    match record_packet_pts payload with
    | some pts => (some pts, { self with pes_header_carry := [] })
    | none => (none, { self with pes_header_carry := payload.take 19 })
  else if is_pes_start_prefix_fragment payload then
    (none, { self with pes_header_carry := payload })
  else (none, { self with pes_header_carry := [] })

def observe_pts (payload_unit_start : Bool) : Option Int × RecordEventState :=
  if payload_unit_start || [0x00, 0x00, 0x01].isPrefixOf payload then
    self.observe_pts_at_start payload
  else if self.pes_header_carry = [] then (none, self)
  else
    let pes_header_carry := self.pes_header_carry ++ payload.take 19
    if ¬ starts_with_complete_or_partial_pes_prefix pes_header_carry then
      (none, { self with pes_header_carry := [] })
    else
      let pes_header_carry := pes_header_carry.take 32
      let pts := record_packet_pts pes_header_carry
      (pts, { self with
        pes_header_carry :=
          if pts.isSome || 19 ≤ pes_header_carry.length then [] else pes_header_carry })

end RecordEventState

/-! ## Events -/

structure TsRecordEventData where
  pid : PacketPid
  ts_index_mask : I32
  sc_index_type : Int
  sc_index_mask_bits : I32
  byte_number : Int
  pts : Int
  first_mb_in_slice : I32

/-- A bit that is set under a condition. -/
def flag (set : Bool) (bit : I32) : I32 := if set then bit else 0

def scrambling_change : Option UInt8 → UInt8 → I32
  | some previous, now =>
    if previous ≠ now then
      if now = 0 then DEMUX_TS_INDEX_CHANGE_TO_NOT_SCRAMBLED
      else if now = 2 then DEMUX_TS_INDEX_CHANGE_TO_EVEN_SCRAMBLED
      else if now = 3 then DEMUX_TS_INDEX_CHANGE_TO_ODD_SCRAMBLED
      else 0
    else 0
  | none, now =>
    if now = 2 then DEMUX_TS_INDEX_CHANGE_TO_EVEN_SCRAMBLED
    else if now = 3 then DEMUX_TS_INDEX_CHANGE_TO_ODD_SCRAMBLED
    else 0

def observed_ts_index (cumulative_bytes : Nat) (previous : Option UInt8) : I32 :=
  flag (cumulative_bytes = 0) DEMUX_TS_INDEX_FIRST_PACKET |||
    flag view.payload_unit_start DEMUX_TS_INDEX_PAYLOAD_UNIT_START |||
    flag view.priority DEMUX_TS_INDEX_PRIORITY |||
    flag view.flags.discontinuity_indicator DEMUX_TS_INDEX_DISCONTINUITY |||
    flag view.flags.random_access_indicator DEMUX_TS_INDEX_RANDOM_ACCESS |||
    flag view.flags.pcr_flag DEMUX_TS_INDEX_PCR |||
    flag view.flags.opcr_flag DEMUX_TS_INDEX_OPCR |||
    flag view.flags.splicing_point_flag DEMUX_TS_INDEX_SPLICING_POINT |||
    flag view.flags.private_data_flag DEMUX_TS_INDEX_PRIVATE_DATA |||
    flag view.flags.adaptation_extension_flag DEMUX_TS_INDEX_ADAPTATION_EXTENSION |||
    scrambling_change previous view.scrambling_control

/-- The PTS and the start codes of the payload; those of a scrambled one are not there. -/
def observe_payload (sc_index_type : Int) (configured_sc_index_mask_bits : I32)
    (record_state : RecordEventState) : (Int × Option RecordStartCodeInfo) × RecordEventState :=
  let packet_payload := view.payload.getD []
  if view.scrambling_control = 0 then
    let (pts, record_state) := record_state.observe_pts packet_payload view.payload_unit_start
    let (sc_payload, record_state) := record_state.payload_with_sc_carry packet_payload
    ((pts.getD RECORD_INDEX_PTS_ABSENT,
      record_sc_info sc_payload sc_index_type configured_sc_index_mask_bits), record_state)
  else ((RECORD_INDEX_PTS_ABSENT, none), record_state.reset_payload_state)

def build_ts_record_event_data_from_validated (validated_packet : ValidatedTsPacket)
    (cumulative_bytes : Nat) (configured_ts_index_mask : I32) (sc_index_type : Int)
    (configured_sc_index_mask_bits : I32) (record_state : RecordEventState) :
    Option TsRecordEventData × RecordEventState :=
  let view := validated_packet.view
  if view.transport_error_indicator then (none, record_state)
  else
    let observed := observed_ts_index view cumulative_bytes
      record_state.last_transport_scrambling_control
    let record_state :=
      if view.flags.discontinuity_indicator then record_state.reset_payload_state else record_state
    let record_state :=
      { record_state with last_transport_scrambling_control := some view.scrambling_control }
    let ((pts, sc_info), record_state) :=
      observe_payload view sc_index_type configured_sc_index_mask_bits record_state
    let first_mb_in_slice :=
      (sc_info.map (·.first_mb_in_slice)).getD INVALID_FIRST_MB_IN_SLICE
    let ts_index_mask := observed &&& configured_ts_index_mask
    let sc_index_mask_bits :=
      (sc_info.map (·.mask &&& configured_sc_index_mask_bits)).getD SC_INDEX_MASK_ABSENT
    if ts_index_mask = 0 ∧ sc_index_mask_bits = 0 then (none, record_state)
    else if (cumulative_bytes : Int) ≤ I64_MAX then
      (some
        { pid := view.pid
          ts_index_mask, sc_index_type, sc_index_mask_bits
          byte_number := cumulative_bytes
          pts, first_mb_in_slice }, record_state)
    else (none, record_state)

structure RecordIndexParser where
  processed_packets : Nat := 0

def RecordIndexParser.push_validated_ts_packet (self : RecordIndexParser)
    (packet : ValidatedTsPacket) (cumulative_bytes : Nat) (configured_ts_index_mask : I32)
    (sc_index_type : Int) (configured_sc_index_mask_bits : I32) (record_state : RecordEventState) :
    Option TsRecordEventData × RecordIndexParser × RecordEventState :=
  let built := build_ts_record_event_data_from_validated packet cumulative_bytes
    configured_ts_index_mask sc_index_type configured_sc_index_mask_bits record_state
  (built.1, { processed_packets := saturating_add U64_MAX self.processed_packets 1 }, built.2)

end tuner_hal2_demux.record_index
