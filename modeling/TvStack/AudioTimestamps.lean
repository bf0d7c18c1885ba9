-- The association of timestamps with audio frames. The frames, of ADTS or of MPEG
-- audio, are cut out of the payloads of PES packets, over whose borders they may go.
-- A frame gets the timestamp of its packet, or one that counts the samples since the
-- last one.
import TvStack.AvBacking
import TvStack.Loops
import TvStack.PesAssembly
import TvStack.Words

open Words List

namespace tuner_hal2_demux.av

def MAX_AUDIO_HEADER_BYTES : Nat := 7
def MAX_AUDIO_FRAME_BYTES : Nat := 2 ^ 13 - 1

inductive MpegVersion
  | One
  | Two
  deriving DecidableEq

inductive MpegLayer
  | One
  | Two
  | Three
  deriving DecidableEq

inductive AudioFrameSignature
  | Adts (mpeg_id profile : UInt8) (sample_rate_hz : Nat) (channel_configuration : UInt8)
  | MpegAudio (version : MpegVersion) (layer : MpegLayer) (sample_rate_hz : Nat)
      (channel_mode : UInt8)
  deriving DecidableEq

def AudioFrameSignature.sample_rate_hz : AudioFrameSignature → Nat
  | .Adts _ _ sample_rate_hz _ | .MpegAudio _ _ sample_rate_hz _ => sample_rate_hz

structure AudioFrameHeader where
  signature : AudioFrameSignature
  (sample_count frame_len parsed_header_len : Nat)
  deriving DecidableEq

inductive AudioFrameHeaderParse
  | NeedMore (required_len : Nat)
  | Complete (header : AudioFrameHeader)
  | Invalid
  deriving DecidableEq

variable {bytes : List UInt8} {header : AudioFrameHeader}

/-! ## The Rust functions -/

def adts_sample_rate_hz : Nat → Option Nat
  | 0 => some 96000
  | 3 => some 48000
  | 4 => some 44100
  | 5 => some 32000
  | 6 => some 24000
  | 7 => some 22050
  | 8 => some 16000
  | _ => none

/-- The seven bytes of an ADTS header. -/
def adts_header (header : List UInt8) : AudioFrameHeaderParse :=
  let mpeg_id := (byte header 1 >>> 3) &&& 0x01
  let protection_absent := (byte header 1 &&& 0x01) != 0
  let profile := (byte header 2 >>> 6) &&& 0x03
  if mpeg_id != 1 || protection_absent || profile != 1 then .Invalid
  else
    match adts_sample_rate_hz ((byte header 2 >>> 2) &&& 0x0f).toNat with
    | none => .Invalid
    | some sample_rate_hz =>
      let channel_configuration := ((byte header 2 &&& 0x01) <<< 2) ||| (byte header 3 >>> 6)
      let frame_len := ((byte header 3 &&& 0x03).toNat <<< 11) ||| ((byte header 4).toNat <<< 3) |||
        (byte header 5 >>> 5).toNat
      let buffer_fullness :=
        ((byte header 5 &&& 0x1f).toNat <<< 6) ||| (byte header 6 >>> 2).toNat
      if ¬ (9 ≤ frame_len ∧ frame_len ≤ MAX_AUDIO_FRAME_BYTES) ∨ buffer_fullness = 0x07ff ∨
          byte header 6 &&& 0x03 ≠ 0 then .Invalid
      else
        .Complete
          ⟨.Adts mpeg_id profile sample_rate_hz channel_configuration, 1024, frame_len, 7⟩

def parse_adts_frame_header (bytes : List UInt8) : AudioFrameHeaderParse :=
  if bytes.length < 7 then .NeedMore 7 else adts_header (bytes.take 7)

variable (version : MpegVersion)

def mpeg_audio_sample_rate_hz (index : Nat) : Option Nat :=
  match version with
  | .One => [44100, 48000, 32000][index]?
  | .Two => [22050, 24000, 16000][index]?

def mpeg_audio_bitrates : MpegVersion → MpegLayer → List Nat
  | .One, .One => [32, 64, 96, 128, 160, 192, 224, 256, 288, 320, 352, 384, 416, 448]
  | .One, .Two => [32, 48, 56, 64, 80, 96, 112, 128, 160, 192, 224, 256, 320, 384]
  | .One, .Three => [32, 40, 48, 56, 64, 80, 96, 112, 128, 160, 192, 224, 256, 320]
  | .Two, .One => [32, 48, 56, 64, 80, 96, 112, 128, 144, 160, 176, 192, 224, 256]
  | .Two, _ => [8, 16, 24, 32, 40, 48, 56, 64, 80, 96, 112, 128, 144, 160]

def mpeg_audio_bitrate_kbps (layer : MpegLayer) (index : Nat) : Option Nat := do
  let index ← checked_sub index 1
  (mpeg_audio_bitrates version layer)[index]?

/-- The coefficient of the frame length, and the samples of a frame. -/
def mpeg_audio_coefficient : MpegVersion → MpegLayer → Nat × Nat
  | _, .One => (12, 384)
  | _, .Two => (144, 1152)
  | .One, .Three => (144, 1152)
  | .Two, .Three => (72, 576)

def mpeg_audio_frame_layout (layer : MpegLayer) (bitrate_kbps sample_rate_hz padding : Nat) :
    Option (Nat × Nat) := do
  let (coefficient, sample_count) := mpeg_audio_coefficient version layer
  let product ← checked_mul USIZE_MAX coefficient bitrate_kbps
  let product ← checked_mul USIZE_MAX product 1000
  let quotient ← if sample_rate_hz = 0 then none else some (product / sample_rate_hz)
  let slots ← checked_add USIZE_MAX quotient padding
  let frame_len ← if layer = .One then checked_mul USIZE_MAX slots 4 else some slots
  some (frame_len, sample_count)

def mpeg_version (bits : UInt8) : Option MpegVersion :=
  if bits = 0b11 then some .One else if bits = 0b10 then some .Two else none

def mpeg_layer (bits : UInt8) : Option MpegLayer :=
  if bits = 0b11 then some .One
  else if bits = 0b10 then some .Two
  else if bits = 0b01 then some .Three
  else none

/-- The four bytes of an MPEG audio header. -/
def mpeg_audio_header (header : List UInt8) : Option AudioFrameHeader := do
  let version ← mpeg_version ((byte header 1 >>> 3) &&& 0x03)
  let layer ← mpeg_layer ((byte header 1 >>> 1) &&& 0x03)
  let bitrate_index := (byte header 2 >>> 4).toNat
  let sample_rate_index := ((byte header 2 >>> 2) &&& 0x03).toNat
  if ¬ (1 ≤ bitrate_index ∧ bitrate_index ≤ 14) ∨ 3 ≤ sample_rate_index then none
  let bitrate_kbps ← mpeg_audio_bitrate_kbps version layer bitrate_index
  let sample_rate_hz ← mpeg_audio_sample_rate_hz version sample_rate_index
  let padding := if byte header 2 &&& 0x02 ≠ 0 then 1 else 0
  let (frame_len, sample_count) ←
    mpeg_audio_frame_layout version layer bitrate_kbps sample_rate_hz padding
  if ¬ (4 ≤ frame_len ∧ frame_len ≤ MAX_AUDIO_FRAME_BYTES) then none
  some ⟨.MpegAudio version layer sample_rate_hz (byte header 3 >>> 6), sample_count, frame_len, 4⟩

def parse_mpeg_audio_frame_header (bytes : List UInt8) : AudioFrameHeaderParse :=
  if bytes.length < 4 then .NeedMore 4
  else
    match mpeg_audio_header (bytes.take 4) with
    | none => .Invalid
    | some header => .Complete header

def parse_audio_frame_header (bytes : List UInt8) : AudioFrameHeaderParse :=
  if bytes.length < 2 then .NeedMore 2
  else if byte bytes 0 ≠ 0xff then .Invalid
  else if byte bytes 1 &&& 0xf6 = 0xf0 then parse_adts_frame_header bytes
  else if byte bytes 1 &&& 0xe0 = 0xe0 then parse_mpeg_audio_frame_header bytes
  else .Invalid

/-! ## A header that comes in parts -/

theorem adts_header.means (h : adts_header bytes = .Complete header) :
    header.parsed_header_len = 7 ∧ 7 ≤ header.frame_len := by
  unfold adts_header at h
  dsimp only at h
  iterate 3
    split at h
    · cases h
  rename_i hrange
  cases h
  simp only [not_or, not_not] at hrange
  exact ⟨rfl, Nat.le_trans (by decide) hrange.1.1⟩

theorem mpeg_audio_header.means (h : mpeg_audio_header bytes = some header) :
    header.parsed_header_len = 4 ∧ 4 ≤ header.frame_len := by
  simp only [mpeg_audio_header, Option.bind_eq_bind, Option.bind_eq_some_iff] at h
  obtain ⟨version, _, layer, _, h⟩ := h
  split at h
  · cases h
  simp only [Option.bind_eq_some_iff] at h
  obtain ⟨bitrate_kbps, _, sample_rate_hz, _, ⟨frame_len, sample_count⟩, _, h⟩ := h
  split at h
  · cases h
  rename_i hrange
  cases h
  exact ⟨rfl, (not_not.mp hrange).1⟩

/-- A header that is complete in some bytes, and what the parser says of fewer or more of them. -/
structure Parsed (bytes : List UInt8) (header : AudioFrameHeader) : Prop where
  header_len : header.parsed_header_len ≤ MAX_AUDIO_HEADER_BYTES
  in_frame : header.parsed_header_len ≤ header.frame_len
  came : header.parsed_header_len ≤ bytes.length
  part : ∀ k < header.parsed_header_len, ∃ required_len,
    parse_audio_frame_header (bytes.take k) = .NeedMore required_len ∧
      k < required_len ∧ required_len ≤ header.parsed_header_len
  whole : ∀ k, header.parsed_header_len ≤ k →
    parse_audio_frame_header (bytes.take k) = .Complete header

/-- `inner` is the parser behind the first two bytes, which needs `len` bytes. -/
theorem Parsed.of_inner (len : Nat) (inner : List UInt8 → AudioFrameHeaderParse)
    (houter : ∀ k, 2 ≤ k → parse_audio_frame_header (bytes.take k) = inner (bytes.take k))
    (hshort : ∀ k, k < len → inner (bytes.take k) = .NeedMore len)
    (hwhole : ∀ k, len ≤ k → inner (bytes.take k) = .Complete header)
    (hlen : header.parsed_header_len = len) (htwo : 2 ≤ len) (hmax : len ≤ MAX_AUDIO_HEADER_BYTES)
    (hframe : len ≤ header.frame_len) (hcame : len ≤ bytes.length) : Parsed bytes header where
  header_len := by omega
  in_frame := by omega
  came := by omega
  part := by
    intro k hk
    by_cases htwo' : 2 ≤ k
    · refine ⟨len, ?_, by omega, by omega⟩
      rw [houter k htwo', hshort k (by omega)]
    · refine ⟨2, ?_, by omega, by omega⟩
      rw [parse_audio_frame_header, if_pos (by rw [length_take]; omega)]
  whole := by
    intro k hk
    rw [houter k (by omega), hwhole k (by omega)]

theorem parse_audio_frame_header.parsed (h : parse_audio_frame_header bytes = .Complete header) :
    Parsed bytes header := by
  unfold parse_audio_frame_header at h
  split at h
  · cases h
  split at h
  · cases h
  rename_i hsync
  have hlong : ∀ k, 2 ≤ k → ¬ (bytes.take k).length < 2 := by
    intro k hk
    rw [length_take]
    omega
  split at h
  · rename_i hadts
    unfold parse_adts_frame_header at h
    split at h
    · cases h
    obtain ⟨hlen, hframe⟩ := adts_header.means h
    refine Parsed.of_inner 7 parse_adts_frame_header ?_ ?_ ?_ hlen (by decide) (by decide)
      hframe (by omega)
    · intro k hk
      rw [parse_audio_frame_header, if_neg (hlong k hk), byte_take (by omega), byte_take (by omega),
        if_neg hsync, if_pos hadts]
    · intro k hk
      rw [parse_adts_frame_header, if_pos (by rw [length_take]; omega)]
    · intro k hk
      rw [parse_adts_frame_header, if_neg (by rw [length_take]; omega), take_take,
        Nat.min_eq_left hk, h]
  split at h
  · rename_i hadts hmpeg
    unfold parse_mpeg_audio_frame_header at h
    split at h
    · cases h
    split at h
    · cases h
    rename_i found hfound
    cases h
    obtain ⟨hlen, hframe⟩ := mpeg_audio_header.means hfound
    refine Parsed.of_inner 4 parse_mpeg_audio_frame_header ?_ ?_ ?_ hlen (by decide)
      (by decide) hframe (by omega)
    · intro k hk
      rw [parse_audio_frame_header, if_neg (hlong k hk), byte_take (by omega), byte_take (by omega),
        if_neg hsync, if_neg hadts, if_pos hmpeg]
    · intro k hk
      rw [parse_mpeg_audio_frame_header, if_pos (by rw [length_take]; omega)]
    · intro k hk
      rw [parse_mpeg_audio_frame_header, if_neg (by rw [length_take]; omega), take_take,
        Nat.min_eq_left hk, hfound]
  · cases h

end tuner_hal2_demux.av

open Loops

namespace tuner_hal2_demux.av

def PTS_MODULUS : Nat := 2 ^ 33
def PTS_CLOCK_HZ : Nat := 90000
def MAX_COLD_START_BYTES : Nat := MAX_AUDIO_FRAME_BYTES * 2 + MAX_AUDIO_HEADER_BYTES

structure AudioTimestampAnchor where
  base_pts_90khz : Nat
  signature : AudioFrameSignature
  elapsed_samples : Nat

def AudioTimestampAnchor.next_pts_90khz (a : AudioTimestampAnchor) : Nat :=
  let elapsed_ticks := a.elapsed_samples * PTS_CLOCK_HZ / a.signature.sample_rate_hz
  (a.base_pts_90khz + elapsed_ticks) % PTS_MODULUS

inductive AudioTimestampAssociationFailure
  | MissingAnchor
  | UnsupportedOrMalformedFrames
  | UnannouncedParameterChange
  | OriginChange
  | SampleCountOverflow
  deriving DecidableEq

abbrev AudioResult (α : Type) := Except AudioTimestampAssociationFailure α

structure AudioMediaFrame where
  payload : List UInt8
  metadata : AvMediaEventMetadata
  deriving DecidableEq

structure AudioFrameInProgress where
  bytes : List UInt8
  expected_len : Option Nat
  frame_pts_90khz : Nat
  stream_id : UInt8
  is_pts_present : Bool
  dts_90khz : Option Nat
  is_pes_private_data : Bool
  reanchor : Bool
  deriving DecidableEq

inductive AudioFrameAssembly
  | Boundary
  | Frame (frame : AudioFrameInProgress)
  deriving DecidableEq

structure AudioPesChunk where
  stream_id : UInt8
  (pts_90khz dts_90khz : Option Nat)
  is_pes_private_data : Bool
  data_alignment_indicator : Bool
  payload : List UInt8

def AudioPesChunk.from (packet : PesPacket) : AudioPesChunk where
  stream_id := packet.stream_id
  pts_90khz := packet.pts_90khz
  dts_90khz := packet.dts_90khz
  is_pes_private_data := packet.is_pes_private_data
  data_alignment_indicator := packet.data_alignment_indicator
  payload := packet.payload

/-! ## The start without alignment -/

structure ColdStartAcquisition where
  chunks : List AudioPesChunk
  first_payload_len : Nat
  total_bytes : Nat

namespace ColdStartAcquisition

variable (c : ColdStartAcquisition) (chunk : AudioPesChunk)

def new : AudioResult ColdStartAcquisition :=
  if MAX_COLD_START_BYTES < chunk.payload.length then .error .UnsupportedOrMalformedFrames
  else .ok ⟨[chunk], chunk.payload.length, chunk.payload.length⟩

def probe_with : List UInt8 :=
  let bytes := (c.chunks.map (·.payload)).flatten
  bytes ++ chunk.payload.take (MAX_COLD_START_BYTES - bytes.length)

def push : AudioResult ColdStartAcquisition :=
  match checked_add USIZE_MAX c.total_bytes chunk.payload.length with
  | none => .error .UnsupportedOrMalformedFrames
  | some total_bytes =>
    if MAX_COLD_START_BYTES < total_bytes then .error .UnsupportedOrMalformedFrames
    else .ok { c with total_bytes, chunks := c.chunks ++ [chunk] }

end ColdStartAcquisition

inductive ColdStartCandidateValidation
  | Invalid
  | Pending
  | ConfirmedBoundary (next_offset : Nat)
  deriving DecidableEq

inductive ColdStartDecision
  | Invalid
  | Pending
  | Confirmed (offset : Nat)
  deriving DecidableEq

/-- More bytes may still make a header of the candidate. -/
def header_may_follow (candidate : List UInt8) (required_len : Nat) : Bool :=
  candidate.head? == some 0xff && decide (required_len ≤ MAX_AUDIO_HEADER_BYTES) &&
    decide (candidate.length < required_len)

/-- The header behind a candidate frame. -/
def next_candidate_validation (header : AudioFrameHeader) (next_offset : Nat)
    (next_candidate : List UInt8) : ColdStartCandidateValidation :=
  match parse_audio_frame_header next_candidate with
  | .Complete next_header =>
    if next_header.signature = header.signature then .ConfirmedBoundary next_offset else .Invalid
  | .NeedMore required_len =>
    if header_may_follow next_candidate required_len then .Pending else .Invalid
  | .Invalid => .Invalid

variable (bytes : List UInt8)

def cold_start_candidate_validation (offset : Nat) : ColdStartCandidateValidation :=
  if bytes.length < offset then .Invalid
  else
    match parse_audio_frame_header (bytes.drop offset) with
    | .Complete header =>
      match checked_add USIZE_MAX offset header.frame_len with
      | none => .Invalid
      | some next_offset =>
        if bytes.length ≤ next_offset then .Pending
        else next_candidate_validation header next_offset (bytes.drop next_offset)
    | .NeedMore required_len =>
      if header_may_follow (bytes.drop offset) required_len then .Pending else .Invalid
    | .Invalid => .Invalid

/-- The variables of the search for the first frame. -/
structure ColdStartSearch where
  confirmed : Option (Nat × Nat) := none
  pending_offset : Option Nat := none
  multiple_pending : Bool := false

/-- The search over the offsets. `none` is the early return of a second chain of frames. -/
def ColdStartSearch.run (bytes : List UInt8) : ColdStartSearch → List Nat → Option ColdStartSearch
  | s, [] => some s
  | s, offset :: rest =>
    match cold_start_candidate_validation bytes offset with
    | .ConfirmedBoundary next_offset =>
      match s.confirmed with
      | none => run bytes { s with confirmed := some (offset, next_offset) } rest
      | some (start_offset, chain_next_offset) =>
        if offset = chain_next_offset then
          run bytes { s with confirmed := some (start_offset, next_offset) } rest
        else none
    | .Pending =>
      run bytes { s with
        multiple_pending := s.multiple_pending || s.pending_offset.isSome
        pending_offset := some offset } rest
    | .Invalid => run bytes s rest

def cold_start_decision (first_payload_len : Nat) : ColdStartDecision :=
  let search_len := min (min first_payload_len MAX_AUDIO_FRAME_BYTES) bytes.length
  match ColdStartSearch.run bytes {} (List.range search_len) with
  | none => .Invalid
  | some s =>
    match s.confirmed with
    | some (offset, next_offset) =>
      if s.multiple_pending || s.pending_offset.any (· != next_offset) then .Pending
      else .Confirmed offset
    | none => if s.pending_offset.isSome then .Pending else .Invalid

/-! ## The frames of a chunk -/

structure AudioTimestampAssociation where
  anchor : Option AudioTimestampAnchor := none
  origin : Option TsInputOrigin := none
  assembly : AudioFrameAssembly := .Boundary
  cold_start : Option ColdStartAcquisition := none

/-- The anchor behind the header of a frame. -/
def commit_frame_header (anchor : Option AudioTimestampAnchor) (header : AudioFrameHeader)
    (frame_pts_90khz : Nat) (reanchor : Bool) :
    AudioResult AudioTimestampAnchor :=
  if reanchor then .ok ⟨frame_pts_90khz, header.signature, header.sample_count⟩
  else
    match anchor with
    | none => .error .MissingAnchor
    | some anchor =>
      if anchor.signature ≠ header.signature then .error .UnannouncedParameterChange
      else
        match checked_add U64_MAX anchor.elapsed_samples header.sample_count with
        | none => .error .SampleCountOverflow
        | some elapsed_samples => .ok { anchor with elapsed_samples }

/-- The variables of the header loop. `exit` is set where the loop is left: with a failure, or with
whether the header is complete. `remaining` is the payload from the offset on. -/
structure HeaderVars where
  anchor : Option AudioTimestampAnchor
  frame : AudioFrameInProgress
  remaining : List UInt8
  exit : Option (AudioResult Bool) := none

namespace HeaderVars

variable (v : HeaderVars)

def fail (e : AudioTimestampAssociationFailure) : HeaderVars :=
  { v with exit := some (.error e) }

/-- `consumed` bytes go from the payload to the frame. -/
def consume (consumed : Nat) : HeaderVars :=
  { v with
    frame := { v.frame with bytes := v.frame.bytes ++ v.remaining.take consumed }
    remaining := v.remaining.drop consumed }

def complete (header : AudioFrameHeader) : HeaderVars :=
  if v.frame.bytes.length < header.parsed_header_len then v.fail .UnsupportedOrMalformedFrames
  else
    match commit_frame_header v.anchor header v.frame.frame_pts_90khz v.frame.reanchor with
    | .error e => v.fail e
    | .ok anchor =>
      { v with
        anchor := some anchor
        frame := { v.frame with expected_len := some header.frame_len }
        exit := some (.ok true) }

def turn : ForInStep HeaderVars :=
  match parse_audio_frame_header v.frame.bytes with
  | .NeedMore required_len =>
    if MAX_AUDIO_HEADER_BYTES < required_len ∨ required_len ≤ v.frame.bytes.length then
      .done (v.fail .UnsupportedOrMalformedFrames)
    else
      let v := v.consume (min (required_len - v.frame.bytes.length) v.remaining.length)
      if v.frame.bytes.length < required_len then .done { v with exit := some (.ok false) }
      else .yield v
  | .Complete header => .done (v.complete header)
  | .Invalid => .done (v.fail .UnsupportedOrMalformedFrames)

def size : Nat := MAX_AUDIO_HEADER_BYTES - v.frame.bytes.length

end HeaderVars

namespace AudioTimestampAssociation

def reset (_ : AudioTimestampAssociation) : AudioTimestampAssociation := {}

variable (a : AudioTimestampAssociation) (chunk : AudioPesChunk) (packet : PesPacket)
  (origin : TsInputOrigin)

def next_frame_pts_90khz : AudioResult Nat :=
  match a.anchor with
  | none => .error .MissingAnchor
  | some anchor => .ok anchor.next_pts_90khz

/-- The end of `fill_frame`, with the length of the frame known. -/
def fill_body (frame : AudioFrameInProgress) (remaining : List UInt8)
    (outputs : List AudioMediaFrame) :
    AudioResult (AudioTimestampAssociation × List UInt8 × List AudioMediaFrame) :=
  match frame.expected_len with
  | none => .error .UnsupportedOrMalformedFrames
  | some expected_len =>
    match checked_sub expected_len frame.bytes.length with
    | none => .error .UnsupportedOrMalformedFrames
    | some missing =>
      let consumed := min missing remaining.length
      let frame := { frame with bytes := frame.bytes ++ remaining.take consumed }
      if frame.bytes.length < expected_len then
        .ok ({ a with assembly := .Frame frame }, remaining.drop consumed, outputs)
      else
        .ok ({ a with assembly := .Boundary }, remaining.drop consumed, outputs ++ [
          { payload := frame.bytes
            metadata :=
              { stream_id := frame.stream_id
                is_pts_present := frame.is_pts_present
                pts_90khz := some frame.frame_pts_90khz
                is_dts_present := frame.dts_90khz.isSome
                dts_90khz := frame.dts_90khz
                is_pes_private_data := frame.is_pes_private_data } }])

def fill_frame (remaining : List UInt8) (outputs : List AudioMediaFrame) :
    AudioResult (AudioTimestampAssociation × List UInt8 × List AudioMediaFrame) :=
  match a.assembly with
  | .Boundary => .error .UnsupportedOrMalformedFrames
  | .Frame frame =>
    if frame.expected_len.isNone then
      let v := loop HeaderVars.turn HeaderVars.size { anchor := a.anchor, frame, remaining }
      match v.exit with
      | some (.ok true) => fill_body { a with anchor := v.anchor } v.frame v.remaining outputs
      | some (.ok false) => .ok ({ a with assembly := .Frame v.frame }, v.remaining, outputs)
      | some (.error e) => .error e
      | none => .error .UnsupportedOrMalformedFrames
    else fill_body a frame remaining outputs

/-- The variables of the loop over a chunk. -/
structure ChunkVars where
  association : AudioTimestampAssociation
  remaining : List UInt8
  outputs : List AudioMediaFrame := []
  (explicit_for_first_start dts_for_first_start : Option Nat)
  failure : Option AudioTimestampAssociationFailure := none

variable (v : ChunkVars)

/-- At a boundary a frame begins, with the timestamp of the chunk if no frame had it yet. -/
def ChunkVars.begin_frame (chunk : AudioPesChunk) : AudioResult ChunkVars :=
  match v.association.assembly with
  | .Frame _ => .ok v
  | .Boundary =>
    let begun (frame_pts_90khz : Nat) : ChunkVars :=
      { v with
        explicit_for_first_start := none
        dts_for_first_start := none
        association := { v.association with
          assembly := .Frame
            { bytes := []
              expected_len := none
              frame_pts_90khz
              stream_id := chunk.stream_id
              is_pts_present := chunk.pts_90khz.isSome
              dts_90khz := v.dts_for_first_start
              is_pes_private_data := chunk.is_pes_private_data
              reanchor := v.explicit_for_first_start.isSome } } }
    match v.explicit_for_first_start with
    | some pts_90khz => .ok (begun pts_90khz)
    | none =>
      match v.association.next_frame_pts_90khz with
      | .error e => .error e
      | .ok pts_90khz => .ok (begun pts_90khz)

def ChunkVars.turn : ForInStep ChunkVars :=
  if v.remaining = [] then .done v
  else
    match v.begin_frame chunk with
    | .error e => .done { v with failure := some e }
    | .ok v =>
      match v.association.fill_frame v.remaining v.outputs with
      | .error e => .done { v with failure := some e }
      | .ok (association, remaining, outputs) => .yield { v with association, remaining, outputs }

def ChunkVars.size : Nat :=
  2 * v.remaining.length + (if v.association.assembly = .Boundary then 0 else 1)

def process_chunk (offset : Nat) : AudioResult (AudioTimestampAssociation × List AudioMediaFrame) :=
  if chunk.payload.length ≤ offset then .error .UnsupportedOrMalformedFrames
  else
    let v := loop (ChunkVars.turn chunk) ChunkVars.size
      { association := a
        remaining := chunk.payload.drop offset
        explicit_for_first_start := chunk.pts_90khz
        dts_for_first_start := chunk.dts_90khz }
    match v.failure with
    | some e => .error e
    | none =>
      if v.explicit_for_first_start.isSome then .error .UnsupportedOrMalformedFrames
      else .ok (v.association, v.outputs)

/-! ## The packets -/

/-- The stored chunks once the first frame is found. Only the first one has an offset. -/
def process_chunks (a : AudioTimestampAssociation) (outputs : List AudioMediaFrame) :
    List AudioPesChunk → Nat →
      AudioResult (AudioTimestampAssociation × List AudioMediaFrame)
  | [], _ => .ok (a, outputs)
  | chunk :: rest, offset =>
    match a.process_chunk chunk offset with
    | .error e => .error e
    | .ok (a, more) => process_chunks a (outputs ++ more) rest 0

def start_cold_start : AudioResult (AudioTimestampAssociation × List AudioMediaFrame) :=
  match cold_start_decision chunk.payload chunk.payload.length with
  | .Confirmed offset => a.process_chunk chunk offset
  | .Pending =>
    match ColdStartAcquisition.new chunk with
    | .error e => .error e
    | .ok cold_start => .ok ({ a with cold_start := some cold_start }, [])
  | .Invalid => .error .UnsupportedOrMalformedFrames

def continue_cold_start (cold_start : ColdStartAcquisition) (chunk : AudioPesChunk) :
    AudioResult (AudioTimestampAssociation × List AudioMediaFrame) :=
  match cold_start_decision (cold_start.probe_with chunk) cold_start.first_payload_len with
  | .Confirmed offset =>
    process_chunks { a with cold_start := none } [] (cold_start.chunks ++ [chunk]) offset
  | .Pending =>
    match cold_start.push chunk with
    | .error e => .error e
    | .ok cold_start => .ok ({ a with cold_start := some cold_start }, [])
  | .Invalid => .error .UnsupportedOrMalformedFrames

/-- The state in which a packet of this origin is read. -/
def with_origin : AudioResult AudioTimestampAssociation :=
  if a.origin.any (· != origin) then
    if packet.pts_90khz.isNone then .error .OriginChange
    else .ok { a.reset with origin := some origin }
  else if a.origin.isNone then
    if packet.pts_90khz.isNone then .error .MissingAnchor
    else .ok { a with origin := some origin }
  else .ok a

def extract_inner : AudioResult (AudioTimestampAssociation × List AudioMediaFrame) :=
  if packet.payload.isEmpty then .error .UnsupportedOrMalformedFrames
  else
    match a.with_origin packet origin with
    | .error e => .error e
    | .ok a =>
      let chunk := AudioPesChunk.from packet
      match a.cold_start with
      | some cold_start => a.continue_cold_start cold_start chunk
      | none =>
        if a.anchor.isNone && a.assembly == .Boundary && !chunk.data_alignment_indicator then
          a.start_cold_start chunk
        else a.process_chunk chunk 0

/-- A failure resets the association. -/
def extract : AudioTimestampAssociation × AudioResult (List AudioMediaFrame) :=
  match a.extract_inner packet origin with
  | .error e => (a.reset, .error e)
  | .ok (a, outputs) => (a, .ok outputs)

end AudioTimestampAssociation

end tuner_hal2_demux.av
