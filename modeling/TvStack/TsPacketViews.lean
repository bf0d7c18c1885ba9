-- The packets of the demux: `TsPacketView::validate` reads the header and the
-- adaptation field of a packet. Its header is the one that the descrambler reads,
-- but for packets whose adaptation field leaves no room for a payload that their
-- adaptation field control announces.
import TvStack.DescramblerPackets
import TvStack.PesAssembly

open Words

namespace tuner_hal2_demux.packet_pipeline

open tuner_hal2_common tuner_hal2_descrambler

variable {control : UInt8} {offset cursor adaptation_end : Nat} {announced : Bool}

inductive TsPacketValidationError
  | WrongLength
  | MissingSyncByte
  | InvalidAdaptationControl
  | InvalidAdaptationLength
  deriving DecidableEq

/-- What the flags of an adaptation field say. -/
structure AdaptationFlags where
  discontinuity_indicator : Bool := false
  random_access_indicator : Bool := false
  pcr_flag : Bool := false
  pcr_base_90khz : Option Nat := none
  opcr_flag : Bool := false
  splicing_point_flag : Bool := false
  private_data_flag : Bool := false
  adaptation_extension_flag : Bool := false
  deriving DecidableEq

structure TsPacketView where
  pid : PacketPid
  (transport_error_indicator payload_unit_start priority : Bool)
  scrambling_control : UInt8
  continuity_counter : UInt8
  flags : AdaptationFlags
  payload : Option (List UInt8)
  deriving DecidableEq

/-! ## The Rust functions -/

/-- The cursor behind a field of fixed size that a flag announces. -/
def skip_field (announced : Bool) (size cursor adaptation_end : Nat) :
    Except TsPacketValidationError Nat :=
  if ¬ announced then .ok cursor
  else if adaptation_end < cursor + size then .error .InvalidAdaptationLength
  else .ok (cursor + size)

variable (packet : List UInt8)

/-- The cursor behind a field that begins with its length. -/
def skip_sized_field (announced : Bool) (cursor adaptation_end : Nat) :
    Except TsPacketValidationError Nat :=
  if ¬ announced then .ok cursor
  else if adaptation_end ≤ cursor then .error .InvalidAdaptationLength
  else if adaptation_end < cursor + 1 + (byte packet cursor).toNat then
    .error .InvalidAdaptationLength
  else .ok (cursor + 1 + (byte packet cursor).toNat)

def pcr_base (cursor : Nat) : Nat :=
  ((byte packet cursor).toNat <<< 25) ||| ((byte packet (cursor + 1)).toNat <<< 17) |||
    ((byte packet (cursor + 2)).toNat <<< 9) ||| ((byte packet (cursor + 3)).toNat <<< 1) |||
    ((byte packet (cursor + 4)).toNat >>> 7)

/-- The flags of an adaptation field of this length. A flag whose field does not fit into the
adaptation field makes the packet malformed. -/
def adaptation_flags (adaptation_len : Nat) : Except TsPacketValidationError AdaptationFlags :=
  if adaptation_len = 0 then .ok {}
  else do
    let flags := byte packet 5
    let adaptation_end := 5 + adaptation_len
    let pcr_flag := (flags &&& 0x10) != 0
    let opcr_flag := (flags &&& 0x08) != 0
    let splicing_point_flag := (flags &&& 0x04) != 0
    let private_data_flag := (flags &&& 0x02) != 0
    let adaptation_extension_flag := (flags &&& 0x01) != 0
    let opcr ← skip_field pcr_flag 6 6 adaptation_end
    let splicing_point ← skip_field opcr_flag 6 opcr adaptation_end
    let private_data ← skip_field splicing_point_flag 1 splicing_point adaptation_end
    let extension ← skip_sized_field packet private_data_flag private_data adaptation_end
    let _ ← skip_sized_field packet adaptation_extension_flag extension adaptation_end
    .ok
      { discontinuity_indicator := (flags &&& 0x80) != 0
        random_access_indicator := (flags &&& 0x40) != 0
        pcr_flag
        pcr_base_90khz := if pcr_flag then some (pcr_base packet 6) else none
        opcr_flag
        splicing_point_flag
        private_data_flag
        adaptation_extension_flag }

/-- The adaptation field with the offset behind it. -/
def adaptation_field : Except TsPacketValidationError (AdaptationFlags × Nat) :=
  let adaptation_len := (byte packet 4).toNat
  if packet.length < 5 + adaptation_len then .error .InvalidAdaptationLength
  else (adaptation_flags packet adaptation_len).map fun flags => (flags, 5 + adaptation_len)

/-- The adaptation field of a packet, if its control says that there is one, and the offset behind
it. -/
def flags_and_offset (adaptation_control : UInt8) :
    Except TsPacketValidationError (AdaptationFlags × Nat) :=
  if adaptation_control = 2 ∨ adaptation_control = 3 then adaptation_field packet else .ok ({}, 4)

/-- The view of a packet that passes the checks. -/
def view_of (flags : AdaptationFlags) (offset : Nat) : TsPacketView where
  pid := .from_mpeg_ts_header_bytes (byte packet 1) (byte packet 2)
  transport_error_indicator := (byte packet 1 &&& 0x80) != 0
  payload_unit_start := (byte packet 1 &&& 0x40) != 0
  priority := (byte packet 1 &&& 0x20) != 0
  scrambling_control := (byte packet 3 >>> 6) &&& 0x03
  continuity_counter := byte packet 3 &&& 0x0f
  flags
  payload :=
    if (byte packet 3 >>> 4) &&& 0x03 = 2 then none
    else if offset < packet.length then some (packet.drop offset)
    else none

def TsPacketView.validate : Except TsPacketValidationError TsPacketView :=
  if packet.length ≠ TS_PACKET_SIZE then .error .WrongLength
  else if byte packet 0 ≠ 0x47 then .error .MissingSyncByte
  else
    let adaptation_control := (byte packet 3 >>> 4) &&& 0x03
    if adaptation_control = 0 then .error .InvalidAdaptationControl
    else
      match flags_and_offset packet adaptation_control with
      | .error failure => .error failure
      | .ok (flags, offset) => .ok (view_of packet flags offset)

/-! ## What a view says of its packet -/

variable {packet : List UInt8} {view : TsPacketView}

theorem flags_and_offset.spec {flags : AdaptationFlags}
    (h : flags_and_offset packet control = .ok (flags, offset)) (hlength : 4 ≤ packet.length) :
    4 ≤ offset ∧ offset ≤ packet.length ∧
      (control = 2 ∨ control = 3 → offset = 5 + (byte packet 4).toNat ∧
        adaptation_flags packet (byte packet 4).toNat = .ok flags) ∧
      (¬ (control = 2 ∨ control = 3) → flags = {} ∧ offset = 4) := by
  unfold flags_and_offset adaptation_field at h
  split_ifs at h with hfield
  · obtain ⟨hfits, h⟩ := of_check h
    obtain ⟨flags', hflags, heq⟩ :
      ∃ flags', adaptation_flags packet (byte packet 4).toNat = .ok flags' ∧
        (flags', 5 + (byte packet 4).toNat) = (flags, offset) := by
      cases hflags : adaptation_flags packet (byte packet 4).toNat with
      | error failure =>
        rw [hflags] at h
        cases h
      | ok flags' =>
        rw [hflags] at h
        exact ⟨flags', rfl, Except.ok.inj h⟩
    cases heq
    exact ⟨by omega, by omega, fun _ => ⟨rfl, hflags⟩, fun hn => absurd hfield hn⟩
  · cases h
    exact ⟨Nat.le_refl 4, hlength, fun hf => absurd hf hfield, fun _ => ⟨rfl, rfl⟩⟩

theorem validate_iff : TsPacketView.validate packet = .ok view ↔
    packet.length = TS_PACKET_SIZE ∧ byte packet 0 = 0x47 ∧ (byte packet 3 >>> 4) &&& 0x03 ≠ 0 ∧
      ∃ flags offset, flags_and_offset packet ((byte packet 3 >>> 4) &&& 0x03) =
        .ok (flags, offset) ∧ view = view_of packet flags offset := by
  constructor
  · intro h
    obtain ⟨hlength, h⟩ := of_check h
    obtain ⟨hsync, h⟩ := of_check h
    obtain ⟨hcontrol, h⟩ := of_check h
    split at h
    · contradiction
    rename_i flags offset hfield
    exact ⟨not_not.mp hlength, not_not.mp hsync, hcontrol, flags, offset, hfield,
      (Except.ok.inj h).symm⟩
  · rintro ⟨hlength, hsync, hcontrol, flags, offset, hfield, rfl⟩
    unfold TsPacketView.validate
    rw [if_neg (not_not_intro hlength), if_neg (not_not_intro hsync), if_neg hcontrol, hfield]

/-! ## A packet with another payload -/

theorem skip_field.spec {size next : Nat}
    (h : skip_field announced size cursor adaptation_end = .ok next) :
    cursor ≤ next ∧ (announced → cursor + size ≤ adaptation_end) := by
  unfold skip_field at h
  split at h
  · rename_i hoff
    cases h
    exact ⟨le_rfl, fun hon => absurd hon hoff⟩
  · obtain ⟨hfits, h⟩ := of_check h
    cases h
    exact ⟨Nat.le_add_right _ _, fun _ => not_lt.mp hfits⟩

theorem skip_sized_field.spec {next : Nat}
    (h : skip_sized_field packet announced cursor adaptation_end = .ok next) : cursor ≤ next := by
  unfold skip_sized_field at h
  split at h
  · cases h
    exact le_rfl
  obtain ⟨-, h⟩ := of_check h
  obtain ⟨-, h⟩ := of_check h
  cases h
  omega

theorem skip_sized_field_congr {other : List UInt8}
    (h : cursor < adaptation_end → byte other cursor = byte packet cursor) :
    skip_sized_field other announced cursor adaptation_end =
      skip_sized_field packet announced cursor adaptation_end := by
  unfold skip_sized_field
  by_cases hin : cursor < adaptation_end
  · rw [h hin]
  · rw [if_pos (not_lt.mp hin), if_pos (not_lt.mp hin)]

/-- The flags are read from the adaptation field alone. -/
theorem adaptation_flags_congr {other : List UInt8} {len : Nat}
    (h : ∀ i, 4 < i → i < 5 + len → byte other i = byte packet i) :
    adaptation_flags other len = adaptation_flags packet len := by
  unfold adaptation_flags
  by_cases hlen : len = 0
  · rw [if_pos hlen, if_pos hlen]
  simp only [h 5 (by omega) (by omega)]
  cases hpcr : skip_field (byte packet 5 &&& 0x10 != 0) 6 6 (5 + len) with
  | error failure => rfl
  | ok opcr =>
    obtain ⟨hopcr, hfits⟩ := skip_field.spec hpcr
    have hbase : (if (byte packet 5 &&& 0x10 != 0) = true then some (pcr_base other 6) else none) =
        if (byte packet 5 &&& 0x10 != 0) = true then some (pcr_base packet 6) else none := by
      split_ifs with hon
      · have hend := hfits hon
        unfold pcr_base
        rw [h 6 (by omega) (by omega), h 7 (by omega) (by omega), h 8 (by omega) (by omega),
          h 9 (by omega) (by omega), h 10 (by omega) (by omega)]
      · rfl
    rw [hbase]
    simp only [Except.bind, bind]
    cases hopcrs : skip_field (byte packet 5 &&& 0x08 != 0) 6 opcr (5 + len) with
    | error failure => rfl
    | ok splicing_point =>
      simp only []
      cases hsplicing : skip_field (byte packet 5 &&& 0x04 != 0) 1 splicing_point (5 + len) with
      | error failure => rfl
      | ok private_data =>
        have h6 : 6 ≤ private_data :=
          (hopcr.trans (skip_field.spec hopcrs).1).trans (skip_field.spec hsplicing).1
        simp only []
        rw [skip_sized_field_congr (h private_data (by omega))]
        cases hprivate : skip_sized_field packet (byte packet 5 &&& 0x02 != 0) private_data
            (5 + len) with
        | error failure => rfl
        | ok extension =>
          have := skip_sized_field.spec hprivate
          simp only []
          rw [skip_sized_field_congr (h extension (by omega))]

/-- A field that ends before the offset is found in the rewritten packet. -/
theorem flags_and_offset_rewritten {adaptation_control : UInt8} {flags : AdaptationFlags}
    {payload : List UInt8} (h : flags_and_offset packet adaptation_control = .ok (flags, offset))
    (h4 : 4 ≤ packet.length) (hpayload : payload.length = packet.length - offset) :
    flags_and_offset (rewritten packet offset payload control) adaptation_control =
      .ok (flags, offset) := by
  obtain ⟨hle, hlength, hfield, hnone⟩ := flags_and_offset.spec h h4
  by_cases hcontrol : adaptation_control = 2 ∨ adaptation_control = 3
  · obtain ⟨hoffset, hflags⟩ := hfield hcontrol
    have hbyte (i : Nat) (h3 : 3 < i) (hi : i < offset) :
        byte (rewritten packet offset payload control) i = byte packet i := by
      rw [rewritten_byte hle hlength hi, if_neg (by omega)]
    unfold flags_and_offset adaptation_field
    rw [if_pos hcontrol, rewritten_length hlength hpayload, hbyte 4 (by omega) (by omega)]
    rw [if_neg (by omega), adaptation_flags_congr fun i hi hlt => hbyte i (by omega) (by omega),
      hflags, hoffset]
    rfl
  · obtain ⟨rfl, rfl⟩ := hnone hcontrol
    exact if_neg hcontrol

/-- A packet with another payload of the same length, and with another scrambling control, passes
the checks as before. Its view is another only in the payload and in that byte. -/
theorem validate_rewritten {header : TsPacketHeader} {payload : List UInt8}
    (h : TsPacketView.validate packet = .ok view)
    (hheader : parse_ts_packet_header packet = .ok header)
    (hoffset : header.payload_offset = some offset)
    (hpayload : payload.length = packet.length - offset)
    (hcontrol : (control >>> 4) &&& (0x03 : UInt8) = (byte packet 3 >>> 4) &&& 0x03) :
    view.payload = some (packet.drop offset) ∧
      TsPacketView.validate (rewritten packet offset payload control) = .ok
        { view with
          scrambling_control := (control >>> 6) &&& 0x03
          continuity_counter := control &&& 0x0f
          payload := some payload } := by
  obtain ⟨hlength, hsync, hzero, flags, start, hfield, rfl⟩ := validate_iff.mp h
  obtain ⟨h4, hlt⟩ := payload_offset_bounds hheader hoffset
  obtain ⟨-, -, -, -, -, hafc, -, start', hstart', hpayload_offset⟩ :=
    parse_ts_packet_header.spec hheader
  rw [hafc] at hstart' hpayload_offset
  obtain ⟨-, -, hin, hout⟩ := flags_and_offset.spec hfield (by omega)
  obtain ⟨-, hin', hout', -⟩ := payload_start.spec hstart'
  have hafc2 : ¬ ((byte packet 3 >>> 4) &&& 0x03 = 2) := by
    intro h2
    rw [if_pos h2, hoffset] at hpayload_offset
    contradiction
  have hstart : start = offset := by
    rw [if_neg hafc2, hoffset] at hpayload_offset
    cases hpayload_offset
    by_cases hc : (byte packet 3 >>> 4) &&& 0x03 = 2 ∨ (byte packet 3 >>> 4) &&& 0x03 = 3
    · rw [(hin hc).1, hin' hc]
    · rw [(hout hc).2, hout' hc]
  subst hstart
  have hbyte (i : Nat) (hi : i < 4) : byte (rewritten packet start payload control) i =
      if i = 3 then control else byte packet i := rewritten_byte h4 (by omega) (by omega)
  have hb0 := hbyte 0 (by omega)
  have hb1 := hbyte 1 (by omega)
  have hb2 := hbyte 2 (by omega)
  have hb3 := hbyte 3 (by omega)
  rw [if_neg (by omega)] at hb0 hb1 hb2
  rw [if_pos rfl] at hb3
  refine ⟨?_, validate_iff.mpr ⟨?_, ?_, ?_, flags, start, ?_, ?_⟩⟩
  · unfold view_of
    rw [if_neg hafc2, if_pos hlt]
  · rw [rewritten_length (by omega) hpayload, hlength]
  · rw [hb0, hsync]
  · rw [hb3, hcontrol]
    exact hzero
  · rw [hb3, hcontrol]
    exact flags_and_offset_rewritten hfield (by omega) hpayload
  · simp only [view_of, hb1, hb2, hb3, hcontrol, hafc2, hlt, rewritten_length hlt.le hpayload,
      rewritten_drop h4 hlt.le, if_true, if_false]

/-! ## The parser of the descrambler -/

/-- Where the payload starts in a packet of 188 bytes. -/
theorem payload_start_eq (hlength : packet.length = TS_PACKET_SIZE) :
    payload_start packet control =
      if control = 2 ∨ control = 3 then
        if TS_PACKET_SIZE < 5 + (byte packet 4).toNat ∨
            (control = 3 ∧ 5 + (byte packet 4).toNat = TS_PACKET_SIZE) then
          .error .InvalidAdaptationField
        else .ok (5 + (byte packet 4).toNat)
      else .ok 4 := by
  have hfits : checked_add USIZE_MAX 4 (1 + (byte packet 4).toNat) =
    some (5 + (byte packet 4).toNat) := by
    have := (byte packet 4).toNat_lt
    unfold checked_add
    rw [if_pos (by unfold USIZE_MAX; omega), ← Nat.add_assoc]
  unfold payload_start
  rw [hfits, hlength]
  by_cases hlong : TS_PACKET_SIZE < 5 + (byte packet 4).toNat
  · simp only [hlong, if_true, true_or]
  by_cases hfull : 5 + (byte packet 4).toNat = TS_PACKET_SIZE
  · simp only [hfull, Nat.lt_irrefl, if_false, false_or, Nat.le_refl]
  · have hshort : ¬ TS_PACKET_SIZE ≤ 5 + (byte packet 4).toNat := by omega
    simp only [hfull, hshort, if_false, and_false, or_false]

/-- The demux and the descrambler read the same header from a packet that the demux accepts, unless
its adaptation field fills the packet while its control announces a payload. The demux accepts such
a packet without a payload, and the descrambler refuses it. -/
theorem the_two_header_parsers_agree (h : TsPacketView.validate packet = .ok view) :
    ((byte packet 3 >>> 4) &&& 0x03 = 3 ∧ byte packet 4 = 183 →
      view.payload = none ∧ parse_ts_packet_header packet = .error .InvalidAdaptationField) ∧
    (¬ ((byte packet 3 >>> 4) &&& 0x03 = 3 ∧ byte packet 4 = 183) →
      ∃ header, parse_ts_packet_header packet = .ok header ∧ header.pid = view.pid.val ∧
        header.transport_scrambling_control = view.scrambling_control ∧
        header.adaptation_field_control = (byte packet 3 >>> 4) &&& 0x03 ∧
        view.payload = header.payload_offset.map packet.drop ∧
        ∀ offset, header.payload_offset = some offset → offset < packet.length) := by
  obtain ⟨hlength, hsync, hcontrol, flags, offset, hfield, rfl⟩ := validate_iff.mp h
  obtain ⟨h4, hle, hwith, hwithout⟩ := flags_and_offset.spec hfield (hlength ▸ by decide)
  have hfull : byte packet 4 = 183 ↔ 5 + (byte packet 4).toNat = TS_PACKET_SIZE := by
    rw [← UInt8.toNat_inj]
    change (byte packet 4).toNat = 183 ↔ 5 + (byte packet 4).toNat = 188
    omega
  rw [parse_eq_payload_start hlength hsync hcontrol]
  constructor
  · rintro ⟨hthree, hbyte⟩
    have hoffset := (hwith (.inr hthree)).1
    have hpayload : ¬ offset < packet.length := by rw [hoffset, hfull.mp hbyte]; omega
    refine ⟨?_, ?_⟩
    · simp only [view_of, hpayload, if_false, ite_self]
    · rw [payload_start_eq hlength, if_pos (.inr hthree),
        if_pos (.inr ⟨hthree, hfull.mp hbyte⟩)]
      rfl
  · intro hroom
    have hstart : payload_start packet ((byte packet 3 >>> 4) &&& 0x03) = .ok offset := by
      rw [payload_start_eq hlength]
      by_cases hfield' : (byte packet 3 >>> 4) &&& 0x03 = 2 ∨ (byte packet 3 >>> 4) &&& 0x03 = 3
      · have hoffset := (hwith hfield').1
        rw [if_pos hfield', if_neg, hoffset]
        rintro (hlong | ⟨hthree, hend⟩)
        · omega
        · exact hroom ⟨hthree, hfull.mpr hend⟩
      · rw [if_neg hfield', (hwithout hfield').2]
    have hbounds : (byte packet 3 >>> 4) &&& 0x03 ≠ 2 → offset < packet.length := by
      intro htwo
      by_cases hthree : (byte packet 3 >>> 4) &&& 0x03 = 3
      · have hoffset := (hwith (.inr hthree)).1
        have hend : ¬ 5 + (byte packet 4).toNat = TS_PACKET_SIZE := fun hend =>
          hroom ⟨hthree, hfull.mpr hend⟩
        omega
      · rw [(hwithout (not_or.mpr ⟨htwo, hthree⟩)).2, hlength]
        decide
    refine ⟨header_of packet offset, by rw [hstart]; rfl, rfl, rfl, rfl, ?_, ?_⟩
    · simp only [view_of, header_of]
      split
      · rfl
      rename_i htwo
      rw [if_pos (hbounds htwo)]
      rfl
    · intro offset' hpayload
      simp only [header_of] at hpayload
      split at hpayload
      · contradiction
      rename_i htwo
      cases hpayload
      exact hbounds htwo

/-- A clear packet of PID 256 with an adaptation field and one byte of payload behind it. -/
def bytePacket : TsPacket := ⟨[0x47, 0x01, 0x00, 0x30, 182, 0x00] ++ List.replicate 182 0xff, rfl⟩

def byteView : TsPacketView where
  pid := ⟨0x0100, low_pid⟩
  transport_error_indicator := false
  payload_unit_start := false
  priority := false
  scrambling_control := 0
  continuity_counter := 0
  flags := {}
  payload := some [0xff]

theorem the_parsers_agree_on_a_payload_packet :
    TsPacketView.validate bytePacket.val = .ok byteView ∧
      ∃ header, parse_ts_packet_header bytePacket.val = .ok header ∧ header.pid = byteView.pid.val ∧
        byteView.payload = header.payload_offset.map bytePacket.val.drop := by
  have hview : TsPacketView.validate bytePacket.val = .ok byteView := by decide +kernel
  have hroom : ¬ ((byte bytePacket.val 3 >>> 4) &&& 0x03 = 3 ∧ byte bytePacket.val 4 = 183) := by
    decide +kernel
  obtain ⟨header, hparsed, hpid, -, -, hpayload, -⟩ :=
    (the_two_header_parsers_agree hview).2 hroom
  exact ⟨hview, header, hparsed, hpid, hpayload⟩

/-- A packet of PID 256 with a payload announced and an adaptation field of 183 bytes. -/
def fullAdaptation : TsPacket :=
  ⟨[0x47, 0x01, 0x00, 0x30, 183, 0x00] ++ List.replicate 182 0xff, rfl⟩

theorem a_full_adaptation_field_divides_the_parsers :
    (TsPacketView.validate fullAdaptation.val).toOption.isSome ∧
      parse_ts_packet_header fullAdaptation.val = .error .InvalidAdaptationField := by
  decide +kernel

end tuner_hal2_demux.packet_pipeline
