-- The packets of the descrambler: the header of a transport stream packet, the
-- key that its scrambling control selects, and the payload that is decrypted
-- in place. A packet that is not descrambled keeps all of its bytes.
import TvStack.HalCommon
import TvStack.Multi2
import TvStack.TsFraming

open List Words

namespace tuner_hal2_descrambler

open tuner_hal2_common

variable {offset : Nat}

def NULL_PID : UInt16 := 0x1fff

/-! ## The Rust functions -/

inductive KeyParity
  | Even
  | Odd
  deriving DecidableEq

structure DescramblerKeySlot where
  even : Option PreparedMulti2Key := none
  odd : Option PreparedMulti2Key := none

def DescramblerKeySlot.key_for (slot : DescramblerKeySlot) : KeyParity → Option PreparedMulti2Key
  | .Even => slot.even
  | .Odd => slot.odd

inductive PassThroughReason
  | ClearPacket
  | ClearAdaptationOnly
  | NullPid
  | PidNotTargeted
  deriving DecidableEq

inductive PacketPolicyAction
  | RecordPassThroughAndDropAssembly
  | DropAndDiagnose
  | DiagnoseOnly
  deriving DecidableEq

inductive DescrambleFailure
  | InvalidPacketSize
  | BadSyncByte
  | InvalidAfc
  | InvalidAdaptationField
  | InvalidTsc
  | TransportErrorRecord
  | ScrambledNullPid
  | ScrambledWithoutPayload
  | NoKey
  | BadToken
  | Multi2Fail
  | ScrambledPidNotRegistered
  deriving DecidableEq

def packet_policy_for_descramble_failure : DescrambleFailure → PacketPolicyAction
  | .NoKey | .ScrambledPidNotRegistered => .RecordPassThroughAndDropAssembly
  | .BadToken | .Multi2Fail => .DiagnoseOnly
  | .InvalidPacketSize | .BadSyncByte | .InvalidAfc | .InvalidAdaptationField | .InvalidTsc
  | .TransportErrorRecord | .ScrambledNullPid | .ScrambledWithoutPayload => .DropAndDiagnose

inductive DescrambleOutcome
  | Descrambled (pid : UInt16) (parity : KeyParity) (payload_offset : Nat)
  | PassedThrough (pid : UInt16) (reason : PassThroughReason)
  deriving DecidableEq

structure TsPacketHeader where
  pid : UInt16
  transport_error_indicator : Bool
  payload_unit_start : Bool
  (transport_scrambling_control adaptation_field_control continuity_counter : UInt8)
  payload_offset : Option Nat
  deriving DecidableEq

variable (packet : List UInt8)

/-- Where the payload begins, behind the adaptation field if there is one. -/
def payload_start (adaptation_field_control : UInt8) : Except DescrambleFailure Nat :=
  if adaptation_field_control = 2 ∨ adaptation_field_control = 3 then
    match checked_add USIZE_MAX 4 (1 + (byte packet 4).toNat) with
    | none => .error .InvalidAdaptationField
    | some offset =>
      if packet.length < offset then .error .InvalidAdaptationField
      else if adaptation_field_control = 3 ∧ TS_PACKET_SIZE ≤ offset then
        .error .InvalidAdaptationField
      else .ok offset
  else .ok 4

/-- The header of a packet whose payload starts at this offset. -/
def header_of (offset : Nat) : TsPacketHeader where
  pid := header_pid (byte packet 1) (byte packet 2)
  transport_error_indicator := (byte packet 1 &&& 0x80) != 0
  payload_unit_start := (byte packet 1 &&& 0x40) != 0
  transport_scrambling_control := (byte packet 3 >>> 6) &&& 0x03
  adaptation_field_control := (byte packet 3 >>> 4) &&& 0x03
  continuity_counter := byte packet 3 &&& 0x0f
  payload_offset := if (byte packet 3 >>> 4) &&& 0x03 = 2 then none else some offset

def parse_ts_packet_header : Except DescrambleFailure TsPacketHeader :=
  if packet.length ≠ TS_PACKET_SIZE then .error .InvalidPacketSize
  else if byte packet 0 ≠ 0x47 then .error .BadSyncByte
  else
    let adaptation_field_control := (byte packet 3 >>> 4) &&& 0x03
    if adaptation_field_control = 0 then .error .InvalidAfc
    else
      match payload_start packet adaptation_field_control with
      | .error failure => .error failure
      | .ok offset => .ok (header_of packet offset)

/-- A clear packet is passed on. -/
def pass_through (header : TsPacketHeader) : DescrambleOutcome :=
  .PassedThrough header.pid
    (if header.pid = NULL_PID then .NullPid
    else if header.payload_offset.isNone then .ClearAdaptationOnly
    else .ClearPacket)

/-- The parity, the payload offset and the key of a packet that is to be descrambled. -/
def select_key (header : TsPacketHeader) (target_pids : List TransportStreamPid)
    (key_slot : DescramblerKeySlot) :
    Except DescrambleFailure (KeyParity × Nat × PreparedMulti2Key) :=
  let parity := if header.transport_scrambling_control = 2 then KeyParity.Even else KeyParity.Odd
  match TransportStreamPid.validate_u16 header.pid with
  | none => .error .InvalidPacketSize
  | some target_pid =>
    if target_pid ∉ target_pids then .error .ScrambledPidNotRegistered
    else
      match header.payload_offset with
      | none => .error .ScrambledWithoutPayload
      | some payload_offset =>
        if TS_PACKET_SIZE ≤ payload_offset then .error .ScrambledWithoutPayload
        else
          match key_slot.key_for parity with
          | none => .error .NoKey
          | some key => .ok (parity, payload_offset, key)

/-- The packet with its payload decrypted, and its scrambling control cleared. -/
def decrypted (payload_offset : Nat) (key : PreparedMulti2Key) : List UInt8 :=
  let packet := packet.take payload_offset ++
    multi2_decrypt_payload (packet.drop payload_offset) key
  packet.set 3 (byte packet 3 &&& 0x3f)

/-- The packet as it is left behind, and the result. -/
def descramble_ts_packet_in_place (target_pids : List TransportStreamPid)
    (key_slot : DescramblerKeySlot) : List UInt8 × Except DescrambleFailure DescrambleOutcome :=
  match parse_ts_packet_header packet with
  | .error failure => (packet, .error failure)
  | .ok header =>
    if header.transport_error_indicator then (packet, .error .TransportErrorRecord)
    else if header.transport_scrambling_control = 0 then (packet, .ok (pass_through header))
    else if header.transport_scrambling_control = 1 then (packet, .error .InvalidTsc)
    else if header.transport_scrambling_control = 2 ∨ header.transport_scrambling_control = 3 then
      if header.pid = NULL_PID then (packet, .error .ScrambledNullPid)
      else
        match select_key header target_pids key_slot with
        | .error failure => (packet, .error failure)
        | .ok (parity, payload_offset, key) =>
          (decrypted packet payload_offset key,
            .ok (.Descrambled header.pid parity payload_offset))
    else (packet, .error .InvalidTsc)

/-! ## The header -/

variable {packet : List UInt8} {target_pids : List TransportStreamPid}
  {key_slot : DescramblerKeySlot} {header : TsPacketHeader}

theorem payload_start.spec {control : UInt8} (h : payload_start packet control = .ok offset) :
    4 ≤ offset ∧ (control = 2 ∨ control = 3 → offset = 5 + (byte packet 4).toNat) ∧
      (¬ (control = 2 ∨ control = 3) → offset = 4) ∧ (control = 3 → offset < TS_PACKET_SIZE) := by
  unfold payload_start checked_add at h
  split at h
  · rename_i hcontrol
    split at h
    · contradiction
    rename_i offset' hoffset
    obtain ⟨hlength, h⟩ := of_check h
    obtain ⟨hfull, h⟩ := of_check h
    cases h
    split at hoffset
    · cases hoffset
      exact ⟨by omega, fun _ => by omega, fun hn => absurd hcontrol hn,
        fun h3 => by simpa [h3] using hfull⟩
    · contradiction
  · rename_i hcontrol
    cases h
    exact ⟨Nat.le_refl 4, fun hc => absurd hc hcontrol, fun _ => rfl,
      fun h3 => absurd (.inr h3) hcontrol⟩

theorem parse_ts_packet_header.spec (h : parse_ts_packet_header packet = .ok header) :
    packet.length = TS_PACKET_SIZE ∧ byte packet 0 = 0x47 ∧
      header.pid = header_pid (byte packet 1) (byte packet 2) ∧
      header.transport_error_indicator = ((byte packet 1 &&& 0x80) != 0) ∧
      header.transport_scrambling_control = (byte packet 3 >>> 6) &&& 0x03 ∧
      header.adaptation_field_control = (byte packet 3 >>> 4) &&& 0x03 ∧
      header.adaptation_field_control ≠ 0 ∧
      ∃ offset, payload_start packet header.adaptation_field_control = .ok offset ∧
        header.payload_offset =
          if header.adaptation_field_control = 2 then none else some offset := by
  obtain ⟨hlength, h⟩ := of_check h
  obtain ⟨hsync, h⟩ := of_check h
  obtain ⟨hcontrol, h⟩ := of_check h
  split at h
  · contradiction
  rename_i offset hoffset
  cases h
  exact ⟨not_not.mp hlength, not_not.mp hsync, rfl, rfl, rfl, rfl, hcontrol, offset, hoffset, rfl⟩

/-- A packet with a sync byte and an adaptation field control is parsed as its payload start is. -/
theorem parse_eq_payload_start (hlength : packet.length = TS_PACKET_SIZE)
    (hsync : byte packet 0 = 0x47) (hcontrol : (byte packet 3 >>> 4) &&& 0x03 ≠ 0) :
    parse_ts_packet_header packet =
      (payload_start packet ((byte packet 3 >>> 4) &&& 0x03)).map (header_of packet) := by
  unfold parse_ts_packet_header
  rw [if_neg (not_not_intro hlength), if_neg (not_not_intro hsync), if_neg hcontrol]
  cases payload_start packet ((byte packet 3 >>> 4) &&& 0x03) <;> rfl

theorem select_key.spec {parity : KeyParity} {key : PreparedMulti2Key}
    (h : select_key header target_pids key_slot = .ok (parity, offset, key)) :
    header.payload_offset = some offset ∧ offset < TS_PACKET_SIZE ∧
      key_slot.key_for parity = some key := by
  unfold select_key at h
  dsimp only at h
  split at h
  · contradiction
  obtain ⟨-, h⟩ := of_check h
  split at h
  · contradiction
  rename_i offset' hoffset
  obtain ⟨hlt, h⟩ := of_check h
  split at h
  · contradiction
  rename_i key' hkey
  cases h
  exact ⟨hoffset, by omega, hkey⟩

/-- All that descrambling can do: a packet is decrypted behind its header, or it is left alone. -/
theorem descramble_cases (packet : List UInt8) (target_pids : List TransportStreamPid)
    (key_slot : DescramblerKeySlot) :
    ((descramble_ts_packet_in_place packet target_pids key_slot).1 = packet ∧
        ∀ pid parity offset, (descramble_ts_packet_in_place packet target_pids key_slot).2 ≠
          .ok (.Descrambled pid parity offset)) ∨
      ∃ header parity offset key, parse_ts_packet_header packet = .ok header ∧
        header.payload_offset = some offset ∧ offset < TS_PACKET_SIZE ∧
        key_slot.key_for parity = some key ∧
        descramble_ts_packet_in_place packet target_pids key_slot =
          (decrypted packet offset key, .ok (.Descrambled header.pid parity offset)) := by
  unfold descramble_ts_packet_in_place
  split
  · exact .inl ⟨rfl, nofun⟩
  rename_i header hheader
  iterate 3
    split
    · exact .inl ⟨rfl, nofun⟩
  split
  · split
    · exact .inl ⟨rfl, nofun⟩
    split
    · exact .inl ⟨rfl, nofun⟩
    rename_i parity offset key hselect
    obtain ⟨hoffset, hlt, hkey⟩ := select_key.spec hselect
    exact .inr ⟨header, parity, offset, key, hheader, hoffset, hlt, hkey, rfl⟩
  · exact .inl ⟨rfl, nofun⟩

/-! ## A packet with another payload -/

/-- The packet with this payload, and with this byte for its scrambling control. -/
def rewritten (packet : List UInt8) (offset : Nat) (payload : List UInt8) (control : UInt8) :
    List UInt8 :=
  (packet.take offset ++ payload).set 3 control

section

variable {offset : Nat} {payload : List UInt8} {control : UInt8}

theorem rewritten_length (hoffset : offset ≤ packet.length)
    (hpayload : payload.length = packet.length - offset) :
    (rewritten packet offset payload control).length = packet.length := by
  simp only [rewritten, length_set, length_append, length_take]
  omega

theorem rewritten_take (h4 : 4 ≤ offset) (hoffset : offset ≤ packet.length) :
    (rewritten packet offset payload control).take offset = (packet.take offset).set 3 control := by
  rw [rewritten, set_append, if_pos (by rw [length_take]; omega)]
  exact take_left' (by rw [length_set, length_take]; omega)

theorem rewritten_drop (h4 : 4 ≤ offset) (hoffset : offset ≤ packet.length) :
    (rewritten packet offset payload control).drop offset = payload := by
  rw [rewritten, set_append, if_pos (by rw [length_take]; omega)]
  exact drop_left' (by rw [length_set, length_take]; omega)

/-- Up to the payload only the byte of the scrambling control is another. -/
theorem rewritten_byte (h4 : 4 ≤ offset) (hoffset : offset ≤ packet.length) {i : Nat}
    (hi : i < offset) : byte (rewritten packet offset payload control) i =
      if i = 3 then control else byte packet i := by
  rw [← byte_take hi, rewritten_take h4 hoffset,
    byte_set control (by rw [length_take]; omega), byte_take hi]

theorem rewritten_again (h4 : 4 ≤ offset) (hoffset : offset ≤ packet.length)
    {payload' : List UInt8} {control' : UInt8} :
    rewritten (rewritten packet offset payload control) offset payload' control' =
      rewritten packet offset payload' control' := by
  rw [rewritten, rewritten_take h4 hoffset, rewritten, set_append,
    if_pos (by rw [length_set, length_take]; omega), set_set, set_append,
    if_pos (by rw [length_take]; omega)]

end

theorem rewritten_same : rewritten packet offset (packet.drop offset) (byte packet 3) = packet := by
  rw [rewritten, take_append_drop]
  refine ext_getElem (length_set) fun i hi hi' => ?_
  rw [getElem_set]
  split
  · rename_i h3
    subst h3
    exact getD_eq_getElem _ _ hi'
  · rfl

theorem decrypted_eq (h4 : 4 ≤ offset) (hoffset : offset ≤ packet.length)
    (key : PreparedMulti2Key) :
    decrypted packet offset key =
      rewritten packet offset (multi2_decrypt_payload (packet.drop offset) key)
        (byte packet 3 &&& 0x3f) := by
  unfold decrypted rewritten
  dsimp only
  rw [byte_append_left _ (by rw [length_take]; omega), byte_take (by omega)]

theorem decrypt_length (key : PreparedMulti2Key) :
    (multi2_decrypt_payload (packet.drop offset) key).length = packet.length - offset := by
  rw [multi2_decrypt_payload, decrypt_cbc_ofb_length, length_drop]

theorem payload_offset_bounds (h : parse_ts_packet_header packet = .ok header)
    (hoffset : header.payload_offset = some offset) : 4 ≤ offset ∧ offset < packet.length := by
  obtain ⟨hlength, -, -, -, -, -, hzero, start, hstart, hpayload⟩ := parse_ts_packet_header.spec h
  obtain ⟨h4, -, hnone, hlt⟩ := payload_start.spec hstart
  rw [hpayload] at hoffset
  split at hoffset
  · contradiction
  cases hoffset
  refine ⟨h4, ?_⟩
  rw [hlength]
  by_cases h3 : header.adaptation_field_control = 3
  · exact hlt h3
  · rw [hnone (not_or.mpr ⟨by assumption, h3⟩)]
    decide

theorem descramble_length (packet : List UInt8) (target_pids : List TransportStreamPid)
    (key_slot : DescramblerKeySlot) :
    (descramble_ts_packet_in_place packet target_pids key_slot).1.length = packet.length := by
  rcases descramble_cases packet target_pids key_slot with ⟨hsame, -⟩ |
    ⟨header, parity, offset, key, hheader, hoffset, -, -, hdecrypted⟩
  · rw [hsame]
  · obtain ⟨h4, hlt⟩ := payload_offset_bounds hheader hoffset
    rw [hdecrypted, decrypted_eq h4 hlt.le, rewritten_length hlt.le (decrypt_length key)]

/-- The header of a rewritten packet is the old one, but for what the rewritten byte says. -/
theorem parse_rewritten {payload : List UInt8} {control : UInt8}
    (h : parse_ts_packet_header packet = .ok header) (hoffset : header.payload_offset = some offset)
    (hpayload : payload.length = packet.length - offset)
    (hcontrol : (control >>> 4) &&& (0x03 : UInt8) = (byte packet 3 >>> 4) &&& 0x03) :
    parse_ts_packet_header (rewritten packet offset payload control) = .ok
      { header with
        transport_scrambling_control := (control >>> 6) &&& 0x03
        continuity_counter := control &&& 0x0f } := by
  obtain ⟨h4, hlt⟩ := payload_offset_bounds h hoffset
  have hbyte : ∀ {i}, i < offset → i ≠ 3 →
      byte (rewritten packet offset payload control) i = byte packet i := fun hi h3 =>
    (rewritten_byte h4 hlt.le hi).trans (if_neg h3)
  have hthree : byte (rewritten packet offset payload control) 3 = control :=
    (rewritten_byte h4 hlt.le (by omega)).trans (if_pos rfl)
  have hlength : (rewritten packet offset payload control).length = packet.length :=
    rewritten_length hlt.le hpayload
  obtain ⟨-, -, -, -, -, hafc, -, start, hstart, hpayload'⟩ := parse_ts_packet_header.spec h
  -- The adaptation field length is read only if there is an adaptation field before the payload.
  have hsame : payload_start (rewritten packet offset payload control)
      ((byte packet 3 >>> 4) &&& 0x03) = payload_start packet ((byte packet 3 >>> 4) &&& 0x03) := by
    rw [← hafc]
    unfold payload_start
    rw [hlength]
    split
    · rename_i hfield
      have hstart' := (payload_start.spec hstart).2.1 hfield
      rw [hpayload'] at hoffset
      split at hoffset
      · contradiction
      · cases hoffset
        rw [hbyte (by omega) (by decide)]
    · rfl
  unfold parse_ts_packet_header header_of
  dsimp only
  rw [hlength, hbyte (by omega) (by decide), hbyte (i := 1) (by omega) (by decide),
    hbyte (i := 2) (by omega) (by decide), hthree, hcontrol, hsame]
  obtain ⟨hsize, h⟩ := of_check h
  obtain ⟨hsync, h⟩ := of_check h
  obtain ⟨hzero, h⟩ := of_check h
  rw [if_neg hsize, if_neg hsync, if_neg hzero]
  split at h
  · contradiction
  · cases h
    rfl

/-! ## Scrambling -/

/-- The scrambling control of a parity. -/
def KeyParity.number : KeyParity → UInt8
  | .Even => 2
  | .Odd => 3

/-- The scrambling control of a parity, in its place in the header. -/
def KeyParity.control : KeyParity → UInt8
  | .Even => 0x80
  | .Odd => 0xc0

/-- A packet as the sender scrambles it: the payload is encrypted, and the scrambling control says
with which key. -/
def scrambled (packet : List UInt8) (offset : Nat) (parity : KeyParity) (key : PreparedMulti2Key) :
    List UInt8 :=
  rewritten packet offset (multi2_encrypt_payload (packet.drop offset) key)
    ((byte packet 3 &&& 0x3f) ||| parity.control)

/-- The byte of the scrambling control, set to a parity and cleared. -/
theorem control_byte (parity : KeyParity) (b : UInt8) :
    ((b &&& 0x3f ||| parity.control) >>> 6) &&& 0x03 = parity.number ∧
      ((b &&& 0x3f ||| parity.control) >>> 4) &&& (0x03 : UInt8) = (b >>> 4) &&& 0x03 ∧
      (b &&& 0x3f ||| parity.control) &&& 0x3f = b &&& 0x3f := by
  revert b
  cases parity <;> exact every_byte (by decide +kernel)

theorem cleared_byte (b : UInt8) : ((b &&& 0x3f) >>> 6) &&& 0x03 = 0 ∧
    ((b &&& 0x3f) >>> 4) &&& (0x03 : UInt8) = (b >>> 4) &&& 0x03 ∧
    (b &&& 0x3f) &&& 0x0f = b &&& 0x0f ∧
    ((b >>> 6) &&& 0x03 = 0 → b &&& 0x3f = b) := by
  revert b
  exact every_byte (by decide +kernel)

theorem encrypt_length (key : PreparedMulti2Key) :
    (multi2_encrypt_payload (packet.drop offset) key).length = packet.length - offset := by
  rw [multi2_encrypt_payload, encrypt_cbc_ofb_length, length_drop]

/-- Decrypting a scrambled packet brings a clear packet back. -/
theorem decrypted_scrambled (h4 : 4 ≤ offset) (hoffset : offset ≤ packet.length)
    (hclear : (byte packet 3 >>> 6) &&& 0x03 = 0) (parity : KeyParity) (key : PreparedMulti2Key) :
    decrypted (scrambled packet offset parity key) offset key = packet := by
  have hlength : (scrambled packet offset parity key).length = packet.length :=
    rewritten_length hoffset (encrypt_length key)
  have hthree : byte (scrambled packet offset parity key) 3 =
      (byte packet 3 &&& 0x3f) ||| parity.control :=
    (rewritten_byte h4 hoffset (by omega)).trans (if_pos rfl)
  rw [decrypted_eq h4 (hlength ▸ hoffset), hthree, (control_byte parity _).2.2, scrambled,
    rewritten_drop h4 hoffset, rewritten_again h4 hoffset, multi2_decrypt_payload,
    multi2_encrypt_payload, decrypt_encrypt_cbc_ofb, (cleared_byte _).2.2.2 hclear, rewritten_same]

/-- A packet that is clear, has a payload, no transport error and a PID that is to be
descrambled. -/
structure Descramblable (packet : List UInt8) (target_pids : List TransportStreamPid)
    (header : TsPacketHeader) (offset : Nat) : Prop where
  parsed : parse_ts_packet_header packet = .ok header
  clear : header.transport_scrambling_control = 0
  payload : header.payload_offset = some offset
  no_error : header.transport_error_indicator = false
  not_null : header.pid ≠ NULL_PID
  targeted : ∃ pid ∈ target_pids, pid.val = header.pid

/-- A scrambled packet is descrambled with the key of its parity. -/
theorem Descramblable.descramble (h : Descramblable packet target_pids header offset)
    (parity : KeyParity) (key : PreparedMulti2Key) (hkey : key_slot.key_for parity = some key) :
    descramble_ts_packet_in_place (scrambled packet offset parity key) target_pids key_slot =
      (packet, .ok (.Descrambled header.pid parity offset)) := by
  obtain ⟨h4, hlt⟩ := payload_offset_bounds h.parsed h.payload
  obtain ⟨hlength, -, -, -, hcontrol, -⟩ := parse_ts_packet_header.spec h.parsed
  have hparsed := parse_rewritten h.parsed h.payload (encrypt_length key)
    (control_byte parity (byte packet 3)).2.1
  obtain ⟨pid, hpid, heq⟩ := h.targeted
  have hvalid : TransportStreamPid.validate_u16 header.pid = some pid := by
    rw [TransportStreamPid.validate_u16, ← heq, dif_pos pid.property]
  have hselect : select_key { header with
        transport_scrambling_control := parity.number
        continuity_counter := ((byte packet 3 &&& 0x3f) ||| parity.control) &&& 0x0f }
      target_pids key_slot = .ok (parity, offset, key) := by
    have hparity : (if parity.number = 2 then KeyParity.Even else .Odd) = parity := by
      cases parity <;> rfl
    simp only [select_key, hvalid, hpid, not_true_eq_false, if_false, h.payload, hparity, hkey]
    rw [if_neg (by omega)]
  rw [(control_byte parity (byte packet 3)).1] at hparsed
  have hscrambled : parity.number ≠ 0 ∧ parity.number ≠ 1 ∧
      (parity.number = 2 ∨ parity.number = 3) := by
    cases parity <;> decide
  unfold descramble_ts_packet_in_place
  rw [scrambled, hparsed, ← scrambled]
  rw [h.no_error] at hselect
  simp only [h.no_error, Bool.false_eq_true, if_false, hscrambled, if_true, h.not_null, hselect]
  rw [decrypted_scrambled h4 hlt.le (hcontrol ▸ h.clear)]

/-- A packet that is refused or passed on keeps all of its bytes. A packet that is descrambled keeps
its header and its adaptation field, but for the scrambling control, which becomes 0. And a clear
packet whose payload was encrypted comes back, with the key in the slot of its parity. -/
theorem descrambling_in_place_is_exact :
    (∀ (packet : TsPacket) (target_pids : List TransportStreamPid) (key_slot : DescramblerKeySlot)
        (result : List UInt8) (outcome : Except DescrambleFailure DescrambleOutcome),
      descramble_ts_packet_in_place packet.val target_pids key_slot = (result, outcome) →
      match outcome with
      | .error _ | .ok (.PassedThrough _ _) => result = packet.val
      | .ok (.Descrambled pid _ offset) =>
        result.length = TS_PACKET_SIZE ∧
        (∃ header, parse_ts_packet_header packet.val = .ok header ∧
          header.payload_offset = some offset ∧ header.pid = pid) ∧
        byte result 3 = byte packet.val 3 &&& 0x3f ∧
        ∀ i < offset, i ≠ 3 → byte result i = byte packet.val i) ∧
    ∀ (packet : TsPacket) (target_pids : List TransportStreamPid) (key_slot : DescramblerKeySlot)
        (header : TsPacketHeader) (offset : Nat) (parity : KeyParity) (key : PreparedMulti2Key),
      Descramblable packet.val target_pids header offset → key_slot.key_for parity = some key →
      descramble_ts_packet_in_place (scrambled packet.val offset parity key) target_pids key_slot =
        (packet.val, .ok (.Descrambled header.pid parity offset)) := by
  refine ⟨?_, fun packet target_pids key_slot header offset parity key h hkey =>
    h.descramble parity key hkey⟩
  intro packet target_pids key_slot result outcome hresult
  rcases descramble_cases packet.val target_pids key_slot with
    ⟨hsame, hnot⟩ | ⟨header, parity, offset, key, hparsed, hoffset, -, -, heq⟩
  · rw [hresult] at hsame hnot
    cases outcome with
    | error failure => exact hsame
    | ok outcome =>
      cases outcome with
      | PassedThrough pid reason => exact hsame
      | Descrambled pid parity offset => exact absurd rfl (hnot pid parity offset)
  · rw [heq] at hresult
    cases hresult
    obtain ⟨h4, hlt⟩ := payload_offset_bounds hparsed hoffset
    rw [decrypted_eq h4 hlt.le]
    refine ⟨?_, ⟨header, hparsed, hoffset, rfl⟩, ?_, fun i hi h3 => ?_⟩
    · exact (rewritten_length hlt.le (decrypt_length key)).trans packet.property
    · exact (rewritten_byte h4 hlt.le (by omega)).trans (if_pos rfl)
    · exact (rewritten_byte h4 hlt.le hi).trans (if_neg h3)

/-- A prepared key whose work key words are all zero, with the default number of rounds. -/
def zeroPrepared : PreparedMulti2Key :=
  { cbc_iv := (0, 0), work_key := Vector.replicate 8 0, rounds := DEFAULT_MULTI2_ROUNDS }

/-- A clear packet of this PID with a payload of 184 bytes. -/
def payloadPacket (pid_high pid_low : UInt8) : TsPacket :=
  ⟨[0x47, pid_high, pid_low, 0x10] ++ List.replicate 184 0xff, rfl⟩

/-- The header of a packet of PID 256. -/
def payloadHeader : TsPacketHeader where
  pid := 0x0100
  transport_error_indicator := false
  payload_unit_start := false
  transport_scrambling_control := 0
  adaptation_field_control := 1
  continuity_counter := 0
  payload_offset := some 4

theorem payload_packet_descramblable :
    Descramblable (payloadPacket 0x01 0x00).val [⟨0x0100, by decide⟩] payloadHeader 4 where
  parsed := by decide +kernel
  clear := rfl
  payload := rfl
  no_error := rfl
  not_null := by decide
  targeted := ⟨_, mem_singleton_self _, rfl⟩

/-- The packet comes back with its key in the odd slot and another key in the even one. -/
theorem the_payload_packet_comes_back :
    descramble_ts_packet_in_place (scrambled (payloadPacket 0x01 0x00).val 4 .Odd zeroPrepared)
        [⟨0x0100, by decide⟩]
        { even := some { zeroPrepared with rounds := 1 }, odd := some zeroPrepared } =
      ((payloadPacket 0x01 0x00).val, .ok (.Descrambled 0x0100 .Odd 4)) :=
  descrambling_in_place_is_exact.2 _ _ _ _ _ .Odd zeroPrepared payload_packet_descramblable rfl

/-- A clear packet of this PID with a payload, once scrambled, is refused and does not come back. -/
abbrev Refused (pid_high pid_low : UInt8) (target_pids : List TransportStreamPid)
    (failure : DescrambleFailure) : Prop :=
  let packet := (payloadPacket pid_high pid_low).val
  let result := descramble_ts_packet_in_place (scrambled packet 4 .Even zeroPrepared) target_pids
    { even := some zeroPrepared }
  (parse_ts_packet_header packet).toOption.map (fun header =>
    (header.transport_scrambling_control, header.payload_offset)) = some (0, some 4) ∧
    result.2 = .error failure ∧ result.1 ≠ packet

/-- The null packet, the packet with a transport error and the packet of another PID are refused. -/
theorem a_scrambled_null_packet_is_refused :
    Refused 0x1f 0xff [⟨0x1fff, by decide⟩] .ScrambledNullPid ∧
      Refused 0x81 0x00 [⟨0x0100, by decide⟩] .TransportErrorRecord ∧
      Refused 0x01 0x00 [] .ScrambledPidNotRegistered := by
  decide +kernel

end tuner_hal2_descrambler
