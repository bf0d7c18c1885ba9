-- The codec facts in the descriptors of an elementary stream: the AVC and the
-- MPEG-4 audio descriptors, and the header of an audio specific config.
import TvStack.Words

open Words

namespace arib_si_engine_rs.ca_descriptor

def hex_digit (n : Nat) : Char := if n < 10 then Char.ofNat (48 + n) else Char.ofNat (87 + n)

def hex_prefix (bytes : List UInt8) (limit : Nat) : String :=
  String.ofList ((bytes.take limit).flatMap fun b =>
    [hex_digit (b.toNat / 16), hex_digit (b.toNat % 16)])

end arib_si_engine_rs.ca_descriptor

namespace arib_si_engine_rs.codec_signaling

open arib_si_engine_rs.ca_descriptor

structure AvcSignaling where
  (profile_idc constraint_flags level_idc : UInt8)
  deriving DecidableEq

structure AudioSpecificConfigHeader where
  (audio_object_type sampling_frequency channel_configuration : Nat)
  (extension_sampling_frequency core_audio_object_type channel_count : Option Nat)
  deriving DecidableEq

structure Mpeg4AudioExtension where
  profile_level_indications : List UInt8
  audio_specific_config_hex : Option String
  header : Option AudioSpecificConfigHeader
  deriving DecidableEq

structure CodecDescriptorFacts where
  avc : Option AvcSignaling := none
  mpeg4_audio_profile_and_level : Option UInt8 := none
  audio_extension : Option Mpeg4AudioExtension := none
  malformed : Bool := false
  raw_descriptors_hex : String := ""

def hex (bytes : List UInt8) : String := hex_prefix bytes bytes.length

/-! ## The bits of an audio config -/

structure AudioConfigBits where
  bytes : List UInt8
  offset : Nat

/-- A reader of the bits, which fails behind the last byte. -/
abbrev BitReader := StateT AudioConfigBits Option

def read_bit : BitReader Nat := fun bits =>
  match bits.bytes[bits.offset / 8]? with
  | none => none
  | some b =>
    some (b.toNat / 2 ^ (7 - bits.offset % 8) % 2, { bits with offset := bits.offset + 1 })

def read_onto (value : Nat) : Nat → BitReader Nat
  | 0 => pure value
  | count + 1 => do
    let bit ← read_bit
    read_onto (2 * value + bit) count

def read (count : Nat) : BitReader Nat := read_onto 0 count

def audio_frequency (index : Nat) : Option Nat :=
  [96000, 88200, 64000, 48000, 44100, 32000, 24000, 22050, 16000, 12000, 11025, 8000, 7350][index]?

def object_type : BitReader Nat := do
  let value ← read 5
  if value = 31 then
    let more ← read 6
    return 32 + more
  else return value

def frequency : BitReader Nat := do
  let index ← read 4
  if index = 15 then
    let value ← read 24
    if value = 0 then failure else return value
  else StateT.lift (audio_frequency index)

def channel_count_for_configuration (configuration : Nat) : Option Nat :=
  if 1 ≤ configuration ∧ configuration ≤ 6 then some configuration
  else if configuration = 7 ∨ configuration = 12 ∨ configuration = 14 then some 8
  else if configuration = 11 then some 7
  else if configuration = 13 then some 24
  else none

structure ProgramConfig where
  object_type : Nat
  (frequency_index channel_count fields_start fields_end comment_start comment_end : Nat)

/-- The elements of the channels: single ones and pairs, each named once. -/
def read_channels (tags : List (Nat × Nat)) (channel_count : Nat) :
    Nat → BitReader (List (Nat × Nat) × Nat)
  | 0 => pure (tags, channel_count)
  | n + 1 => do
    let pair ← read 1
    let tag ← read 4
    if (pair, tag) ∈ tags then failure
    else read_channels ((pair, tag) :: tags) (channel_count + if pair = 1 then 2 else 1) n

def read_lfe (tags : List (Nat × Nat)) (channel_count : Nat) :
    Nat → BitReader (List (Nat × Nat) × Nat)
  | 0 => pure (tags, channel_count)
  | n + 1 => do
    let tag ← read 4
    if (3, tag) ∈ tags then failure
    else read_lfe ((3, tag) :: tags) (channel_count + 1) n

def skip_associated : Nat → BitReader Unit
  | 0 => pure ()
  | n + 1 => do
    let _ ← read 4
    skip_associated n

/-- The comment behind the fields, which starts at a byte. -/
def read_comment : BitReader (Nat × Nat) := do
  let bits ← get
  let comment_start := (bits.offset + 7) / 8
  set { bits with offset := comment_start * 8 }
  let comment_count ← read 8
  let comment_end := comment_start + (1 + comment_count)
  if bits.bytes.length < comment_end then failure
  else
    set { bits with offset := comment_end * 8 }
    return (comment_start, comment_end)

def parse_program_config : BitReader ProgramConfig := do
  let fields_start := (← get).offset
  let _ ← read 4
  let object_type := (← read 2) + 1
  let frequency_index ← read 4
  let _ ← StateT.lift (audio_frequency frequency_index)
  let front ← read 4
  let side ← read 4
  let back ← read 4
  let lfe ← read 2
  let associated ← read 3
  if (← read 4) ≠ 0 then failure
  if (← read 1) ≠ 0 then failure
  if (← read 1) ≠ 0 then failure
  if (← read 1) ≠ 0 then
    let _ ← read 3
  let (tags, channel_count) ← read_channels [] 0 (front + side + back)
  let (_, channel_count) ← read_lfe tags channel_count lfe
  skip_associated associated
  if channel_count = 0 then failure
  let fields_end := (← get).offset
  let (comment_start, comment_end) ← read_comment
  return { object_type, frequency_index, channel_count, fields_start, fields_end, comment_start,
           comment_end }

/-- The channels of a core with a program config, or with a configuration. -/
def asc_channel_count (bits : AudioConfigBits) (core_type sampling_frequency
    channel_configuration : Nat) : Option Nat :=
  if core_type = 2 ∧ channel_configuration = 0 then
    match (read 3).run bits with
    | some (0, bits) =>
      match parse_program_config.run bits with
      | some (config, _) =>
        if config.object_type = core_type ∧
            audio_frequency config.frequency_index = some sampling_frequency then
          some config.channel_count
        else none
      | none => none
    | _ => none
  else if core_type = 2 ∨ core_type = 5 ∨ core_type = 29 then
    channel_count_for_configuration channel_configuration
  else none

def parse_asc_fields : BitReader AudioSpecificConfigHeader := do
  let audio_object_type ← object_type
  let sampling_frequency ← frequency
  let channel_configuration ← read 4
  let extended := audio_object_type = 5 ∨ audio_object_type = 29
  let extension_sampling_frequency ← if extended then some <$> frequency else pure none
  let core_audio_object_type ← if extended then some <$> object_type else pure none
  let core_type := core_audio_object_type.getD audio_object_type
  let bits ← get
  return {
    audio_object_type
    sampling_frequency
    channel_configuration
    extension_sampling_frequency
    core_audio_object_type
    channel_count := asc_channel_count bits core_type sampling_frequency channel_configuration }

def parse_asc_header (bytes : List UInt8) : Option AudioSpecificConfigHeader :=
  (parse_asc_fields.run ⟨bytes, 0⟩).map Prod.fst

/-! ## The descriptors -/

/-- A value is installed once; a second one must be equal. -/
def install {α : Type} [DecidableEq α] (slot : Option α) (value : α) : Option α × Bool :=
  match slot with
  | some current => (slot, decide (current = value))
  | none => (some value, true)

def is_als_profile (value : UInt8) : Bool := value = 0x3c ∨ (0x5a ≤ value ∧ value ≤ 0x5c)

def is_aac_profile (value : UInt8) : Bool :=
  (0x28 ≤ value ∧ value ≤ 0x33) ∨ (0x50 ≤ value ∧ value ≤ 0x55)

/-- The audio specific config behind the profiles: none, or all the rest behind its size. -/
def extension_asc (flags : UInt8) (rest : List UInt8) : Option (Option (List UInt8)) :=
  if (flags &&& 0x80) != 0 then
    match rest with
    | [] => none
    | size :: asc => if size = 0 ∨ size.toNat ≠ asc.length then none else some (some asc)
  else if rest ≠ [] then none
  else some none

def parse_audio_extension (body : List UInt8) : Option Mpeg4AudioExtension := do
  let flags ← body.head?
  if (flags &&& 0x70) != 0x70 then failure
  let count := (flags &&& 0x0f).toNat
  if body.length < 1 + count then failure
  let profiles := (body.drop 1).take count
  let asc ← extension_asc flags (body.drop (1 + count))
  let header ← match asc with
    | some bytes => some <$> parse_asc_header bytes
    | none => some none
  let als_profile := profiles.any is_als_profile
  let aac_profile := profiles.any is_aac_profile
  if (als_profile && (aac_profile || header.any (·.audio_object_type != 36))) ||
      (aac_profile && header.any (·.audio_object_type == 36)) then failure
  return {
    profile_level_indications := profiles
    audio_specific_config_hex := asc.map hex
    header }

def CodecDescriptorFacts.observe (facts : CodecDescriptorFacts) (tag : UInt8) (body : List UInt8) :
    CodecDescriptorFacts :=
  if tag ≠ 0x28 ∧ tag ≠ 0x1c ∧ tag ≠ 0x2e then facts
  else
    let facts := { facts with
      raw_descriptors_hex :=
        facts.raw_descriptors_hex ++ hex [tag, UInt8.ofNat body.length] ++ hex body }
    let bad := { facts with malformed := true }
    if tag = 0x28 ∧ body.length = 4 ∧ (byte body 1 &&& 3) = 0 ∧ (byte body 3 &&& 0x1f) = 0x1f then
      let (avc, valid) := install facts.avc ⟨byte body 0, byte body 1, byte body 2⟩
      { facts with avc, malformed := facts.malformed || !valid }
    else if tag = 0x1c ∧ body.length = 1 then
      let (mpeg4_audio_profile_and_level, valid) :=
        install facts.mpeg4_audio_profile_and_level (byte body 0)
      { facts with mpeg4_audio_profile_and_level, malformed := facts.malformed || !valid }
    else if tag = 0x2e then
      match parse_audio_extension body with
      | none => bad
      | some value =>
        let (audio_extension, valid) := install facts.audio_extension value
        { facts with audio_extension, malformed := facts.malformed || !valid }
    else bad

end arib_si_engine_rs.codec_signaling
