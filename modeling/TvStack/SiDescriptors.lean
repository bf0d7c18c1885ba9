-- The descriptors of the service information that discovery reads: conditional
-- access, elementary streams, service lists, names, and system management.
import TvStack.CodecSignaling
import TvStack.SiSections

open Items Words

namespace arib_si_engine_rs.ca_descriptor

open arib_si_engine_rs.sections

structure CaDescriptor where
  ca_system_id : Nat
  ca_pid : Nat
  (private_data raw_descriptor : List UInt8)

inductive CaScope
  | CAT
  | PMT_PROGRAM
  | PMT_ES
  deriving DecidableEq

inductive CaDefect
  | TRUNCATED_CA_DESCRIPTOR
  | SHORT_CA_DESCRIPTOR
  deriving DecidableEq

structure CaDescriptorParseContext where
  pid : Nat
  table_id : UInt8
  (table_id_extension service_id elementary_pid : Option Nat)
  scope : CaScope
  deriving DecidableEq

structure MalformedCaDescriptorDiagnostic where
  context : CaDescriptorParseContext
  (offset declared_length actual_remaining_length : Nat)
  reason : CaDefect
  raw_prefix_hex : String

structure CaDescriptorParseResult where
  descriptors : List CaDescriptor
  diagnostics : List MalformedCaDescriptorDiagnostic

variable (context : CaDescriptorParseContext)

def malformed_diagnostic (offset declared_length actual_remaining_length : Nat) (reason : CaDefect)
    (raw : List UInt8) : MalformedCaDescriptorDiagnostic :=
  ⟨context, offset, declared_length, actual_remaining_length, reason, hex_prefix raw 16⟩

/-- The whole descriptor with this tag and this body. -/
def raw_descriptor (tag : UInt8) (body : List UInt8) : List UInt8 :=
  tag :: UInt8.ofNat body.length :: body

/-- What is pushed for a complete descriptor of a loop of `total` bytes, at the cursor. -/
def ca_step (total : Nat) (s : Nat × CaDescriptorParseResult) (item : UInt8 × List UInt8) :
    Nat × CaDescriptorParseResult :=
  let (cursor, result) := s
  let (tag, body) := item
  let stop := cursor + 2 + body.length
  if tag ≠ 0x09 then (stop, result)
  else if 4 ≤ body.length then
    let descriptor : CaDescriptor :=
      { ca_system_id := be16 (byte body 0) (byte body 1)
        ca_pid := be13 (byte body 2) (byte body 3)
        private_data := body.drop 4
        raw_descriptor := raw_descriptor tag body }
    (stop, { result with descriptors := result.descriptors ++ [descriptor] })
  else
    let diagnostic := malformed_diagnostic context cursor body.length (total - (cursor + 2))
      .SHORT_CA_DESCRIPTOR (raw_descriptor tag body)
    (stop, { result with diagnostics := result.diagnostics ++ [diagnostic] })

/-- The descriptor that is cut by the end of the loop, if it is one of conditional access. -/
def truncated_ca_diagnostic (total : Nat) (rest : List UInt8) :
    List MalformedCaDescriptorDiagnostic :=
  if 2 ≤ rest.length ∧ byte rest 0 = 0x09 then
    [malformed_diagnostic context (total - rest.length) (byte rest 1).toNat (rest.length - 2)
      .TRUNCATED_CA_DESCRIPTOR rest]
  else []

def parse_ca_descriptors_with_diagnostics (descriptors : List UInt8)
    (context : CaDescriptorParseContext) : CaDescriptorParseResult :=
  let (items, rest) := cut next_descriptor descriptors
  let result := (items.foldl (ca_step context descriptors.length) (0, ⟨[], []⟩)).2
  { result with
    diagnostics := result.diagnostics ++ truncated_ca_diagnostic context descriptors.length rest }

end arib_si_engine_rs.ca_descriptor

namespace arib_si_engine_rs.service_discovery

open arib_si_engine_rs.sections arib_si_engine_rs.ca_descriptor
open arib_si_engine_rs.codec_signaling (CodecDescriptorFacts)

/-! ## Elementary streams -/

structure DiscoveredElementaryStream where
  codec_facts : CodecDescriptorFacts := {}
  elementary_pid : Nat
  stream_type : UInt8
  component_tag : Option UInt8 := none
  stream_content : Option UInt8 := none
  component_type : Option UInt8 := none
  data_component_id : Option Nat := none
  caption_dmf : Option UInt8 := none
  caption_timing : Option UInt8 := none
  automatic_presentation_on_reception : Option Bool := none
  language_codes : List String := []
  is_caption : Bool := false
  is_superimpose : Bool := false

/-- How many bytes may follow this first byte, and the range of the second one. -/
def utf8_lead (b : UInt8) : Nat × UInt8 × UInt8 :=
  if 0xc2 ≤ b ∧ b ≤ 0xdf then (1, 0x80, 0xbf)
  else if b = 0xe0 then (2, 0xa0, 0xbf)
  else if b = 0xed then (2, 0x80, 0x9f)
  else if 0xe1 ≤ b ∧ b ≤ 0xef then (2, 0x80, 0xbf)
  else if b = 0xf0 then (3, 0x90, 0xbf)
  else if b = 0xf4 then (3, 0x80, 0x8f)
  else if 0xf1 ≤ b ∧ b ≤ 0xf3 then (3, 0x80, 0xbf)
  else (0, 0, 0)

/-- The bytes that continue a character. -/
def utf8_continuation : Nat → UInt8 → UInt8 → List UInt8 → List UInt8
  | n + 1, low, high, b :: rest =>
    if low ≤ b ∧ b ≤ high then b :: utf8_continuation n 0x80 0xbf rest else []
  | _, _, _, _ => []

/-- The next character. A maximal part of a character that is not one is replaced as a whole. -/
def utf8_char : List UInt8 → Option (Char × List UInt8)
  | [] => none
  | b :: rest =>
    if b < 0x80 then some (Char.ofNat b.toNat, rest)
    else
      let (count, low, high) := utf8_lead b
      let continuation := utf8_continuation count low high rest
      if count ≠ 0 ∧ continuation.length = count then
        let value := continuation.foldl (fun v c => v * 64 + c.toNat % 64)
          (b.toNat % 2 ^ (6 - count))
        some (Char.ofNat value, rest.drop count)
      else some (Char.ofNat 0xfffd, rest.drop continuation.length)

def from_utf8_lossy (bytes : List UInt8) : String := String.ofList (cut utf8_char bytes).1

def push_language (codes : List String) (bytes : List UInt8) : List String :=
  if from_utf8_lossy bytes = "" then codes else codes ++ [from_utf8_lossy bytes]

/-- What the decoder of ARIB strings gives: the text, how many characters it replaced, and the
summary of these. -/
structure DecodedAribString where
  value : String
  replacement_count : Nat
  summary : String

/-- The decoder of ARIB strings, with its tables of characters. -/
abbrev AribStringDecoder := List UInt8 → DecodedAribString

variable (decode : AribStringDecoder) (stream : DiscoveredElementaryStream)
  (descriptors : List UInt8) (body : List UInt8)

def apply_arib_caption_data_component_info : DiscoveredElementaryStream :=
  match body[2]? with
  | none => stream
  | some additional_info =>
    let dmf := additional_info >>> 4
    let timing := additional_info &&& 0x03
    let stream := { stream with
      caption_dmf := some dmf
      caption_timing := some timing
      automatic_presentation_on_reception :=
        if dmf = 0x03 then some true else if dmf = 0x0f then none else some false }
    if timing = 0x01 then { stream with is_caption := true }
    else if timing = 0x00 ∨ timing = 0x02 then { stream with is_superimpose := true }
    else stream

/-- The languages of an ISO 639 descriptor, in entries of four bytes. -/
def iso_639_languages : List (List UInt8) :=
  (cut (sized 4 (fun _ => 0) fun entry _ => entry.take 3) body).1

def apply_es_descriptor (tag : UInt8) (body : List UInt8) : DiscoveredElementaryStream :=
  let stream := { stream with codec_facts := stream.codec_facts.observe tag body }
  if tag = 0x52 ∧ body ≠ [] then { stream with component_tag := some (byte body 0) }
  else if tag = 0x50 ∧ 5 ≤ body.length then
    { stream with
      stream_content := some (byte body 0 &&& 0x0f)
      component_type := some (byte body 1)
      component_tag := some (byte body 2)
      language_codes :=
        if 6 ≤ body.length then push_language stream.language_codes (slice body 3 6)
        else stream.language_codes }
  else if tag = 0xc4 ∧ 9 ≤ body.length then
    let first := push_language stream.language_codes (slice body 6 9)
    { stream with
      stream_content := some (byte body 0 &&& 0x0f)
      component_type := some (byte body 1)
      component_tag := some (byte body 2)
      language_codes :=
        if 12 ≤ body.length ∧ (byte body 5 &&& 0x80) ≠ 0 then push_language first (slice body 9 12)
        else first }
  else if tag = 0x0a then
    { stream with
      language_codes := (iso_639_languages body).foldl push_language stream.language_codes }
  else if tag = 0xfd ∧ 2 ≤ body.length then
    let data_component_id := be16 (byte body 0) (byte body 1)
    let stream := { stream with data_component_id := some data_component_id }
    if data_component_id = 0x0008 then apply_arib_caption_data_component_info stream body
    else if data_component_id = 0x0012 then { stream with is_caption := true }
    else stream
  else stream

def apply_es_descriptors : DiscoveredElementaryStream :=
  let stream := (cut next_descriptor descriptors).1.foldl
    (fun stream item => apply_es_descriptor stream item.1 item.2) stream
  { stream with language_codes := stream.language_codes.eraseDups }

/-! ## Texts -/

structure DecodedSiText where
  value : String
  diagnostic : Option String

def DecodedSiText.of (field : String) (decoded : DecodedAribString) : DecodedSiText where
  value := decoded.value
  diagnostic :=
    if decoded.replacement_count ≠ 0 then
      some ("文字列を代替復号しました field=" ++ field ++ ": " ++ decoded.summary)
    else none

def decode_si_text_lossy (decode_arib_string_lossy : AribStringDecoder) (field : String)
    (bytes : List UInt8) : DecodedSiText := .of field (decode_arib_string_lossy bytes)

def MAX_TEXT_DECODE_DIAGNOSTICS_PER_OWNER : Nat := 32

def retain_text_decode_diagnostic (diagnostics : List String) (diagnostic : Option String) :
    List String :=
  match diagnostic with
  | none => diagnostics
  | some diagnostic =>
    if diagnostic ∈ diagnostics then diagnostics
    else if MAX_TEXT_DECODE_DIAGNOSTICS_PER_OWNER ≤ diagnostics.length then
      diagnostics.drop 1 ++ [diagnostic]
    else diagnostics ++ [diagnostic]

/-- The text in the first descriptor with this tag. -/
def parse_name (wanted : UInt8) (field : String) (descriptors : List UInt8) :
    Option DecodedSiText :=
  ((cut next_descriptor descriptors).1.find? (·.1 = wanted)).map fun item =>
    decode_si_text_lossy decode field item.2

def parse_network_name : List UInt8 → Option DecodedSiText :=
  parse_name decode 0x40 "networkName"

def parse_bouquet_name : List UInt8 → Option DecodedSiText :=
  parse_name decode 0x47 "bouquetName"

structure NitTransportMetadata where
  network_name : Option DecodedSiText := none
  ts_name : Option DecodedSiText := none
  remote_control_key_id : Option UInt8 := none

def apply_nit_transport_descriptor (metadata : NitTransportMetadata) (tag : UInt8)
    (body : List UInt8) : NitTransportMetadata :=
  if tag = 0x40 then
    { metadata with network_name := some (decode_si_text_lossy decode "networkName" body) }
  else if tag = 0xcd ∧ 2 ≤ body.length then
    let ts_name_len := ((byte body 1 >>> 2) &&& 0x3f).toNat
    { metadata with
      remote_control_key_id := some (byte body 0)
      ts_name :=
        if ts_name_len ≤ body.length - 2 then
          some (decode_si_text_lossy decode "transportStreamName" ((body.drop 2).take ts_name_len))
        else metadata.ts_name }
  else metadata

def parse_nit_transport_metadata : NitTransportMetadata :=
  (cut next_descriptor descriptors).1.foldl
    (fun metadata item => apply_nit_transport_descriptor decode metadata item.1 item.2) {}

/-! ## Service lists -/

/-- The services in the body of a service list descriptor, each with its type. -/
def listed_services (body : List UInt8) : List (Nat × UInt8) :=
  (cut (sized 3 (fun _ => 0) fun entry _ =>
    (be16 (byte entry 0) (byte entry 1), byte entry 2)) body).1

def parse_service_list : List (Nat × UInt8) :=
  (cut next_descriptor descriptors).1.foldl
    (fun out item => if item.1 = 0x41 then out ++ listed_services item.2 else out) []

def parse_service_ids_from_descriptors : List Nat :=
  (parse_service_list descriptors).map Prod.fst

/-! ## System management -/

inductive SmdSemanticState
  | SupportedBroadcast
  | NonBroadcast
  | UndefinedBroadcastClass
  | UnsupportedBroadcastSystem
  | UndeterminedSmd
  deriving DecidableEq

inductive SmdDiagnostic
  | SMD_DESCRIPTOR_LENGTH_INVALID
  | SMD_DESCRIPTOR_DUPLICATE
  | SMD_DESCRIPTOR_TOO_SHORT
  | SMD_DESCRIPTOR_MISSING
  deriving DecidableEq

structure SystemManagementFacts where
  descriptor_present : Bool := false
  syntax_valid : Bool := false
  system_management_id : Option Nat := none
  broadcasting_flag : Option Nat := none
  broadcasting_identifier : Option Nat := none
  additional_broadcasting_identification : Option Nat := none
  additional_identification_info : List UInt8 := []
  semantic_state : SmdSemanticState := .UndeterminedSmd
  diagnostic : Option SmdDiagnostic := none

def smd_semantic_state (broadcasting_flag broadcasting_identifier : Nat) : SmdSemanticState :=
  if broadcasting_flag = 0 then
    if 2 ≤ broadcasting_identifier ∧ broadcasting_identifier ≤ 4 then .SupportedBroadcast
    else .UnsupportedBroadcastSystem
  else if broadcasting_flag = 1 ∨ broadcasting_flag = 2 then .NonBroadcast
  else .UndefinedBroadcastClass

def smd_facts (system_management_id : Nat) (info : List UInt8) : SystemManagementFacts :=
  let broadcasting_flag := system_management_id / 2 ^ 14 % 4
  let broadcasting_identifier := system_management_id / 2 ^ 8 % 64
  { descriptor_present := true
    syntax_valid := true
    system_management_id := some system_management_id
    broadcasting_flag := some broadcasting_flag
    broadcasting_identifier := some broadcasting_identifier
    additional_broadcasting_identification := some (system_management_id % 256)
    additional_identification_info := info
    semantic_state := smd_semantic_state broadcasting_flag broadcasting_identifier }

/-- What one descriptor does to the facts. A second one, or one that is too short, ends the
search. -/
def smd_step (parsed : Option SystemManagementFacts) (item : UInt8 × List UInt8) :
    Option SystemManagementFacts ⊕ SystemManagementFacts :=
  let (tag, body) := item
  if tag ≠ 0xfe then .inl parsed
  else if parsed.isSome then
    .inr { descriptor_present := true, diagnostic := some .SMD_DESCRIPTOR_DUPLICATE }
  else if body.length < 2 then
    .inr { descriptor_present := true, diagnostic := some .SMD_DESCRIPTOR_TOO_SHORT }
  else .inl (some (smd_facts (be16 (byte body 0) (byte body 1)) (body.drop 2)))

def smd_done (parsed : Option SystemManagementFacts) (rest : List UInt8) : SystemManagementFacts :=
  if 2 ≤ rest.length then
    { descriptor_present := decide (byte rest 0 = 0xfe) || parsed.isSome
      diagnostic := some .SMD_DESCRIPTOR_LENGTH_INVALID }
  else parsed.getD { diagnostic := some .SMD_DESCRIPTOR_MISSING }

def parse_system_management_descriptor : SystemManagementFacts :=
  let (items, rest) := cut next_descriptor descriptors
  follow smd_step (smd_done · rest) none items

end arib_si_engine_rs.service_discovery
