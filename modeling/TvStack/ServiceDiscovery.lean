-- Service discovery. The engine has the programs of the PAT, the facts of the PMTs
-- until their services are known, and the services and transports that the other
-- tables name. The collector takes each section of a table version once, takes the
-- facts of an older version away, and hands the section to the engine.
import TvStack.Machines
import TvStack.SiDescriptors

open Items Words

namespace arib_si_engine_rs.service_discovery

open arib_si_engine_rs.sections arib_si_engine_rs.ca_descriptor

structure EsCaMetadata where
  elementary_pid : Nat
  descriptors : List CaDescriptor

structure DiscoveredService where
  (transport_stream_id original_network_id service_id : Nat)
  service_type : Option UInt8 := none
  service_name : Option String := none
  provider_name : Option String := none
  bouquet_name : Option String := none
  network_name : Option String := none
  ts_name : Option String := none
  remote_control_key_id : Option UInt8 := none
  system_management : SystemManagementFacts := {}
  running_status : Option UInt8 := none
  free_ca_mode : Option Bool := none
  pmt_pid : Option Nat := none
  pmt_parsed : Bool := false
  pcr_pid : Option Nat := none
  streams : List DiscoveredElementaryStream := []
  program_ca_descriptors : List CaDescriptor := []
  es_ca_descriptors : List EsCaMetadata := []
  text_decode_diagnostics : List String := []

structure DiscoveredTransport where
  transport_stream_id : Nat
  original_network_id : Nat
  network_name : Option String := none
  ts_name : Option String := none
  remote_control_key_id : Option UInt8 := none
  system_management : SystemManagementFacts := {}
  services : List Nat := []
  text_decode_diagnostics : List String := []

structure PendingPmtInfo where
  pmt_pid : Nat
  pmt_parsed : Bool
  pcr_pid : Option Nat
  streams : List DiscoveredElementaryStream
  program_ca_descriptors : List CaDescriptor
  es_ca_descriptors : List EsCaMetadata

structure ServiceDiscoveryEngine where
  pat_programs : FinMap (Nat × Nat) Nat := .empty
  transports : FinMap (Nat × Nat) DiscoveredTransport := .empty
  services : FinMap (Nat × Nat × Nat) DiscoveredService := .empty
  unresolved_pmts_by_pat : FinMap (Nat × Nat × Nat) PendingPmtInfo := .empty
  pending_pmts : FinMap (Nat × Nat × Nat × Nat) PendingPmtInfo := .empty
  cat_ca : List CaDescriptor := []
  malformed_ca_descriptor_diagnostics : List MalformedCaDescriptorDiagnostic := []

/-! ## Sections -/

variable (bytes : List UInt8)

def section_len : Nat :=
  match parse_section_header bytes with
  | none => 0
  | some header => header.section_length

/-- Where the body of a section ends, before its check sum. -/
def body_end : Nat := 3 + section_len bytes - 4

def valid_current_section : Bool :=
  match parse_section_header bytes with
  | none => false
  | some header =>
    if header.current_next_indicator = some false then false else section_crc_valid bytes

/-- The transport stream of a PAT or an SDT, and the program of a PMT. -/
def extension_of : Nat := be16 (byte bytes 3) (byte bytes 4)

/-- The programs of a PAT with their PIDs. Program 0 is the network. -/
def pat_entries : List (Nat × Nat) :=
  let entries := (cut (sized 4 (fun _ => 0) fun entry _ =>
    (be16 (byte entry 0) (byte entry 1), be13 (byte entry 2) (byte entry 3)))
    (slice bytes 8 (body_end bytes))).1
  entries.filter (·.1 ≠ 0)

structure PmtStream where
  stream_type : UInt8
  elementary_pid : Nat
  descriptors : List UInt8

def PmtStream.of (header descriptors : List UInt8) : PmtStream :=
  ⟨byte header 0, be13 (byte header 1) (byte header 2), descriptors⟩

/-- The streams of a PMT behind its program descriptors. -/
def pmt_streams (program_info_end : Nat) : List PmtStream :=
  (cut (sized 5 (fun header => be12 (byte header 3) (byte header 4)) .of)
    (slice bytes program_info_end (body_end bytes))).1

structure TransportEntry where
  tsid : Nat
  onid : Nat
  descriptors : List UInt8

def TransportEntry.of (header descriptors : List UInt8) : TransportEntry :=
  ⟨be16 (byte header 0) (byte header 1), be16 (byte header 2) (byte header 3), descriptors⟩

/-- A NIT or a BAT: its own descriptors, its transports, and what is left behind them. -/
structure TransportLoop where
  descriptors : List UInt8
  entries : List TransportEntry
  rest : List UInt8

def transport_loop : Option TransportLoop :=
  let desc_end := 10 + be12 (byte bytes 8) (byte bytes 9)
  let transport_end := desc_end + 2 + be12 (byte bytes desc_end) (byte bytes (desc_end + 1))
  if bytes.length < 10 ∨ body_end bytes < desc_end ∨ body_end bytes < desc_end + 2 ∨
      body_end bytes < transport_end then none
  else
    let (entries, rest) := cut (sized 6 (fun header => be12 (byte header 4) (byte header 5)) .of)
      (slice bytes (desc_end + 2) transport_end)
    some ⟨slice bytes 10 desc_end, entries, rest⟩

structure SdtEntry where
  service_id : Nat
  running_status : UInt8
  free_ca_mode : Bool
  descriptors : List UInt8

def SdtEntry.of (header descriptors : List UInt8) : SdtEntry where
  service_id := be16 (byte header 0) (byte header 1)
  running_status := (byte header 3 >>> 5) &&& 0x07
  free_ca_mode := ((byte header 3 >>> 4) &&& 0x01) != 0
  descriptors := descriptors

/-- The services of an SDT. -/
def sdt_entries : List SdtEntry :=
  if bytes.length < 11 then []
  else (cut (sized 5 (fun header => be12 (byte header 3) (byte header 4)) .of)
    (slice bytes 11 (body_end bytes))).1

/-- The network of an SDT. -/
def sdt_onid : Nat := be16 (byte bytes 8) (byte bytes 9)

/-- The first ones of those with equal keys. -/
def dedup_by {α β : Type} [DecidableEq β] (key : α → β) (l : List α) : List α :=
  l.foldl (fun kept x => if key x ∈ kept.map key then kept else kept ++ [x]) []

def dedup_ca_descriptors : List CaDescriptor → List CaDescriptor :=
  dedup_by fun d => (d.ca_system_id, d.ca_pid, d.private_data)

def dedup_malformed_ca_diagnostics :
    List MalformedCaDescriptorDiagnostic → List MalformedCaDescriptorDiagnostic :=
  dedup_by fun d => (d.context, d.offset, d.declared_length, d.reason)

/-! ## Services and their PMTs -/

namespace ServiceDiscoveryEngine

variable (e : ServiceDiscoveryEngine) (decode : AribStringDecoder) (pid : Nat) (bytes : List UInt8)
  (tsid onid : Nat)

def is_known_pmt_pid : Bool := e.pat_programs.values.contains pid

/-- `service_entry_mut` with a change of the service, which is made if it is not there. -/
def update_service (service_id : Nat) (change : DiscoveredService → DiscoveredService) :
    ServiceDiscoveryEngine :=
  let service := (e.services.get (tsid, onid, service_id)).getD
    { transport_stream_id := tsid, original_network_id := onid, service_id }
  { e with services := e.services.insert (tsid, onid, service_id) (change service) }

/-- `transport_entry_mut` with a change of the transport, which is made if it is not there. -/
def update_transport (change : DiscoveredTransport → DiscoveredTransport) :
    ServiceDiscoveryEngine :=
  let transport := (e.transports.get (tsid, onid)).getD
    { transport_stream_id := tsid, original_network_id := onid }
  { e with transports := e.transports.insert (tsid, onid) (change transport) }

/-- The services of a transport, by the fields of the service. -/
def in_transport (service : DiscoveredService) : Bool :=
  service.transport_stream_id = tsid ∧ service.original_network_id = onid

/-- A change of the services that are chosen. -/
def change_services (chosen : DiscoveredService → Bool)
    (change : DiscoveredService → DiscoveredService) : ServiceDiscoveryEngine :=
  { e with services := e.services.mapValues fun service =>
      if chosen service then change service else service }

def pat_pmt_pid_candidate_for_service (tsid service_id : Nat) : Option Nat :=
  e.pat_programs.get (tsid, service_id)

/-- The networks under which a service of a transport stream is known. -/
def known_onids (tsid service_id : Nat) : List Nat :=
  ((e.services.keys.filter fun key => key.1 = tsid ∧ key.2.2 = service_id).map (·.2.1)).dedup

def resolved_onid_for_pat_program (tsid service_id : Nat) : Option Nat :=
  match e.known_onids tsid service_id with
  | [onid] => some onid
  | _ => none

variable (network_descriptors : List UInt8) (service : DiscoveredService)
  (transport : DiscoveredTransport) (bouquet_name : Option DecodedSiText) (entry : TransportEntry)
  (scope : Nat × Nat) (scopes : List (Nat × Nat))

def clear_pmt_state : DiscoveredService :=
  { service with
    pmt_parsed := false
    pcr_pid := none
    streams := []
    program_ca_descriptors := []
    es_ca_descriptors := [] }

def set_pmt_state (pending : PendingPmtInfo) (service : DiscoveredService) : DiscoveredService :=
  { service with
    pmt_pid := some pending.pmt_pid
    pmt_parsed := pending.pmt_parsed
    pcr_pid := pending.pcr_pid
    streams := pending.streams
    program_ca_descriptors := pending.program_ca_descriptors
    es_ca_descriptors := pending.es_ca_descriptors }

/-- The facts that came before the network was known become pending under it. -/
def enter_pending (service_id pmt_pid : Nat) : ServiceDiscoveryEngine :=
  let full_key := (onid, tsid, service_id, pmt_pid)
  match e.pending_pmts.get full_key, e.unresolved_pmts_by_pat.get (tsid, service_id, pmt_pid) with
  | none, some parsed => { e with pending_pmts := e.pending_pmts.insert full_key parsed }
  | _, _ => e

def apply_pending_pmt_to_service (service_id : Nat) : ServiceDiscoveryEngine :=
  match e.pat_pmt_pid_candidate_for_service tsid service_id with
  | none => e
  | some pmt_pid =>
    if e.resolved_onid_for_pat_program tsid service_id ≠ some onid then e
    else
      let e := e.enter_pending tsid onid service_id pmt_pid
      match e.pending_pmts.get (onid, tsid, service_id, pmt_pid) with
      | none => e
      | some pending => e.update_service tsid onid service_id (set_pmt_state pending)

def propagate_transport_metadata_to_services : ServiceDiscoveryEngine :=
  match e.transports.get (tsid, onid) with
  | none => e
  | some transport =>
    e.change_services (in_transport tsid onid) fun service => { service with
      network_name := service.network_name.or transport.network_name
      ts_name := service.ts_name.or transport.ts_name
      remote_control_key_id := service.remote_control_key_id.or transport.remote_control_key_id
      system_management := transport.system_management }

/-! ## The tables -/

def parse_pat_entry (tsid : Nat) (entry : Nat × Nat) : ServiceDiscoveryEngine :=
  let (program_number, pid) := entry
  let e := { e with pat_programs := e.pat_programs.insert (tsid, program_number) pid }
  match e.resolved_onid_for_pat_program tsid program_number with
  | none => e
  | some onid =>
    (e.update_service tsid onid program_number fun service =>
      clear_pmt_state { service with pmt_pid := some pid }).apply_pending_pmt_to_service
        tsid onid program_number

def parse_pat : ServiceDiscoveryEngine :=
  (pat_entries bytes).foldl (fun e entry => e.parse_pat_entry (extension_of bytes) entry) e

def parse_cat : ServiceDiscoveryEngine :=
  if bytes.length < 8 ∨ body_end bytes ≤ 8 ∨ bytes.length < body_end bytes then e
  else
    let result := parse_ca_descriptors_with_diagnostics (slice bytes 8 (body_end bytes))
      { pid := 0x0001
        table_id := 0x01
        table_id_extension := (parse_section_header bytes).bind (·.table_id_extension)
        service_id := none
        elementary_pid := none
        scope := .CAT }
    { e with
      cat_ca := dedup_ca_descriptors (e.cat_ca ++ result.descriptors)
      malformed_ca_descriptor_diagnostics := dedup_malformed_ca_diagnostics
        (e.malformed_ca_descriptor_diagnostics ++ result.diagnostics) }

/-- A PMT that could be read: its facts, and what was wrong with its conditional access. -/
structure ReadPmt where
  pending : PendingPmtInfo
  diagnostics : List MalformedCaDescriptorDiagnostic

/-- The conditional access of a part of a PMT. -/
def pmt_ca (pid service_id : Nat) (elementary_pid : Option Nat) (scope : CaScope)
    (descriptors : List UInt8) : CaDescriptorParseResult :=
  parse_ca_descriptors_with_diagnostics descriptors
    { pid
      table_id := 0x02
      table_id_extension := some service_id
      service_id := some service_id
      elementary_pid
      scope }

/-- What the loop over the streams of a PMT has pushed. -/
structure PmtParts where
  streams : List DiscoveredElementaryStream := []
  es_ca_descriptors : List EsCaMetadata := []
  diagnostics : List MalformedCaDescriptorDiagnostic := []

def PmtParts.push (parts : PmtParts) (elementary_pid : Nat) (stream : DiscoveredElementaryStream)
    (ca : CaDescriptorParseResult) : PmtParts :=
  { streams := parts.streams ++ [stream]
    es_ca_descriptors :=
      if ca.descriptors ≠ [] then
        parts.es_ca_descriptors ++ [⟨elementary_pid, ca.descriptors⟩]
      else parts.es_ca_descriptors
    diagnostics := parts.diagnostics ++ ca.diagnostics }

def push_stream (pid service_id : Nat) (parts : PmtParts) (stream : PmtStream) : PmtParts :=
  parts.push stream.elementary_pid
    (apply_es_descriptors
      { elementary_pid := stream.elementary_pid, stream_type := stream.stream_type }
      stream.descriptors)
    (pmt_ca pid service_id (some stream.elementary_pid) .PMT_ES stream.descriptors)

/-- The facts of a PMT from its parts. A malformed one has no streams. -/
def ReadPmt.of (pid : Nat) (pmt_parsed : Bool) (raw_pcr_pid : Nat)
    (program_ca : CaDescriptorParseResult) (parts : PmtParts) : ReadPmt where
  pending :=
    { pmt_pid := pid
      pmt_parsed
      pcr_pid := if pmt_parsed ∧ raw_pcr_pid ≠ 0x1fff then some raw_pcr_pid else none
      streams := if pmt_parsed then parts.streams else []
      program_ca_descriptors := if pmt_parsed then program_ca.descriptors else []
      es_ca_descriptors := if pmt_parsed then parts.es_ca_descriptors else [] }
  diagnostics := program_ca.diagnostics ++ parts.diagnostics

/-- What `parse_pmt` reads before it changes the engine. -/
def read_pmt : Option ReadPmt :=
  let program_info_end := 12 + be12 (byte bytes 10) (byte bytes 11)
  if bytes.length < 12 ∨ body_end bytes < program_info_end then none
  else
    let pmt_parsed := !section_has_malformed_descriptor_loop pid 0x02 bytes true
    let service_id := extension_of bytes
    let program_ca := pmt_ca pid service_id none .PMT_PROGRAM (slice bytes 12 program_info_end)
    let parts := (pmt_streams bytes program_info_end).foldl (push_stream pid service_id) {}
    some (.of pid pmt_parsed (be13 (byte bytes 8) (byte bytes 9)) program_ca parts)

/-- The transport streams whose PAT has this program on this PID. -/
def candidate_tsids (pid service_id : Nat) : List Nat :=
  (e.pat_programs.items.filter fun x => x.1.2 = service_id ∧ x.2 = pid).map (·.1.1)

/-- The facts of a PMT go to the service of this transport stream, once its network is known. -/
def resolve_pmt (pid service_id : Nat) (pending : PendingPmtInfo) (tsid : Nat) :
    ServiceDiscoveryEngine :=
  match e.resolved_onid_for_pat_program tsid service_id with
  | none => e
  | some onid =>
    { e with
      pending_pmts := e.pending_pmts.insert (onid, tsid, service_id, pid) pending
      : ServiceDiscoveryEngine }.apply_pending_pmt_to_service tsid onid service_id

/-- The facts of a PMT are kept for each transport stream that announced it. -/
def note_unresolved (pid service_id : Nat) (read : ReadPmt) : ServiceDiscoveryEngine :=
  { e with
    malformed_ca_descriptor_diagnostics := dedup_malformed_ca_diagnostics
      (e.malformed_ca_descriptor_diagnostics ++ read.diagnostics)
    unresolved_pmts_by_pat := (e.candidate_tsids pid service_id).foldl
      (fun pmts tsid => pmts.insert (tsid, service_id, pid) read.pending)
      e.unresolved_pmts_by_pat }

def parse_pmt : ServiceDiscoveryEngine :=
  match read_pmt pid bytes with
  | none => e
  | some read =>
    let service_id := extension_of bytes
    (e.candidate_tsids pid service_id).foldl
      (fun e tsid => e.resolve_pmt pid service_id read.pending tsid)
      (e.note_unresolved pid service_id read)

/-- A service of a service list descriptor. -/
def add_listed_service (service : Nat × UInt8) : ServiceDiscoveryEngine :=
  let (service_id, service_type) := service
  let e := e.update_service tsid onid service_id fun s =>
    { s with service_type := some service_type }
  let e := e.update_transport tsid onid fun t => { t with services := t.services.insert service_id }
  e.apply_pending_pmt_to_service tsid onid service_id

/-- The facts that a NIT has about a transport, with the name and the system management of its
network. A fact that is there is kept. -/
def nit_transport_facts (network : Option DecodedSiText × SystemManagementFacts)
    (metadata : NitTransportMetadata) (transport : DiscoveredTransport) : DiscoveredTransport :=
  let diagnostics := retain_text_decode_diagnostic transport.text_decode_diagnostics
    (network.1.bind (·.diagnostic))
  let diagnostics := retain_text_decode_diagnostic diagnostics
    (metadata.network_name.bind (·.diagnostic))
  { transport with
    system_management := network.2
    network_name := transport.network_name.or
      ((metadata.network_name.map (·.value)).or (network.1.map (·.value)))
    ts_name := transport.ts_name.or (metadata.ts_name.map (·.value))
    remote_control_key_id := transport.remote_control_key_id.or metadata.remote_control_key_id
    text_decode_diagnostics := retain_text_decode_diagnostic diagnostics
      (metadata.ts_name.bind (·.diagnostic)) }

/-- A transport of a NIT, with its facts and the services that it lists. -/
def add_nit_transport (facts : DiscoveredTransport → DiscoveredTransport)
    (services : List (Nat × UInt8)) : ServiceDiscoveryEngine :=
  let e := e.update_transport tsid onid facts
  let e := services.foldl (fun e service => e.add_listed_service tsid onid service) e
  let listed := (e.services.keys.filter fun key => key.1 = tsid ∧ key.2.1 = onid).map (·.2.2)
  let e := e.update_transport tsid onid fun t => { t with services := t.services ∪ listed }
  e.propagate_transport_metadata_to_services tsid onid

def parse_nit_entry : ServiceDiscoveryEngine :=
  let network := (parse_network_name decode network_descriptors,
    parse_system_management_descriptor network_descriptors)
  let metadata := parse_nit_transport_metadata decode entry.descriptors
  e.add_nit_transport entry.tsid entry.onid (nit_transport_facts network metadata)
    (parse_service_list entry.descriptors)

def parse_nit : ServiceDiscoveryEngine :=
  match transport_loop bytes with
  | none => e
  | some loop =>
    loop.entries.foldl (fun e entry => e.parse_nit_entry decode loop.descriptors entry) e

def add_bouquet_service (tsid onid service_id : Nat) : ServiceDiscoveryEngine :=
  let e := e.update_service tsid onid service_id fun s =>
    { s with
      bouquet_name := s.bouquet_name.or (bouquet_name.map (·.value))
      text_decode_diagnostics := retain_text_decode_diagnostic s.text_decode_diagnostics
        (bouquet_name.bind (·.diagnostic)) }
  e.apply_pending_pmt_to_service tsid onid service_id

def parse_bat_entry : ServiceDiscoveryEngine :=
  (parse_service_ids_from_descriptors entry.descriptors).foldl
    (fun e service_id => e.add_bouquet_service bouquet_name entry.tsid entry.onid service_id) e

def parse_bat : ServiceDiscoveryEngine :=
  match transport_loop bytes with
  | none => e
  | some loop =>
    loop.entries.foldl
      (fun e entry => e.parse_bat_entry (parse_bouquet_name decode loop.descriptors) entry) e

/-- The names of a service. -/
def set_names (provider_name service_name : DecodedSiText) : DiscoveredService :=
  { service with
    provider_name := some provider_name.value
    service_name := some service_name.value
    text_decode_diagnostics := retain_text_decode_diagnostic
      (retain_text_decode_diagnostic service.text_decode_diagnostics provider_name.diagnostic)
      service_name.diagnostic }

/-- What one descriptor of an SDT entry does to a service. One with names that are cut ends the
loop. -/
def sdt_step (service : DiscoveredService) (item : UInt8 × List UInt8) :
    DiscoveredService ⊕ DiscoveredService :=
  let (tag, body) := item
  if tag = 0x48 ∧ 3 ≤ body.length then
    let service := { service with service_type := some (byte body 0) }
    let provider_end := 2 + (byte body 1).toNat
    if body.length < provider_end then .inr service
    else if body.length = provider_end then .inl service
    else
      let name_end := provider_end + 1 + (byte body provider_end).toNat
      if body.length < name_end then .inr service
      else
        .inl (set_names service
          (decode_si_text_lossy decode "serviceProviderName" (slice body 2 provider_end))
          (decode_si_text_lossy decode "serviceName" (slice body (provider_end + 1) name_end)))
  else .inl service

def apply_sdt_descriptors (items : List (UInt8 × List UInt8)) : DiscoveredService :=
  follow (sdt_step decode) id service items

def parse_sdt_entry (entry : SdtEntry) : ServiceDiscoveryEngine :=
  let e := e.update_transport tsid onid fun t =>
    { t with services := t.services.insert entry.service_id }
  let e := e.update_service tsid onid entry.service_id fun s =>
    apply_sdt_descriptors decode
      { s with
        running_status := some entry.running_status
        free_ca_mode := some entry.free_ca_mode }
      (cut next_descriptor entry.descriptors).1
  e.apply_pending_pmt_to_service tsid onid entry.service_id

def parse_sdt : ServiceDiscoveryEngine :=
  (sdt_entries bytes).foldl
    (fun e entry => e.parse_sdt_entry decode (extension_of bytes) (sdt_onid bytes) entry) e

def push_section : ServiceDiscoveryEngine :=
  if ¬ valid_current_section bytes then e
  else
    let table_id := byte bytes 0
    if table_id = 0x00 ∧ pid = 0x0000 then e.parse_pat bytes
    else if table_id = 0x02 ∧ e.is_known_pmt_pid pid then e.parse_pmt pid bytes
    else if table_id = 0x01 ∧ pid = 0x0001 then e.parse_cat bytes
    else if (table_id = 0x40 ∨ table_id = 0x41) ∧ pid = 0x0010 then e.parse_nit decode bytes
    else if table_id = 0x4a ∧ pid = 0x0011 then e.parse_bat decode bytes
    else if (table_id = 0x42 ∨ table_id = 0x46) ∧ pid = 0x0011 then e.parse_sdt decode bytes
    else e

/-! ## What a new version takes away -/

def invalidate_cat (table_extension : Nat) : ServiceDiscoveryEngine :=
  { e with
    cat_ca := []
    malformed_ca_descriptor_diagnostics := e.malformed_ca_descriptor_diagnostics.filter fun d =>
      ¬ (d.context.pid = 0x0001 ∧ d.context.table_id = 0x01 ∧
        d.context.table_id_extension = some table_extension) }

def invalidate_pat : ServiceDiscoveryEngine :=
  { e with
    pat_programs := {}
    unresolved_pmts_by_pat := {}
    pending_pmts := {}
    services := e.services.mapValues fun service =>
      clear_pmt_state { service with pmt_pid := none } }

def invalidate_pmt (pid program_number : Nat) : ServiceDiscoveryEngine :=
  let affected_tsids := e.candidate_tsids pid program_number
  let affected (service : DiscoveredService) : Bool :=
    service.pmt_pid = some pid ∧ service.service_id = program_number ∧
      service.transport_stream_id ∈ affected_tsids
  { e with
    unresolved_pmts_by_pat := e.unresolved_pmts_by_pat.retain fun key =>
      ¬ (key.2.1 = program_number ∧ key.2.2 = pid ∧ key.1 ∈ affected_tsids)
    pending_pmts := e.pending_pmts.retain fun key =>
      ¬ (key.2.2.1 = program_number ∧ key.2.2.2 = pid ∧ key.2.1 ∈ affected_tsids)
    services := e.services.mapValues fun service =>
      if affected service then clear_pmt_state service else service
    malformed_ca_descriptor_diagnostics :=
      if e.services.values.any affected then
        e.malformed_ca_descriptor_diagnostics.filter fun d =>
          ¬ (d.context.pid = pid ∧ d.context.table_id = 0x02 ∧
            d.context.service_id = some program_number)
      else e.malformed_ca_descriptor_diagnostics }

def invalidate_table (table_id : UInt8) (table_extension : Nat) : ServiceDiscoveryEngine :=
  if pid = 0x0001 ∧ table_id = 0x01 then e.invalidate_cat table_extension
  else if pid = 0x0000 ∧ table_id = 0x00 then e.invalidate_pat
  else if table_id = 0x02 then e.invalidate_pmt pid table_extension
  else e

def clear_nit_facts : DiscoveredTransport :=
  { transport with
    network_name := none
    ts_name := none
    remote_control_key_id := none
    system_management := {}
    text_decode_diagnostics := [] }

def invalidate_nit_transport : ServiceDiscoveryEngine :=
  let (tsid, onid) := scope
  let e :=
    match e.transports.get (tsid, onid) with
    | none => e
    | some _ => e.update_transport tsid onid clear_nit_facts
  e.change_services (in_transport tsid onid) fun service => { service with
    network_name := none
    ts_name := none
    remote_control_key_id := none
    system_management := {} }

def invalidate_nit_transport_metadata : ServiceDiscoveryEngine :=
  scopes.foldl invalidate_nit_transport e

def invalidate_sdt_service_metadata : ServiceDiscoveryEngine :=
  e.change_services (in_transport tsid onid) fun service => { service with
    provider_name := none
    service_name := none
    running_status := none
    free_ca_mode := none
    text_decode_diagnostics := service.text_decode_diagnostics.filter fun diagnostic =>
      !diagnostic.startsWith "field=serviceProviderName" &&
        !diagnostic.startsWith "field=serviceName" }

def invalidate_bat_transport : ServiceDiscoveryEngine :=
  e.change_services (in_transport scope.1 scope.2) fun service => { service with
    bouquet_name := none
    text_decode_diagnostics := service.text_decode_diagnostics.filter fun diagnostic =>
      !diagnostic.startsWith "field=bouquetName" }

def invalidate_bat_transport_membership : ServiceDiscoveryEngine :=
  scopes.foldl invalidate_bat_transport e

end ServiceDiscoveryEngine

open Machines

/-! ## The collector -/

def TRACKER_GLOBAL_SCOPE : Nat := 0xffff

def sdt_transport_scope_from_section : Option (Nat × Nat) :=
  match (parse_section_header bytes).bind (·.table_id_extension) with
  | none => none
  | some tsid => if bytes.length < 11 then none else some (tsid, sdt_onid bytes)

/-- The scope of a tracker: the network for an SDT, and one for all other tables. -/
def tracker_scope_extension : Option Nat :=
  match parse_section_header bytes with
  | none => none
  | some header =>
    if header.table_id = 0x42 ∨ header.table_id = 0x46 then
      (sdt_transport_scope_from_section bytes).map Prod.snd
    else some TRACKER_GLOBAL_SCOPE

/-- The transports of a NIT or a BAT. There are none when an entry is cut. -/
def transport_scopes_from_section : Option (List (Nat × Nat)) :=
  let desc_end := 10 + be12 (byte bytes 8) (byte bytes 9)
  if bytes.length < 10 ∨ body_end bytes < desc_end then none
  else if body_end bytes < desc_end + 2 then some []
  else
    match transport_loop bytes with
    | none => none
    | some loop =>
      if 6 ≤ loop.rest.length then none
      else some (loop.entries.map fun entry => (entry.tsid, entry.onid)).eraseDups

def nit_transport_scopes_from_section : List UInt8 → Option (List (Nat × Nat)) :=
  transport_scopes_from_section

def bat_transport_scopes_from_section : List UInt8 → Option (List (Nat × Nat)) :=
  transport_scopes_from_section

structure ServiceDiscoveryCollector where
  engine : ServiceDiscoveryEngine := {}
  section_trackers : FinMap (Nat × UInt8 × Nat × Nat) SectionTracker := {}
  nit_transport_scopes : FinMap (UInt8 × Nat) (List (Nat × Nat)) := {}
  bat_transport_scopes : FinMap Nat (List (Nat × Nat)) := {}
  sdt_actual_transport_scopes : List (Nat × Nat) := []
  sdt_other_transport_scopes : List (Nat × Nat) := []

/-- The fields of a long header that the collector reads, with the key of its tracker. -/
structure TrackedHeader where
  table_id : UInt8
  extension : Nat
  (version number last : UInt8)
  scope : Nat
  deriving DecidableEq

/-- The header of a section of the current table version, if it is a long one. -/
def tracked_header : Option TrackedHeader :=
  match parse_section_header bytes with
  | none => none
  | some header =>
    match header.table_id_extension, header.version, header.section_number,
      header.last_section_number with
    | some extension, some version, some number, some last =>
      some ⟨header.table_id, extension, version, number, last,
        (tracker_scope_extension bytes).getD TRACKER_GLOBAL_SCOPE⟩
    | _, _, _, _ => none

def TrackedHeader.key (header : TrackedHeader) (pid : Nat) : Nat × UInt8 × Nat × Nat :=
  (pid, header.table_id, header.extension, header.scope)

namespace ServiceDiscoveryCollector

variable (c : ServiceDiscoveryCollector) (pid : Nat) (header : TrackedHeader) (bytes : List UInt8)

def tracker : Option SectionTracker :=
  c.section_trackers.get (header.key pid)

def accepts_section_version : Bool :=
  match c.tracker pid header with
  | none => true
  | some tracker => tracker.accepts_version header.version

def section_version_changed : Bool :=
  match (c.tracker pid header).bind (·.version) with
  | none => false
  | some old_version => decide (old_version ≠ header.version)

def invalidate_nit_scopes : ServiceDiscoveryCollector :=
  let scopes := (c.nit_transport_scopes.get (header.table_id, header.extension)).getD []
  { c with
    engine := c.engine.invalidate_nit_transport_metadata scopes
    nit_transport_scopes := c.nit_transport_scopes.erase (header.table_id, header.extension) }

def drop_sdt_scope (scope : Nat × Nat) : ServiceDiscoveryCollector :=
  let c := { c with engine := c.engine.invalidate_sdt_service_metadata scope.1 scope.2 }
  if header.table_id = 0x42 then
    { c with sdt_actual_transport_scopes := c.sdt_actual_transport_scopes.filter (· ≠ scope) }
  else { c with sdt_other_transport_scopes := c.sdt_other_transport_scopes.filter (· ≠ scope) }

def invalidate_sdt_scope : ServiceDiscoveryCollector :=
  match sdt_transport_scope_from_section bytes with
  | none => c
  | some scope => c.drop_sdt_scope header scope

def invalidate_bat_scopes : ServiceDiscoveryCollector :=
  let scopes := (c.bat_transport_scopes.get header.extension).getD []
  { c with
    engine := c.engine.invalidate_bat_transport_membership scopes
    bat_transport_scopes := c.bat_transport_scopes.erase header.extension }

/-- The facts that the collector knows to come from the table. -/
def invalidate_scopes : ServiceDiscoveryCollector :=
  if pid = 0x0010 ∧ (header.table_id = 0x40 ∨ header.table_id = 0x41) then
    c.invalidate_nit_scopes header
  else if pid = 0x0011 ∧ (header.table_id = 0x42 ∨ header.table_id = 0x46) then
    c.invalidate_sdt_scope header bytes
  else if pid = 0x0011 ∧ header.table_id = 0x4a then c.invalidate_bat_scopes header
  else c

def invalidate_changed_table : ServiceDiscoveryCollector :=
  let c := { c with section_trackers := c.section_trackers.erase (header.key pid) }
  let c := c.invalidate_scopes pid header bytes
  { c with engine := c.engine.invalidate_table pid header.table_id header.extension }

def track_section : ServiceDiscoveryCollector × Bool :=
  let (tracker, fresh) := ((c.tracker pid header).getD {}).observe header.version header.number
    header.last bytes
  ({ c with section_trackers := c.section_trackers.insert (header.key pid) tracker }, fresh)

def add_nit_scopes (scopes : List (Nat × Nat)) : ServiceDiscoveryCollector :=
  let key := (header.table_id, header.extension)
  let scopes := (c.nit_transport_scopes.get key).getD [] ∪ scopes
  { c with nit_transport_scopes := c.nit_transport_scopes.insert key scopes }

def add_bat_scopes (scopes : List (Nat × Nat)) : ServiceDiscoveryCollector :=
  let scopes := (c.bat_transport_scopes.get header.extension).getD [] ∪ scopes
  { c with bat_transport_scopes := c.bat_transport_scopes.insert header.extension scopes }

def add_sdt_scope (scope : Nat × Nat) : ServiceDiscoveryCollector :=
  if header.table_id = 0x42 then
    { c with sdt_actual_transport_scopes := c.sdt_actual_transport_scopes.insert scope }
  else { c with sdt_other_transport_scopes := c.sdt_other_transport_scopes.insert scope }

def track_transport_scopes : ServiceDiscoveryCollector :=
  if header.table_id = 0x40 ∨ header.table_id = 0x41 then
    match nit_transport_scopes_from_section bytes with
    | none => c
    | some scopes => c.add_nit_scopes header scopes
  else if header.table_id = 0x4a then
    match bat_transport_scopes_from_section bytes with
    | none => c
    | some scopes => c.add_bat_scopes header scopes
  else if header.table_id = 0x42 ∨ header.table_id = 0x46 then
    match sdt_transport_scope_from_section bytes with
    | none => c
    | some scope => c.add_sdt_scope header scope
  else c

/-- A section that the tracker does not take. A PMT that contradicts an earlier one of its version
takes the facts of that one away. -/
def refuse_section : ServiceDiscoveryCollector :=
  if header.table_id = 0x02 ∧ (c.section_trackers.get
      (pid, 0x02, header.extension, TRACKER_GLOBAL_SCOPE)).any (·.inconsistent) then
    { c with engine := c.engine.invalidate_table pid 0x02 header.extension }
  else c

/-- A section with a long header, of a version that its tracker takes. -/
def push_tracked (decode : AribStringDecoder) (pid : Nat) (header : TrackedHeader)
    (bytes : List UInt8) : ServiceDiscoveryCollector :=
  let c := if c.section_version_changed pid header then c.invalidate_changed_table pid header bytes
    else c
  match c.track_section pid header bytes with
  | (c, false) => c.refuse_section pid header
  | (c, true) =>
    let c := c.track_transport_scopes header bytes
    { c with engine := c.engine.push_section decode pid bytes }

/-- All sections of the collector have a long header: one without is not accepted by its
version. -/
def push_section (decode : AribStringDecoder) (pid : Nat) (bytes : List UInt8) :
    ServiceDiscoveryCollector :=
  if ¬ valid_current_section bytes then c
  else
    match tracked_header bytes with
    | none => c
    | some header =>
      if ¬ c.accepts_section_version pid header then c else c.push_tracked decode pid header bytes

end ServiceDiscoveryCollector

/-! ## The snapshot -/

structure PmtPidMapping where
  (transport_stream_id original_network_id service_id pmt_pid : Nat)
  deriving DecidableEq

structure DiscoverySnapshot where
  services : List DiscoveredService
  transports : List DiscoveredTransport
  pmt_pids_by_service : List PmtPidMapping
  cat_ca : List CaDescriptor
  malformed_ca_descriptor_diagnostics : List MalformedCaDescriptorDiagnostic

/-- The order of lists of numbers. -/
def key_le (a b : List Nat) : Bool := compare a b != .gt

def ServiceDiscoveryEngine.snapshot (e : ServiceDiscoveryEngine) : DiscoverySnapshot :=
  let service_key (s : DiscoveredService) :=
    [s.original_network_id, s.transport_stream_id, s.service_id]
  let mapping_key (m : PmtPidMapping) :=
    [m.original_network_id, m.transport_stream_id, m.service_id, m.pmt_pid]
  let services := e.services.values.mergeSort fun a b => key_le (service_key a) (service_key b)
  let mappings := services.filterMap fun s => s.pmt_pid.map fun pmt_pid =>
    { transport_stream_id := s.transport_stream_id
      original_network_id := s.original_network_id
      service_id := s.service_id
      pmt_pid : PmtPidMapping }
  { services
    transports := e.transports.values.mergeSort fun a b =>
      key_le [a.original_network_id, a.transport_stream_id]
        [b.original_network_id, b.transport_stream_id]
    pmt_pids_by_service := (mappings.mergeSort fun a b => key_le (mapping_key a)
      (mapping_key b)).eraseDups
    cat_ca := e.cat_ca
    malformed_ca_descriptor_diagnostics := e.malformed_ca_descriptor_diagnostics }

/-- The sections of a list, pushed one after the other, each with its PID. -/
def collect (decode : AribStringDecoder) (c : ServiceDiscoveryCollector)
    (sections : List (Nat × List UInt8)) : ServiceDiscoveryCollector :=
  sections.foldl (fun c s => c.push_section decode s.1 s.2) c

end arib_si_engine_rs.service_discovery
