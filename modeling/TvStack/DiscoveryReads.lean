-- The tables of service discovery with checked accesses. On every valid section of
-- any content, each parser of the engine stays inside of the section and changes the
-- engine as the pure model says.
import TvStack.PmtReads
import TvStack.ServiceDiscovery

open Checked Cursors Items Words

namespace arib_si_engine_rs.service_discovery.checked

open arib_si_engine_rs.sections arib_si_engine_rs.ca_descriptor
open arib_si_engine_rs.arib_string (GraphicTables)
open ServiceDiscoveryEngine (PmtParts nit_transport_facts set_names sdt_step)

variable {bytes : List UInt8} (h : service_discovery.valid_current_section bytes = true)

/-! ## The frame of a section -/

def section_crc_valid (bytes : List UInt8) : Run Bool := do
  match ← read_section_header bytes with
  | none => return false
  | some header =>
    if header.section_length < 4 ∨ bytes.length < header.total_length then return false
    else return crc32_mpeg (← range bytes 0 header.total_length) == 0

def valid_current_section (bytes : List UInt8) : Run Bool := do
  match ← read_section_header bytes with
  | none => return false
  | some header =>
    if header.current_next_indicator = some false then return false else section_crc_valid bytes

theorem valid_current_section.spec (bytes : List UInt8) :
    valid_current_section bytes = .ok (service_discovery.valid_current_section bytes) := by
  unfold valid_current_section service_discovery.valid_current_section section_crc_valid
    sections.section_crc_valid section_crc_valid_with_header
  rw [read_section_header.spec, ok_bind]
  cases parse_section_header bytes with
  | none => rfl
  | some header =>
    dsimp only
    split
    · rfl
    rw [ok_bind]
    dsimp only
    split
    · rfl
    · rw [range_eq_slice (by omega)]
      rfl

include h in
/-- A section that passed the check has a body that ends before its own end. -/
theorem body_end_of_valid :
    4 ≤ section_len bytes ∧ service_discovery.body_end bytes ≤ bytes.length := by
  unfold service_discovery.valid_current_section sections.section_crc_valid
    section_crc_valid_with_header at h
  unfold service_discovery.body_end section_len
  cases hheader : parse_section_header bytes with
  | none =>
    rw [hheader] at h
    cases h
  | some header =>
    obtain ⟨htotal, hle, -⟩ := total_length_le hheader
    simp only [hheader] at h ⊢
    split at h
    · cases h
    split at h
    · cases h
    · omega

/-- `3 + section_len(section) - 4` -/
def body_end (bytes : List UInt8) : Run Nat := do
  match ← read_section_header bytes with
  | none => sub (3 + 0) 4
  | some header => sub (3 + header.section_length) 4

include h in
theorem body_end.spec : body_end bytes = .ok (service_discovery.body_end bytes) := by
  obtain ⟨hlen, -⟩ := body_end_of_valid h
  unfold body_end service_discovery.body_end
  unfold section_len at hlen ⊢
  rw [read_section_header.spec]
  cases hheader : parse_section_header bytes with
  | none =>
    rw [hheader] at hlen
    exact absurd hlen (by decide)
  | some header =>
    rw [hheader] at hlen
    exact if_pos (show 4 ≤ 3 + header.section_length from Nat.le_trans hlen (Nat.le_add_left _ _))

/-! ## PAT and CAT -/

variable (e : ServiceDiscoveryEngine)

def parse_pat (bytes : List UInt8) : Run ServiceDiscoveryEngine := do
  if bytes.length < 8 then return e
  else
    let tsid := be16 (← index bytes 3) (← index bytes 4)
    let limit ← body_end bytes
    (fixed_walk 4 fun e cursor => do
      let program_number := be16 (← index bytes cursor) (← index bytes (cursor + 1))
      let pid := be13 (← index bytes (cursor + 2)) (← index bytes (cursor + 3))
      return if program_number ≠ 0 then e.parse_pat_entry tsid (program_number, pid) else e).run
        limit 8 e

include h in
theorem parse_pat.spec : parse_pat e bytes = .ok (e.parse_pat bytes) := by
  unfold parse_pat ServiceDiscoveryEngine.parse_pat pat_entries
  split
  · have hnone : slice bytes 8 (service_discovery.body_end bytes) = [] := by
      rw [slice, List.drop_eq_nil_iff, List.length_take]
      omega
    rw [hnone]
    rfl
  · obtain ⟨-, hlimit⟩ := body_end_of_valid h
    rw [index_bind (by omega), index_bind (by omega), body_end.spec h, ok_bind,
      fixed_walk_run (fun entry _ => (be16 (byte entry 0) (byte entry 1),
        be13 (byte entry 2) (byte entry 3)))
      (fun e entry => if entry.1 ≠ 0 then e.parse_pat_entry (extension_of bytes) entry else e)
      (by decide) hlimit (fun e c hc => ?_), List.foldl_filter]
    · simp only [decide_eq_true_eq]
      rfl
    · have hentry : c + 4 ≤ bytes.length := by omega
      rw [slice_bind_zero (by omega) hentry, slice_bind (by omega) hentry,
        slice_bind (by omega) hentry, index_slice (by omega) hentry]
      rfl

def parse_cat (bytes : List UInt8) : Run ServiceDiscoveryEngine := do
  if bytes.length < 8 then return e
  else
    let limit ← body_end bytes
    if limit ≤ 8 ∨ bytes.length < limit then return e
    else
      let result ← ca_descriptor.checked.parse_ca_descriptors_with_diagnostics
        (← range bytes 8 limit)
        { pid := 0x0001
          table_id := 0x01
          table_id_extension := (← read_section_header bytes).bind (·.table_id_extension)
          service_id := none
          elementary_pid := none
          scope := .CAT }
      return { e with
        cat_ca := dedup_ca_descriptors (e.cat_ca ++ result.descriptors)
        malformed_ca_descriptor_diagnostics := dedup_malformed_ca_diagnostics
          (e.malformed_ca_descriptor_diagnostics ++ result.diagnostics) }

include h in
theorem parse_cat.spec : parse_cat e bytes = .ok (e.parse_cat bytes) := by
  unfold parse_cat ServiceDiscoveryEngine.parse_cat
  rw [body_end.spec h, ite_or]
  split
  · rfl
  rw [ok_bind]
  split
  · rfl
  rw [range_bind (by omega), read_section_header.spec, ok_bind,
    ca_descriptor.checked.parse_ca_descriptors_with_diagnostics.spec]
  rfl

/-! ## PMT -/

def pmt_ca (pid service_id : Nat) (elementary_pid : Option Nat) (scope : CaScope)
    (descriptors : List UInt8) : Run CaDescriptorParseResult :=
  ca_descriptor.checked.parse_ca_descriptors_with_diagnostics descriptors
    { pid
      table_id := 0x02
      table_id_extension := some service_id
      service_id := some service_id
      elementary_pid
      scope }

theorem pmt_ca.spec (pid service_id : Nat) (elementary_pid : Option Nat) (scope : CaScope)
    (descriptors : List UInt8) : pmt_ca pid service_id elementary_pid scope descriptors =
      .ok (ServiceDiscoveryEngine.pmt_ca pid service_id elementary_pid scope descriptors) :=
  ca_descriptor.checked.parse_ca_descriptors_with_diagnostics.spec _ _

def push_stream (pid service_id : Nat) (parts : PmtParts) (stream : PmtStream) : Run PmtParts := do
  let discovered ← apply_es_descriptors
    { elementary_pid := stream.elementary_pid, stream_type := stream.stream_type }
      stream.descriptors
  let ca ← pmt_ca pid service_id (some stream.elementary_pid) .PMT_ES stream.descriptors
  return parts.push stream.elementary_pid discovered ca

/-- `while cursor + 5 <= body_end` -/
def pmt_loop (pid service_id limit start : Nat) (bytes : List UInt8) : Run PmtParts :=
  (entry_walk bytes 5 3
    (fun parts cursor stop => do
      let stream_type ← index bytes cursor
      let elementary_pid := be13 (← index bytes (cursor + 1)) (← index bytes (cursor + 2))
      let descriptors ← range bytes (cursor + 5) stop
      return .inl (← push_stream pid service_id parts ⟨stream_type, elementary_pid, descriptors⟩))
    (fun parts => parts) (fun parts _ => parts)).run limit start {}

variable (pid : Nat)

/-- The part of `parse_pmt` before it changes the engine. -/
def read_pmt (bytes : List UInt8) : Run (Option ServiceDiscoveryEngine.ReadPmt) := do
  if bytes.length < 12 then return none
  else
    let malformed ← sections.checked.section_has_malformed_descriptor_loop pid 0x02 bytes true
    let service_id := be16 (← index bytes 3) (← index bytes 4)
    let limit ← body_end bytes
    let raw_pcr_pid := be13 (← index bytes 8) (← index bytes 9)
    let program_info_end := 12 + be12 (← index bytes 10) (← index bytes 11)
    if limit < program_info_end then return none
    else
      let program_ca ← pmt_ca pid service_id none .PMT_PROGRAM (← range bytes 12 program_info_end)
      let parts ← pmt_loop pid service_id limit program_info_end bytes
      return some (.of pid (!malformed) raw_pcr_pid program_ca parts)

def parse_pmt (bytes : List UInt8) : Run ServiceDiscoveryEngine := do
  match ← read_pmt pid bytes with
  | none => return e
  | some read =>
    let service_id := be16 (← index bytes 3) (← index bytes 4)
    return (e.candidate_tsids pid service_id).foldl
      (fun e tsid => e.resolve_pmt pid service_id read.pending tsid)
      (e.note_unresolved pid service_id read)

theorem pmt_loop.spec (pid service_id start : Nat) {limit : Nat} (hlimit : limit ≤ bytes.length)
    (hbody : limit = service_discovery.body_end bytes) :
    pmt_loop pid service_id limit start bytes =
      .ok ((pmt_streams bytes start).foldl
        (ServiceDiscoveryEngine.push_stream pid service_id) {}) := by
  subst hbody
  unfold pmt_loop pmt_streams
  rw [entry_walk.spec PmtStream.of
    (fun parts stream => .inl (ServiceDiscoveryEngine.push_stream pid service_id parts stream))
    (fun parts _ => parts) (by decide) hlimit (fun parts c stop hle hstop => ?_) (fun _ _ _ => rfl)
    (fun _ _ _ => rfl), follow_inl]
  have hentry : c + 5 ≤ bytes.length := by omega
  rw [slice_bind_zero (by omega) hentry, slice_bind (by omega) hentry, slice_bind (by omega) hentry,
    range_bind (by omega), push_stream, apply_es_descriptors.spec, pmt_ca.spec]
  rfl

include h in
theorem read_pmt.spec : read_pmt pid bytes = .ok (ServiceDiscoveryEngine.read_pmt pid bytes) := by
  obtain ⟨-, hlimit⟩ := body_end_of_valid h
  unfold read_pmt ServiceDiscoveryEngine.read_pmt
  rw [ite_or]
  split
  · rfl
  have hread (i : Nat) (hi : i < 12) : index bytes i = .ok (byte bytes i) :=
    index_eq_byte (by omega)
  rw [sections.checked.section_has_malformed_descriptor_loop.spec, ok_bind, hread 3 (by decide),
    ok_bind, hread 4 (by decide), ok_bind, body_end.spec h, ok_bind, hread 8 (by decide), ok_bind,
    hread 9 (by decide), ok_bind, hread 10 (by decide), ok_bind, hread 11 (by decide), ok_bind]
  dsimp only
  split
  · rfl
  rw [range_bind (by omega), pmt_ca.spec, pmt_loop.spec _ _ _ hlimit rfl]
  rfl

include h in
theorem parse_pmt.spec : parse_pmt e pid bytes = .ok (e.parse_pmt pid bytes) := by
  unfold parse_pmt ServiceDiscoveryEngine.parse_pmt
  rw [read_pmt.spec h pid, ok_bind]
  cases hread : ServiceDiscoveryEngine.read_pmt pid bytes with
  | none => rfl
  | some read =>
    have hlong : ¬ bytes.length < 12 := by
      intro hshort
      rw [ServiceDiscoveryEngine.read_pmt, if_pos (Or.inl hshort)] at hread
      cases hread
    dsimp only
    rw [index_bind (by omega), index_eq_byte (by omega)]
    rfl

/-! ## NIT and BAT -/

section Transports

variable {δ σ : Type}

/-- The frame of `parse_nit` and `parse_bat`: descriptors of its own, from which the table is named,
and a loop over the transports. -/
def transport_walk (bytes : List UInt8) (own : List UInt8 → Run δ)
    (visit : δ → σ → TransportEntry → Run σ) (s : σ) : Run σ := do
  if bytes.length < 10 then return s
  else
    let limit ← body_end bytes
    let desc_end := 10 + be12 (← index bytes 8) (← index bytes 9)
    if limit < desc_end then return s
    else
      let named ← own (← range bytes 10 desc_end)
      if limit < desc_end + 2 then return s
      else
        let transport_end := desc_end + 2 +
          be12 (← index bytes desc_end) (← index bytes (desc_end + 1))
        if limit < transport_end then return s
        else
          (entry_walk bytes 6 4
            (fun s cursor stop => do
              let tsid := be16 (← index bytes cursor) (← index bytes (cursor + 1))
              let onid := be16 (← index bytes (cursor + 2)) (← index bytes (cursor + 3))
              return .inl (← visit named s ⟨tsid, onid, ← range bytes (cursor + 6) stop⟩))
            (fun s => s) (fun s _ => s)).run transport_end (desc_end + 2) s

include h in
theorem transport_walk.spec {own : List UInt8 → Run δ}
    {visit : δ → σ → TransportEntry → Run σ} (named : List UInt8 → δ)
    (step : List UInt8 → σ → TransportEntry → σ)
    (hown : ∀ descriptors, own descriptors = .ok (named descriptors))
    (hvisit : ∀ descriptors s entry,
      visit (named descriptors) s entry = .ok (step descriptors s entry)) (s : σ) :
    transport_walk bytes own visit s =
      .ok (match transport_loop bytes with
        | none => s
        | some loop => loop.entries.foldl (step loop.descriptors) s) := by
  obtain ⟨-, hlimit⟩ := body_end_of_valid h
  unfold transport_walk transport_loop
  simp only [ite_or]
  split
  · rfl
  rw [body_end.spec h, ok_bind, index_bind (by omega), index_bind (by omega)]
  split
  · rfl
  rw [range_bind (by omega), hown, ok_bind]
  split
  · rfl
  simp (disch := omega) only [index_bind]
  split
  · rfl
  rw [entry_walk.spec TransportEntry.of
    (fun s entry => .inl (step (slice bytes 10 (10 + be12 (byte bytes 8) (byte bytes 9))) s entry))
    (fun s _ => s) (by decide) (by omega) (fun s c stop hle hstop => ?_) (fun _ _ _ => rfl)
    (fun _ _ _ => rfl), follow_inl]
  have hentry : c + 6 ≤ bytes.length := by omega
  rw [slice_bind_zero (by omega) hentry, slice_bind (by omega) hentry, slice_bind (by omega) hentry,
    slice_bind (by omega) hentry, range_bind (by omega), hvisit]
  rfl

end Transports

variable (tables : GraphicTables)

/-- The network descriptors of a NIT, as its transports use them. -/
def read_network (descriptors : List UInt8) :
    Run (Option DecodedSiText × SystemManagementFacts) := do
  return (← parse_network_name tables descriptors, ← parse_system_management_descriptor descriptors)

variable (network : Option DecodedSiText × SystemManagementFacts) (e : ServiceDiscoveryEngine)

def parse_nit_entry (entry : TransportEntry) : Run ServiceDiscoveryEngine := do
  let metadata ← parse_nit_transport_metadata tables entry.descriptors
  return e.add_nit_transport entry.tsid entry.onid
    (nit_transport_facts network metadata)
    (← parse_service_list entry.descriptors)

def parse_nit (bytes : List UInt8) : Run ServiceDiscoveryEngine :=
  transport_walk bytes (read_network tables) (parse_nit_entry tables) e

include h in
theorem parse_nit.spec :
    parse_nit tables e bytes = .ok (e.parse_nit (decoder_of tables) bytes) := by
  -- the model keeps the network descriptors and reads them at each transport
  let network (descriptors : List UInt8) : Option DecodedSiText × SystemManagementFacts :=
    (service_discovery.parse_network_name (decoder_of tables) descriptors,
      service_discovery.parse_system_management_descriptor descriptors)
  have hnetwork (descriptors : List UInt8) :
      read_network tables descriptors = .ok (network descriptors) := by
    unfold read_network parse_network_name
    rw [parse_name.spec, parse_system_management_descriptor.spec]
    rfl
  have hentry (descriptors : List UInt8) (e : ServiceDiscoveryEngine) (entry : TransportEntry) :
      parse_nit_entry tables (network descriptors) e entry =
        .ok (e.parse_nit_entry (decoder_of tables) descriptors entry) := by
    unfold parse_nit_entry
    rw [parse_nit_transport_metadata.spec, parse_service_list.spec]
    rfl
  unfold parse_nit ServiceDiscoveryEngine.parse_nit
  refine (transport_walk.spec h network _ hnetwork hentry e).trans ?_
  cases transport_loop bytes <;> rfl

def parse_bat_entry (bouquet_name : Option DecodedSiText) (e : ServiceDiscoveryEngine)
    (entry : TransportEntry) : Run ServiceDiscoveryEngine := do
  return (← parse_service_ids_from_descriptors entry.descriptors).foldl
    (fun e service_id => e.add_bouquet_service bouquet_name entry.tsid entry.onid service_id) e

def parse_bat (bytes : List UInt8) : Run ServiceDiscoveryEngine :=
  transport_walk bytes (parse_bouquet_name tables) parse_bat_entry e

include h in
theorem parse_bat.spec :
    parse_bat tables e bytes = .ok (e.parse_bat (decoder_of tables) bytes) := by
  have hentry (name : Option DecodedSiText) (e : ServiceDiscoveryEngine) (entry : TransportEntry) :
      parse_bat_entry name e entry = .ok (e.parse_bat_entry name entry) := by
    unfold parse_bat_entry
    rw [parse_service_ids_from_descriptors, parse_service_list.spec]
    rfl
  have hname (descriptors : List UInt8) : parse_bouquet_name tables descriptors =
      .ok (service_discovery.parse_bouquet_name (decoder_of tables) descriptors) :=
    parse_name.spec tables _ _ _
  unfold parse_bat ServiceDiscoveryEngine.parse_bat
  refine (transport_walk.spec h _ _ hname (fun _ => hentry _) e).trans ?_
  cases transport_loop bytes <;> rfl

/-! ## SDT -/

/-- A service descriptor of an SDT. One with names that are cut ends the loop. -/
def sdt_descriptor (bytes : List UInt8) (service : DiscoveredService) (tag : UInt8)
    (start stop : Nat) : Run (DiscoveredService ⊕ DiscoveredService) :=
  if tag = 0x48 ∧ start + 3 ≤ stop then do
    let service := { service with service_type := some (← index bytes start) }
    let provider_end := start + 2 + (← index bytes (start + 1)).toNat
    if stop < provider_end then return .inr service
    else if stop = provider_end then return .inl service
    else
      let name_end := provider_end + 1 + (← index bytes provider_end).toNat
      if stop < name_end then return .inr service
      else
        let provider_name ← decode_si_text_lossy tables "serviceProviderName"
          (← range bytes (start + 2) provider_end)
        let service_name ← decode_si_text_lossy tables "serviceName"
          (← range bytes (provider_end + 1) name_end)
        return .inl (set_names service provider_name service_name)
  else return .inl service

variable (service : DiscoveredService)

theorem sdt_descriptor.spec (tag : UInt8) {start stop : Nat} (hle : start ≤ stop)
    (hstop : stop ≤ bytes.length) :
    sdt_descriptor tables bytes service tag start stop =
      .ok (sdt_step (decoder_of tables) service (tag, slice bytes start stop)) := by
  have hlength : (slice bytes start stop).length = stop - start := length_slice hstop
  have hthree : 3 ≤ stop - start ↔ start + 3 ≤ stop := by omega
  unfold sdt_descriptor sdt_step
  simp only [hlength, hthree]
  split
  · rw [slice_bind_zero (by omega) hstop, slice_bind (by omega) hstop]
    generalize hlen : (byte (slice bytes start stop) 1).toNat = provider_len
    have hprovider : stop < start + 2 + provider_len ↔ stop - start < 2 + provider_len := by omega
    have hnameless : stop = start + 2 + provider_len ↔ stop - start = 2 + provider_len := by omega
    simp only [hprovider, hnameless]
    split
    · rfl
    split
    · rfl
    rw [Nat.add_assoc start, slice_bind (by omega) hstop]
    generalize hname : (byte (slice bytes start stop) (2 + provider_len)).toNat = name_len
    have hcut : stop < start + (2 + provider_len) + 1 + name_len ↔
        stop - start < 2 + provider_len + 1 + name_len := by omega
    simp only [hcut]
    split
    · rfl
    rw [range_bind (by omega), decode_si_text_lossy.spec, ok_bind,
      range_bind (by omega), decode_si_text_lossy.spec, slice_slice (by omega),
      slice_slice (by omega), Nat.add_assoc start, Nat.add_assoc start]
    rfl
  · rfl

/-- `update_service` with a change that may fault. -/
def update_service (tsid onid service_id : Nat)
    (change : DiscoveredService → Run DiscoveredService) :
    Run ServiceDiscoveryEngine := do
  let service ← change ((e.services.get (tsid, onid, service_id)).getD
    { transport_stream_id := tsid, original_network_id := onid, service_id })
  return { e with services := e.services.insert (tsid, onid, service_id) service }

/-- `while dc + 2 <= desc_end`, over the descriptors of a service. -/
def apply_sdt_descriptors (bytes : List UInt8) (start stop : Nat) (service : DiscoveredService) :
    Run DiscoveredService :=
  (descriptor_walk bytes (sdt_descriptor tables bytes) (fun service _ _ => pure service)
    (fun service _ => service)).run stop start service

def parse_sdt (bytes : List UInt8) : Run ServiceDiscoveryEngine := do
  if bytes.length < 11 then return e
  else
    let tsid := be16 (← index bytes 3) (← index bytes 4)
    let onid := be16 (← index bytes 8) (← index bytes 9)
    let limit ← body_end bytes
    (entry_walk bytes 5 3
      (fun e cursor stop => do
        let service_id := be16 (← index bytes cursor) (← index bytes (cursor + 1))
        let flags ← index bytes (cursor + 3)
        let e := e.update_transport tsid onid fun t =>
          { t with services := t.services.insert service_id }
        let e ← update_service e tsid onid service_id fun s =>
          apply_sdt_descriptors tables bytes (cursor + 5) stop { s with
            running_status := some ((flags >>> 5) &&& 0x07)
            free_ca_mode := some (((flags >>> 4) &&& 0x01) != 0) }
        return .inl (e.apply_pending_pmt_to_service tsid onid service_id))
      (fun e => e) (fun e _ => e)).run limit 11 e

theorem apply_sdt_descriptors.spec {start stop : Nat} (hstop : stop ≤ bytes.length)
    (service : DiscoveredService) :
    apply_sdt_descriptors tables bytes start stop service =
      .ok (ServiceDiscoveryEngine.apply_sdt_descriptors (decoder_of tables) service
        (cut next_descriptor (slice bytes start stop)).1) := by
  unfold apply_sdt_descriptors
  rw [descriptor_walk.spec (sdt_step (decoder_of tables)) (fun service _ => service) hstop
    (fun service tag start stop' hle hle' => sdt_descriptor.spec tables service tag hle (by omega))
    (fun _ _ _ => rfl) (fun _ _ _ => rfl)]
  rfl

include h in
theorem parse_sdt.spec :
    parse_sdt tables e bytes = .ok (e.parse_sdt (decoder_of tables) bytes) := by
  obtain ⟨-, hlimit⟩ := body_end_of_valid h
  unfold parse_sdt ServiceDiscoveryEngine.parse_sdt sdt_entries
  by_cases hshort : bytes.length < 11
  · rw [if_pos hshort, if_pos hshort]
    rfl
  rw [if_neg hshort, if_neg hshort]
  simp (disch := omega) only [index_bind]
  rw [body_end.spec h, ok_bind,
    entry_walk.spec SdtEntry.of
      (fun e entry =>
        .inl (e.parse_sdt_entry (decoder_of tables) (extension_of bytes) (sdt_onid bytes) entry))
      (fun e _ => e) (by decide) hlimit (fun e c stop hle hstop => ?_) (fun _ _ _ => rfl)
      (fun _ _ _ => rfl), follow_inl]
  have hentry : c + 5 ≤ bytes.length := by omega
  rw [slice_bind_zero (by omega) hentry, slice_bind (by omega) hentry, slice_bind (by omega) hentry]
  unfold update_service
  dsimp only
  rw [apply_sdt_descriptors.spec tables (by omega)]
  rfl

/-! ## The engine -/

def engine_push_section (pid : Nat) (bytes : List UInt8) : Run ServiceDiscoveryEngine := do
  let valid ← valid_current_section bytes
  if ¬ valid then return e
  else
    match bytes.head? with
    | none => return e
    | some table_id =>
      if table_id = 0x00 ∧ pid = 0x0000 then parse_pat e bytes
      else if table_id = 0x02 ∧ e.is_known_pmt_pid pid then parse_pmt e pid bytes
      else if table_id = 0x01 ∧ pid = 0x0001 then parse_cat e bytes
      else if (table_id = 0x40 ∨ table_id = 0x41) ∧ pid = 0x0010 then parse_nit tables e bytes
      else if table_id = 0x4a ∧ pid = 0x0011 then parse_bat tables e bytes
      else if (table_id = 0x42 ∨ table_id = 0x46) ∧ pid = 0x0011 then parse_sdt tables e bytes
      else return e

theorem engine_push_section.spec (pid : Nat) (bytes : List UInt8) :
    engine_push_section tables e pid bytes =
      .ok (e.push_section (decoder_of tables) pid bytes) := by
  unfold engine_push_section ServiceDiscoveryEngine.push_section
  rw [valid_current_section.spec, ok_bind]
  by_cases hvalid : service_discovery.valid_current_section bytes = true
  · rw [if_neg (not_not_intro hvalid)]
    cases bytes with
    | nil => exact absurd hvalid (by decide)
    | cons table_id rest =>
      have htable : byte (table_id :: rest) 0 = table_id := rfl
      simp only [List.head?_cons, htable]
      split
      · exact parse_pat.spec hvalid e
      split
      · exact parse_pmt.spec hvalid e pid
      split
      · exact parse_cat.spec hvalid e
      split
      · exact parse_nit.spec hvalid tables e
      split
      · exact parse_bat.spec hvalid tables e
      split
      · exact parse_sdt.spec hvalid tables e
      · rfl
  · rw [if_pos hvalid, if_pos hvalid]
    rfl

end arib_si_engine_rs.service_discovery.checked
