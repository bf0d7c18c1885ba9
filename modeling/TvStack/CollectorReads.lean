-- The collector of service discovery with checked accesses. From the empty collector,
-- no list of sections of any content makes it, or a parser of an EIT section, read
-- outside of the bytes or subtract below zero.
import TvStack.DiscoveryReads
import TvStack.DiscoveryTracking
import TvStack.EitInstances

open Checked Cursors Items Words

namespace arib_si_engine_rs.sections.checked

variable (t : SectionTracker)

def accepts_version (version : UInt8) : Run Bool := do
  match t.version with
  | none => return true
  | some old => return decide ((← sub (version.toNat + 32) old.toNat) % 32 < 16)

/-- The version that a tracker holds is one of the circle of 32. -/
def InCircle : Prop := ∀ old, t.version = some old → old.toNat < 32

theorem accepts_version.spec {t : SectionTracker} (h : InCircle t) (version : UInt8) :
    accepts_version t version = .ok (t.accepts_version version) := by
  unfold accepts_version SectionTracker.accepts_version
  cases hversion : t.version with
  | none => rfl
  | some old =>
    have hold := h old hversion
    simp only [sub, if_pos (show old.toNat ≤ version.toNat + 32 by omega)]
    rfl

def observe (version section_number last : UInt8) (bytes : List UInt8) :
    Run (SectionTracker × Bool) := do
  if ¬ (← accepts_version t version) then return (t, false)
  else return t.keep version section_number last bytes

theorem observe.spec {t : SectionTracker} (h : InCircle t) (version number last : UInt8)
    (bytes : List UInt8) :
    observe t version number last bytes = .ok (t.observe version number last bytes) := by
  unfold observe SectionTracker.observe
  rw [accepts_version.spec h, ok_bind]
  split <;> rfl

theorem version_lt {bytes : List UInt8} {header : SectionHeader} {version : UInt8}
    (h : parse_section_header bytes = some header) (hversion : header.version = some version) :
    version.toNat < 32 := by
  unfold parse_section_header at h
  dsimp only at h
  split at h
  · cases h
  split at h
  · cases h
  split at h
  · split at h
    · cases h
    · cases h
      cases hversion
      exact Nat.lt_of_le_of_lt Nat.and_le_right (by decide)
  · cases h
    cases hversion

end arib_si_engine_rs.sections.checked

namespace arib_si_engine_rs.service_discovery.checked

open arib_si_engine_rs.sections arib_si_engine_rs.ca_descriptor
open arib_si_engine_rs.arib_string (GraphicTables)
open ServiceDiscoveryCollector

variable {bytes : List UInt8}

/-! ## The scopes of a section -/

def sdt_transport_scope_from_section (bytes : List UInt8) : Run (Option (Nat × Nat)) := do
  match (← read_section_header bytes).bind (·.table_id_extension) with
  | none => return none
  | some tsid =>
    if bytes.length < 11 then return none
    else return some (tsid, be16 (← index bytes 8) (← index bytes 9))

theorem sdt_transport_scope_from_section.spec (bytes : List UInt8) :
    sdt_transport_scope_from_section bytes =
      .ok (service_discovery.sdt_transport_scope_from_section bytes) := by
  unfold sdt_transport_scope_from_section service_discovery.sdt_transport_scope_from_section
  rw [read_section_header.spec, ok_bind]
  cases (parse_section_header bytes).bind (·.table_id_extension) with
  | none => rfl
  | some tsid =>
    dsimp only
    split
    · rfl
    · rw [index_bind (by omega), index_eq_byte (by omega)]
      rfl

def tracker_scope_extension (bytes : List UInt8) : Run (Option Nat) := do
  match ← read_section_header bytes with
  | none => return none
  | some header =>
    if header.table_id = 0x42 ∨ header.table_id = 0x46 then
      return (← sdt_transport_scope_from_section bytes).map Prod.snd
    else return some TRACKER_GLOBAL_SCOPE

theorem tracker_scope_extension.spec (bytes : List UInt8) :
    tracker_scope_extension bytes = .ok (service_discovery.tracker_scope_extension bytes) := by
  unfold tracker_scope_extension service_discovery.tracker_scope_extension
  rw [read_section_header.spec, ok_bind]
  cases parse_section_header bytes with
  | none => rfl
  | some header =>
    dsimp only
    split
    · rw [sdt_transport_scope_from_section.spec]
      rfl
    · rfl

def tracked_header (bytes : List UInt8) : Run (Option TrackedHeader) := do
  match ← read_section_header bytes with
  | none => return none
  | some header =>
    match header.table_id_extension, header.version, header.section_number,
      header.last_section_number with
    | some extension, some version, some number, some last =>
      return some ⟨header.table_id, extension, version, number, last,
        (← tracker_scope_extension bytes).getD TRACKER_GLOBAL_SCOPE⟩
    | _, _, _, _ => return none

theorem tracked_header.spec (bytes : List UInt8) :
    tracked_header bytes = .ok (service_discovery.tracked_header bytes) := by
  unfold tracked_header service_discovery.tracked_header
  rw [read_section_header.spec]
  cases parse_section_header bytes with
  | none => rfl
  | some header =>
    simp only [tracker_scope_extension.spec]
    rcases header with ⟨_, _, _, _, _ | _, _ | _, _, _ | _, _ | _⟩ <;> rfl

/-- The loop over the transports of a NIT or a BAT: an entry that is cut leaves no scopes. The list
stands for the set that the entries go into. -/
def transport_scopes_from_section (bytes : List UInt8) : Run (Option (List (Nat × Nat))) := do
  if bytes.length < 10 then return none
  else
    let limit ← body_end bytes
    let desc_end := 10 + be12 (← index bytes 8) (← index bytes 9)
    if limit < desc_end then return none
    else if limit < desc_end + 2 then return some []
    else
      let transport_end := desc_end + 2 +
        be12 (← index bytes desc_end) (← index bytes (desc_end + 1))
      if limit < transport_end then return none
      else
        let scopes ← (entry_walk bytes 6 4
          (fun scopes cursor _ => do
            let tsid := be16 (← index bytes cursor) (← index bytes (cursor + 1))
            let onid := be16 (← index bytes (cursor + 2)) (← index bytes (cursor + 3))
            return .inl (scopes ++ [(tsid, onid)]))
          (fun _ => none) (fun scopes _ => some scopes)).run transport_end (desc_end + 2) []
        return scopes.map List.eraseDups

theorem foldl_push_map {α β : Type} (f : α → β) (out : List β) (items : List α) :
    items.foldl (fun out item => out ++ [f item]) out = out ++ items.map f := by
  rw [← foldl_push, List.foldl_map]

theorem transport_scopes_from_section.spec
    (h : service_discovery.valid_current_section bytes = true) :
    transport_scopes_from_section bytes =
      .ok (service_discovery.transport_scopes_from_section bytes) := by
  obtain ⟨-, hlimit⟩ := body_end_of_valid h
  unfold transport_scopes_from_section service_discovery.transport_scopes_from_section
    transport_loop
  simp only [ite_or]
  split
  · rfl
  rw [body_end.spec h, ok_bind, index_bind (by omega), index_bind (by omega)]
  split
  · rfl
  split
  · rfl
  simp (disch := omega) only [index_bind]
  split
  · rfl
  rw [entry_walk.spec TransportEntry.of
    (fun scopes entry => .inl (scopes ++ [(entry.tsid, entry.onid)]))
    (fun scopes rest => if 6 ≤ rest.length then none else some scopes) (by decide) (by omega)
    (fun scopes c stop hle hstop => ?_) (fun scopes c hc => ?_) (fun scopes c hc => ?_),
    follow_inl, foldl_push_map]
  · dsimp only
    split <;> rfl
  · have hentry : c + 6 ≤ bytes.length := by omega
    rw [slice_bind_zero (by omega) hentry, slice_bind (by omega) hentry,
      slice_bind (by omega) hentry, index_slice (by omega) hentry]
    rfl
  · rw [length_slice (by omega), if_pos (by omega)]
  · rw [length_slice (by omega), if_neg (by omega)]

/-! ## The collector -/

variable (c : ServiceDiscoveryCollector) (pid : Nat) (header : TrackedHeader) (bytes : List UInt8)

def accepts_section_version : Run Bool :=
  match c.tracker pid header with
  | none => return true
  | some tracker => sections.checked.accepts_version tracker header.version

def invalidate_sdt_scope : Run ServiceDiscoveryCollector := do
  match ← sdt_transport_scope_from_section bytes with
  | none => return c
  | some scope => return c.drop_sdt_scope header scope

def invalidate_scopes : Run ServiceDiscoveryCollector :=
  if pid = 0x0010 ∧ (header.table_id = 0x40 ∨ header.table_id = 0x41) then
    return c.invalidate_nit_scopes header
  else if pid = 0x0011 ∧ (header.table_id = 0x42 ∨ header.table_id = 0x46) then
    invalidate_sdt_scope c header bytes
  else if pid = 0x0011 ∧ header.table_id = 0x4a then return c.invalidate_bat_scopes header
  else return c

def invalidate_changed_table : Run ServiceDiscoveryCollector := do
  let c := { c with section_trackers := c.section_trackers.erase (header.key pid) }
  let c ← invalidate_scopes c pid header bytes
  return { c with engine := c.engine.invalidate_table pid header.table_id header.extension }

def track_section : Run (ServiceDiscoveryCollector × Bool) := do
  let (tracker, fresh) ← sections.checked.observe ((c.tracker pid header).getD {}) header.version
    header.number header.last bytes
  return ({ c with section_trackers := c.section_trackers.insert (header.key pid) tracker }, fresh)

def track_transport_scopes : Run ServiceDiscoveryCollector := do
  if header.table_id = 0x40 ∨ header.table_id = 0x41 then
    match ← transport_scopes_from_section bytes with
    | none => return c
    | some scopes => return c.add_nit_scopes header scopes
  else if header.table_id = 0x4a then
    match ← transport_scopes_from_section bytes with
    | none => return c
    | some scopes => return c.add_bat_scopes header scopes
  else if header.table_id = 0x42 ∨ header.table_id = 0x46 then
    match ← sdt_transport_scope_from_section bytes with
    | none => return c
    | some scope => return c.add_sdt_scope header scope
  else return c

/-- The collector before the tracker sees a section. -/
def renew : Run ServiceDiscoveryCollector :=
  if c.section_version_changed pid header then invalidate_changed_table c pid header bytes
  else return c

variable {bytes} (tables : GraphicTables) (c : ServiceDiscoveryCollector)

def push_tracked (pid : Nat) (header : TrackedHeader) (bytes : List UInt8) :
    Run ServiceDiscoveryCollector := do
  let c ← renew c pid header bytes
  match ← track_section c pid header bytes with
  | (c, false) => return c.refuse_section pid header
  | (c, true) =>
    let c ← track_transport_scopes c header bytes
    return { c with engine := ← engine_push_section tables c.engine pid bytes }

def push_section (pid : Nat) (bytes : List UInt8) : Run ServiceDiscoveryCollector := do
  if ¬ (← valid_current_section bytes) then return c
  else
    match ← tracked_header bytes with
    | none => return c
    | some header =>
      if ¬ (← accepts_section_version c pid header) then return c
      else push_tracked tables c pid header bytes

/-- The sections of a list, pushed one after the other. -/
def collect (sections : List (Nat × List UInt8)) : Run ServiceDiscoveryCollector :=
  sections.foldlM (fun c s => push_section tables c s.1 s.2) c

/-! ## The accesses of a push -/

/-- Every tracker of the collector holds a version of the circle. -/
def TrackersInCircle : Prop :=
  ∀ k t, c.section_trackers.get k = some t → sections.checked.InCircle t

section Push

variable {c : ServiceDiscoveryCollector} {pid : Nat} {header : TrackedHeader}

theorem accepts_section_version.spec (h : TrackersInCircle c) :
    accepts_section_version c pid header = .ok (c.accepts_section_version pid header) := by
  unfold accepts_section_version ServiceDiscoveryCollector.accepts_section_version
  cases htracker : c.tracker pid header with
  | none => rfl
  | some t => exact sections.checked.accepts_version.spec (h _ t htracker) _

section

variable (c)

theorem invalidate_sdt_scope.spec :
    invalidate_sdt_scope c header bytes = .ok (c.invalidate_sdt_scope header bytes) := by
  unfold invalidate_sdt_scope ServiceDiscoveryCollector.invalidate_sdt_scope
  rw [sdt_transport_scope_from_section.spec]
  cases service_discovery.sdt_transport_scope_from_section bytes <;> rfl

theorem invalidate_changed_table.spec :
    invalidate_changed_table c pid header bytes =
      .ok (c.invalidate_changed_table pid header bytes) := by
  have hscopes (c : ServiceDiscoveryCollector) :
      invalidate_scopes c pid header bytes = .ok (c.invalidate_scopes pid header bytes) := by
    unfold invalidate_scopes ServiceDiscoveryCollector.invalidate_scopes
    split
    · rfl
    split
    · exact invalidate_sdt_scope.spec c
    split <;> rfl
  unfold invalidate_changed_table
  dsimp only
  rw [hscopes]
  rfl

theorem renew.spec : renew c pid header bytes = .ok (c.renewed pid header bytes) := by
  unfold renew renewed
  split
  · exact invalidate_changed_table.spec c
  · rfl

end

theorem track_section.spec (h : TrackersInCircle c) :
    track_section c pid header bytes = .ok (c.track_section pid header bytes) := by
  have hcircle : sections.checked.InCircle ((c.tracker pid header).getD {}) := by
    cases htracker : c.tracker pid header with
    | none => exact nofun
    | some t => exact h _ t htracker
  unfold track_section
  rw [sections.checked.observe.spec hcircle]
  rfl

theorem track_transport_scopes.spec (hvalid : service_discovery.valid_current_section bytes = true)
    (c : ServiceDiscoveryCollector) :
    track_transport_scopes c header bytes = .ok (c.track_transport_scopes header bytes) := by
  unfold track_transport_scopes ServiceDiscoveryCollector.track_transport_scopes
    nit_transport_scopes_from_section bat_transport_scopes_from_section
  rw [transport_scopes_from_section.spec hvalid, sdt_transport_scope_from_section.spec]
  iterate 2
    split
    · cases service_discovery.transport_scopes_from_section bytes <;> rfl
  split
  · cases service_discovery.sdt_transport_scope_from_section bytes <;> rfl
  · rfl

/-- Taking the facts of an older version away leaves trackers that were there. -/
theorem TrackersInCircle.renewed (h : TrackersInCircle c) :
    TrackersInCircle (c.renewed pid header bytes) := by
  intro k t ht
  by_cases hk : k = header.key pid
  · unfold ServiceDiscoveryCollector.renewed at ht
    split at ht
    · rw [invalidate_changed_table_trackers, FinMap.get_erase,
        if_pos hk] at ht
      cases ht
    · exact h k t ht
  · rw [renewed_trackers c k hk] at ht
    exact h k t ht

theorem push_tracked.spec (h : TrackersInCircle c)
    (hvalid : service_discovery.valid_current_section bytes = true) :
    push_tracked tables c pid header bytes =
      .ok (c.push_tracked (decoder_of tables) pid header bytes) := by
  unfold push_tracked
  rw [renew.spec, ok_bind, track_section.spec h.renewed, ok_bind,
    track_renewed, push_tracked_eq]
  cases (c.observed pid header bytes).2 with
  | false => rfl
  | true =>
    dsimp only
    rw [track_transport_scopes.spec hvalid, ok_bind, engine_push_section.spec]
    rfl

theorem push_section.spec (h : TrackersInCircle c) (pid : Nat) (bytes : List UInt8) :
    push_section tables c pid bytes = .ok (c.push_section (decoder_of tables) pid bytes) := by
  unfold push_section ServiceDiscoveryCollector.push_section
  rw [valid_current_section.spec, ok_bind, tracked_header.spec, ok_bind]
  split
  · rfl
  rename_i hvalid
  cases service_discovery.tracked_header bytes with
  | none => rfl
  | some header =>
    dsimp only
    rw [accepts_section_version.spec h, ok_bind]
    split
    · rfl
    · exact push_tracked.spec tables h (not_not.mp hvalid)

end Push

/-! ## All runs -/

theorem tracked_version_lt {header : TrackedHeader}
    (h : service_discovery.tracked_header bytes = some header) : header.version.toNat < 32 := by
  unfold service_discovery.tracked_header at h
  split at h
  · cases h
  rename_i fields hfields
  split at h
  · rename_i hversion _ _
    cases h
    exact sections.checked.version_lt hfields hversion
  · cases h

theorem trackers_in_circle_push {c : ServiceDiscoveryCollector} (h : TrackersInCircle c)
    (decode : AribStringDecoder) (pid : Nat) (bytes : List UInt8) :
    TrackersInCircle (c.push_section decode pid bytes) := by
  rcases push_section_cases c decode pid bytes with
    heq | ⟨s, rfl, rfl, haccepts⟩
  · rw [heq]
    exact h
  · intro k t ht
    rw [(ServiceDiscoveryCollector.push_section.spec c decode s.valid s.tracked haccepts).1 k] at ht
    split at ht
    · -- the tracker of the section is at the version of its header
      cases ht
      intro old hold
      have hversion : (c.observed s.pid s.header s.bytes).1.version = some s.header.version :=
        (SectionTracker.observe_kept _ (observer_accepts haccepts)).1
      rw [hversion] at hold
      cases hold
      exact tracked_version_lt s.tracked
    · exact h k t ht

theorem collect.spec {c : ServiceDiscoveryCollector} (h : TrackersInCircle c)
    (sections : List (Nat × List UInt8)) :
    collect tables c sections =
        .ok (service_discovery.collect (decoder_of tables) c sections) ∧
      TrackersInCircle (service_discovery.collect (decoder_of tables) c sections) := by
  induction sections generalizing c with
  | nil => exact ⟨rfl, h⟩
  | cons first rest ih =>
    unfold collect
    rw [List.foldlM_cons, push_section.spec tables h]
    exact ih (trackers_in_circle_push h _ _ _)

/-! ## The accesses of the updates -/

variable (e : ServiceDiscoveryEngine) (diagnostics : List String) (diagnostic : Option String)

/-- `onids[0]`, of the networks that know the service. -/
def resolved_onid_for_pat_program (tsid service_id : Nat) : Run (Option Nat) := do
  let onids := e.known_onids tsid service_id
  if onids.length = 1 then return some (← index onids 0) else return none

theorem resolved_onid_for_pat_program.spec (tsid service_id : Nat) :
    resolved_onid_for_pat_program e tsid service_id =
      .ok (e.resolved_onid_for_pat_program tsid service_id) := by
  unfold resolved_onid_for_pat_program ServiceDiscoveryEngine.resolved_onid_for_pat_program
  rcases e.known_onids tsid service_id with _ | ⟨onid, _ | ⟨other, rest⟩⟩
  · rfl
  · rfl
  · exact if_neg (by simp)

/-- `diagnostics.remove(0)`, when there is no room for one more. -/
def retain_text_decode_diagnostic : Run (List String) := do
  match diagnostic with
  | none => return diagnostics
  | some diagnostic =>
    if diagnostic ∈ diagnostics then return diagnostics
    else if MAX_TEXT_DECODE_DIAGNOSTICS_PER_OWNER ≤ diagnostics.length then
      return (← range diagnostics 1 diagnostics.length) ++ [diagnostic]
    else return diagnostics ++ [diagnostic]

theorem retain_text_decode_diagnostic.spec :
    retain_text_decode_diagnostic diagnostics diagnostic =
      .ok (service_discovery.retain_text_decode_diagnostic diagnostics diagnostic) := by
  unfold retain_text_decode_diagnostic service_discovery.retain_text_decode_diagnostic
  cases diagnostic with
  | none => rfl
  | some diagnostic =>
    dsimp only
    split
    · rfl
    split
    · rename_i hfull
      have hone : 1 ≤ diagnostics.length := Nat.le_trans (by decide) hfull
      rw [range, if_pos ⟨hone, Nat.le_refl _⟩, List.take_length]
      rfl
    · rfl

/-! ## SI is read inside of its bytes -/

/-- Whatever sections came before, the next section is read without a fault, and the collector is
the one of the model. So are the sections of an EIT, the descriptors of events and services, and the
accesses inside of the updates. -/
theorem si_parsing_never_faults (sections : List (Nat × List UInt8)) (pid : Nat)
    (bytes : List UInt8) :
    (∃ c, collect tables {} sections = .ok c ∧
      c = service_discovery.collect (decoder_of tables) {} sections ∧
      push_section tables c pid bytes = .ok (c.push_section (decoder_of tables) pid bytes)) ∧
    (∃ facts, eit.parse_eit_section_facts tables bytes = .ok facts) ∧
    (∃ events, descriptors.parse_event_descriptors tables bytes = .ok events) ∧
    (∀ service, ∃ service',
      apply_sdt_descriptors tables bytes 0 bytes.length service = .ok service') ∧
    (∀ stream, ∃ stream', apply_es_descriptors stream bytes = .ok stream') ∧
    (∀ context, ∃ found,
      ca_descriptor.checked.parse_ca_descriptors_with_diagnostics bytes context = .ok found) ∧
    (∃ metadata, parse_nit_transport_metadata tables bytes = .ok metadata) ∧
    (∃ services, parse_service_list bytes = .ok services) ∧
    (∀ (e : ServiceDiscoveryEngine) tsid service_id, ∃ onid,
      resolved_onid_for_pat_program e tsid service_id = .ok onid) ∧
    (∀ bits, ∃ read, codec_signaling.checked.read_bit bits = .ok read) ∧
    ∀ diagnostics diagnostic, ∃ kept,
      retain_text_decode_diagnostic diagnostics diagnostic = .ok kept := by
  obtain ⟨hcollect, hcircle⟩ := collect.spec tables (c := {})
    (fun k t ht => absurd ht FinMap.get_empty_ne) sections
  obtain ⟨facts, hfacts, -⟩ := eit.parse_eit_section_facts.spec tables bytes
  obtain ⟨events, hevents, -⟩ := descriptors.parse_event_descriptors.spec tables bytes
  exact ⟨⟨_, hcollect, rfl, push_section.spec tables hcircle pid bytes⟩, ⟨facts, hfacts⟩,
    ⟨events, hevents⟩,
    fun service => ⟨_, apply_sdt_descriptors.spec tables (Nat.le_refl _) service⟩,
    fun stream => ⟨_, apply_es_descriptors.spec stream bytes⟩,
    fun context =>
      ⟨_, ca_descriptor.checked.parse_ca_descriptors_with_diagnostics.spec bytes context⟩,
    ⟨_, parse_nit_transport_metadata.spec tables bytes⟩, ⟨_, parse_service_list.spec bytes⟩,
    fun e tsid service_id => ⟨_, resolved_onid_for_pat_program.spec e tsid service_id⟩,
    fun bits => ⟨_, codec_signaling.checked.read_bit.spec bits⟩,
    fun diagnostics diagnostic => ⟨_, retain_text_decode_diagnostic.spec diagnostics diagnostic⟩⟩

end arib_si_engine_rs.service_discovery.checked
