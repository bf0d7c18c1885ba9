-- The path of a packet from a frontend to its demuxes. The packet is validated,
-- the descramblers with a claim on its PID decide what becomes of it, and what is
-- left of it is validated once more before a demux takes it. That second check
-- never fails.
import TvStack.OrderedMaps
import TvStack.PacketPipeline

open Words

namespace tuner_hal2_service_runtime

open tuner_hal2_common tuner_hal2_descrambler tuner_hal2_demux tuner_hal2_demux.packet_pipeline

variable {packet : TsPacket}

/-! ## The Rust functions -/

def ValidatedTsPacket.validate (packet : TsPacket) :
    Except TsPacketValidationError ValidatedTsPacket :=
  match h : TsPacketView.validate packet.val with
  | .ok view => .ok ⟨packet, view, h⟩
  | .error failure => .error failure

def descramble_failure_for_ts_validation_error : TsPacketValidationError → DescrambleFailure
  | .WrongLength => .InvalidPacketSize
  | .MissingSyncByte => .BadSyncByte
  | .InvalidAdaptationControl => .InvalidAfc
  | .InvalidAdaptationLength => .InvalidAdaptationField

/-- The kinds that the packet path records. -/
inductive DescramblerDiagnosticKind
  | PacketDescrambled
  | PacketScrambledWithoutKey
  | PacketAssemblySuppressed
  | InvalidPacketSize
  | BadSyncByte
  | InvalidAfc
  | InvalidAdaptationField
  | InvalidTsc
  | TransportErrorRecord
  | ScrambledNullPid
  | ScrambledWithoutPayload
  | BadToken
  | Multi2Fail
  | ScrambledWithoutDescrambler
  | PacketSourceFilterInvalid
  | PacketSourceFilterGenerationMismatch
  deriving DecidableEq

inductive DescramblerDiagnosticRecord
  | PacketPolicy (demux_id : Int) (pid : PacketPid) (kind : DescramblerDiagnosticKind)
  | PacketPolicyWithoutPid (demux_id : Int) (kind : DescramblerDiagnosticKind)
  | PacketSourceFilterValidation (demux_id : Int) (pid : PacketPid) (filter_id : Int)
      (kind : DescramblerDiagnosticKind) (error : HalError)
  deriving DecidableEq

def packet_descramble_policy_failure_for_registry_boundary :
    DescrambleFailure → PacketDescramblePolicyFailure
  | .NoKey => .NoKey
  | .ScrambledPidNotRegistered => .ScrambledPidNotRegistered
  | .TransportErrorRecord => .TransportErrorRecord
  | .InvalidTsc => .InvalidTsc
  | .ScrambledNullPid => .ScrambledNullPid
  | .ScrambledWithoutPayload => .ScrambledWithoutPayload
  | .BadToken => .BadToken
  | .Multi2Fail => .Multi2Fail
  | .InvalidPacketSize | .BadSyncByte | .InvalidAfc | .InvalidAdaptationField => .InvalidPacket

def descrambler_diagnostic_kind_for_registry_boundary :
    DescrambleFailure → DescramblerDiagnosticKind
  | .InvalidPacketSize => .InvalidPacketSize
  | .BadSyncByte => .BadSyncByte
  | .InvalidAfc => .InvalidAfc
  | .InvalidAdaptationField => .InvalidAdaptationField
  | .InvalidTsc => .InvalidTsc
  | .TransportErrorRecord => .TransportErrorRecord
  | .ScrambledNullPid => .ScrambledNullPid
  | .ScrambledWithoutPayload => .ScrambledWithoutPayload
  | .NoKey => .PacketScrambledWithoutKey
  | .BadToken => .BadToken
  | .Multi2Fail => .Multi2Fail
  | .ScrambledPidNotRegistered => .ScrambledWithoutDescrambler

structure SourceFilterRef where
  filter_id : Int
  generation : Nat

structure DescramblerPidClaim where
  pid : TransportStreamPid
  source_filter_ref : Option SourceFilterRef

/-- The claims of a descrambler session on a demux, with its keys if it has any. -/
structure ResolvedDescramblerClaimSet where
  claims : List DescramblerPidClaim
  key_slot : Option DescramblerKeySlot

structure ResolvedDescramblerPacketSnapshot where
  descrambler_pids : List TransportStreamPid := []
  packet_pids : List PacketPid := []
  key_slot : Option DescramblerKeySlot
  source_filter_ids_by_pid : FinMap PacketPid (OrdMap Int Unit) := {}

inductive ResolvedDescramblerPacketFlow
  | Clear
  | Descrambled
  | RecordPassThroughAndDropAssembly
  | Drop
  | DiagnoseOnly
  deriving DecidableEq

structure ResolvedDescramblerPacketDecision where
  packet : TsPacket
  flow : ResolvedDescramblerPacketFlow
  diagnostics : List PipelineDiagnostic := []
  diagnostic_records : List DescramblerDiagnosticRecord := []

structure ResolvedDescramblerPacketMaterial where
  snapshots : List ResolvedDescramblerPacketSnapshot := []
  diagnostics : List PipelineDiagnostic := []
  diagnostic_records : List DescramblerDiagnosticRecord := []

namespace ResolvedDescramblerPacketSnapshot

variable (snapshot : ResolvedDescramblerPacketSnapshot)

def targets_packet_pid (pid : PacketPid) : Bool :=
  snapshot.packet_pids.contains pid

/-- Without keys there is no answer. -/
def descramble_packet (packet : TsPacket) :
    Option (Except DescrambleFailure (TsPacket × DescrambleOutcome)) :=
  snapshot.key_slot.map fun key_slot =>
    let candidate : TsPacket :=
      ⟨(descramble_ts_packet_in_place packet.val snapshot.descrambler_pids key_slot).1,
        (descramble_length _ _ _).trans packet.property⟩
    (descramble_ts_packet_in_place packet.val snapshot.descrambler_pids key_slot).2.map
      fun outcome => (candidate, outcome)

def source_filter_descramble_policy_diagnostics (pid : PacketPid) (failure : DescrambleFailure) :
    List PipelineDiagnostic :=
  match snapshot.source_filter_ids_by_pid.get pid with
  | none => []
  | some ids => ids.items.map fun id =>
    .SourceFilterDescramblePolicyFailure pid id.1
      (packet_descramble_policy_failure_for_registry_boundary failure)

end ResolvedDescramblerPacketSnapshot

namespace ResolvedDescramblerPacketMaterial

def flow_for_descramble_failure (failure : DescrambleFailure) : ResolvedDescramblerPacketFlow :=
  match packet_policy_for_descramble_failure failure with
  | .RecordPassThroughAndDropAssembly => .RecordPassThroughAndDropAssembly
  | .DropAndDiagnose => .Drop
  | .DiagnoseOnly => .DiagnoseOnly

def failure_records (demux_id : Int) (packet_pid : PacketPid) (failure : DescrambleFailure) :
    List DescramblerDiagnosticRecord :=
  (if packet_policy_for_descramble_failure failure = .RecordPassThroughAndDropAssembly then
    [.PacketPolicy demux_id packet_pid .PacketAssemblySuppressed] else []) ++
  [.PacketPolicy demux_id packet_pid (descrambler_diagnostic_kind_for_registry_boundary failure)]

variable (material : ResolvedDescramblerPacketMaterial)

def failure_diagnostics (packet_pid : PacketPid) (failure : DescrambleFailure) :
    List PipelineDiagnostic :=
  material.snapshots.flatMap fun snapshot =>
    snapshot.source_filter_descramble_policy_diagnostics packet_pid failure

/-- The decision for a packet that cannot be descrambled. -/
def failure_decision (demux_id : Int) (packet_pid : PacketPid) (packet : TsPacket)
    (failure : DescrambleFailure) :
    ResolvedDescramblerPacketDecision where
  packet
  flow := flow_for_descramble_failure failure
  diagnostics := material.diagnostics ++ material.failure_diagnostics packet_pid failure
  diagnostic_records :=
    material.diagnostic_records ++ failure_records demux_id packet_pid failure

/-- The answer of the first session with keys. -/
def first_answer (targets : List ResolvedDescramblerPacketSnapshot) (packet : TsPacket) :
    Option (Except DescrambleFailure (TsPacket × DescrambleOutcome)) :=
  targets.findSome? (·.descramble_packet packet)

/-- The first session with a claim on the PID and with keys decides. -/
def decide_descrambled_packet (demux_id : Int) (packet_pid : PacketPid) (packet : TsPacket) :
    ResolvedDescramblerPacketDecision :=
  let targets := material.snapshots.filter (·.targets_packet_pid packet_pid)
  match first_answer targets packet with
  | some (.ok (candidate, .Descrambled _ _ _)) =>
    { packet := candidate
      flow := .Descrambled
      diagnostics := material.diagnostics
      diagnostic_records :=
        material.diagnostic_records ++ [.PacketPolicy demux_id packet_pid .PacketDescrambled] }
  | some (.ok (_, .PassedThrough _ _)) =>
    { packet
      flow := .Clear
      diagnostics := material.diagnostics
      diagnostic_records := material.diagnostic_records }
  | some (.error failure) => material.failure_decision demux_id packet_pid packet failure
  | none =>
    material.failure_decision demux_id packet_pid packet
      (if targets.isEmpty then .ScrambledPidNotRegistered else .NoKey)

end ResolvedDescramblerPacketMaterial

/-- The rest of the service runtime, as the packet path meets it: what the registry holds, and what
a demux does with a packet. -/
structure Registry (ρ : Type) where
  has_frontend : ρ → Int → Bool
  frontend_bound_demux_ids : ρ → Int → List Int
  (frontend_generation demux_generation : ρ → Int → Option Nat)
  resolved_descrambler_claims_for_demux : ρ → Int → Nat → List ResolvedDescramblerClaimSet
  validate_descrambler_source_filter :
    ρ → Int → Nat → Int → TransportStreamPid → HalResult Nat
  push_validated_ts_packet : ρ → Int → ValidatedTsPacket → TsInputOrigin → ρ × PipelineReport

section

variable (source_filter_generation : Int → TransportStreamPid → HalResult Nat)
  (demux_id : Int) (packet_pid : PacketPid)

/-- A claim of another PID is skipped. A claim through a source filter counts while the filter is
the one that it was made for. -/
def resolve_claim (vars : ResolvedDescramblerPacketSnapshot × ResolvedDescramblerPacketMaterial)
    (claim : DescramblerPidClaim) :
    ResolvedDescramblerPacketSnapshot × ResolvedDescramblerPacketMaterial :=
  let (snapshot, material) := vars
  let claimed : ResolvedDescramblerPacketSnapshot :=
    { snapshot with
      descrambler_pids := claim.pid :: snapshot.descrambler_pids
      packet_pids := claim.pid :: snapshot.packet_pids }
  let refused (filter_id : Int) (kind : DescramblerDiagnosticKind) (error : HalError) :
      ResolvedDescramblerPacketMaterial :=
    { material with
      diagnostics := material.diagnostics ++
        [.SourceFilterValidationFailure packet_pid filter_id error]
      diagnostic_records := material.diagnostic_records ++
        [.PacketSourceFilterValidation demux_id claim.pid filter_id kind error] }
  if claim.pid ≠ packet_pid then vars
  else
    match claim.source_filter_ref with
    | none => (claimed, material)
    | some source =>
      match source_filter_generation source.filter_id claim.pid with
      | .ok generation =>
        if generation = source.generation then
          let ids := (snapshot.source_filter_ids_by_pid.get claim.pid).getD .empty
          ({ claimed with
              source_filter_ids_by_pid := snapshot.source_filter_ids_by_pid.insert claim.pid
                (ids.insert source.filter_id ()) }, material)
        else
          (snapshot, refused source.filter_id .PacketSourceFilterGenerationMismatch
            (.InvalidState .InvalidLifecycle
              "source filter generation changed before packet descramble"))
      | .error error => (snapshot, refused source.filter_id .PacketSourceFilterInvalid error)

def resolve_claim_set (material : ResolvedDescramblerPacketMaterial)
    (claim_set : ResolvedDescramblerClaimSet) : ResolvedDescramblerPacketMaterial :=
  let (snapshot, material) := claim_set.claims.foldl
    (resolve_claim source_filter_generation demux_id packet_pid)
    ({ key_slot := claim_set.key_slot }, material)
  if snapshot.packet_pids.isEmpty then material
  else { material with snapshots := material.snapshots ++ [snapshot] }

end

namespace Registry

variable {ρ : Type} (registry : Registry ρ) (state : ρ)
  (frontend_generation : Nat) (demux_id : Int) (frontend_id : Int)

def resolved_descrambler_packet_material_for_demux (demux_generation : Nat)
    (packet_pid : PacketPid) :
    ResolvedDescramblerPacketMaterial :=
  (registry.resolved_descrambler_claims_for_demux state demux_id demux_generation).foldl
    (resolve_claim_set
      (registry.validate_descrambler_source_filter state demux_id demux_generation) demux_id
      packet_pid) {}

/-- The decision for bytes that are no packet. -/
def descrambler_validation_failure_without_pid_decision (packet : TsPacket)
    (failure : DescrambleFailure) : ResolvedDescramblerPacketDecision where
  packet
  flow := ResolvedDescramblerPacketMaterial.flow_for_descramble_failure failure
  diagnostic_records :=
    (if packet_policy_for_descramble_failure failure = .RecordPassThroughAndDropAssembly then
      [.PacketPolicyWithoutPid demux_id .PacketAssemblySuppressed] else []) ++
    [.PacketPolicyWithoutPid demux_id (descrambler_diagnostic_kind_for_registry_boundary failure)]

def decide_descrambled_packet (state : ρ) (demux_id : Int) (demux_generation : Nat)
    (packet : TsPacket) : ResolvedDescramblerPacketDecision :=
  match ValidatedTsPacket.validate packet with
  | .error failure =>
    descrambler_validation_failure_without_pid_decision demux_id packet
      (descramble_failure_for_ts_validation_error failure)
  | .ok validated_packet =>
    if validated_packet.view.scrambling_control = 0 then { packet, flow := .Clear }
    else
      (registry.resolved_descrambler_packet_material_for_demux state demux_id demux_generation
        validated_packet.pid).decide_descrambled_packet demux_id validated_packet.pid packet

def bound_demux_missing : HalError :=
  .InvalidState .InvalidLifecycle "bound demux runtime is missing"

def invalid_packet_produced : HalError :=
  .Internal .InvariantViolation "descrambler produced an invalid TS packet"

/-- The packet of a decision is given to the demux, or only its diagnostics are reported. -/
def deliver_decision (decision : ResolvedDescramblerPacketDecision) :
    ρ × HalResult PipelineReport :=
  match decision.flow with
  | .Drop | .DiagnoseOnly => (state, .ok { diagnostics := decision.diagnostics })
  | .Clear | .Descrambled | .RecordPassThroughAndDropAssembly =>
    match ValidatedTsPacket.validate decision.packet with
    | .error _ => (state, .error invalid_packet_produced)
    | .ok validated =>
      let (state, report) := registry.push_validated_ts_packet state demux_id validated
        (.Frontend frontend_generation)
      (state, .ok { report with diagnostics := report.diagnostics ++ decision.diagnostics })

def push_to_demux (packet : TsPacket) (demux_id : Int) : ρ × HalResult PipelineReport :=
  match registry.demux_generation state demux_id with
  | none => (state, .error bound_demux_missing)
  | some generation =>
    registry.deliver_decision state frontend_generation demux_id
      (registry.decide_descrambled_packet state demux_id generation packet)

/-- The loop over the demuxes. The first error ends it. -/
def push_to_demuxes (frontend_generation : Nat) (packet : TsPacket) :
    ρ → List Int → List PipelineReport → ρ × HalResult (List PipelineReport)
  | state, [], reports => (state, .ok reports)
  | state, demux_id :: demux_ids, reports =>
    match registry.push_to_demux state frontend_generation packet demux_id with
    | (state, .error error) => (state, .error error)
    | (state, .ok report) =>
      push_to_demuxes frontend_generation packet state demux_ids (reports ++ [report])

def ensure_frontend_demux_sink_ready : HalResult (List Int) :=
  if !registry.has_frontend state frontend_id then
    .error (.Unsupported "frontend id is not available for live TS delivery")
  else
    let demux_ids := registry.frontend_bound_demux_ids state frontend_id
    if demux_ids.isEmpty then
      .error (.InvalidState .InvalidLifecycle "frontend has no bound demux for live TS delivery")
    else .ok demux_ids

def push_frontend_ts_packet_to_bound_demuxes (packet : TsPacket) :
    ρ × HalResult (List PipelineReport) :=
  match registry.ensure_frontend_demux_sink_ready state frontend_id with
  | .error error => (state, .error error)
  | .ok demux_ids =>
    match registry.frontend_generation state frontend_id with
    | none =>
      (state, .error (.InvalidState .InvalidLifecycle
        "frontend runtime is missing during live TS delivery"))
    | some frontend_generation =>
      registry.push_to_demuxes frontend_generation packet state demux_ids []

end Registry

/-! ## What a decision hands on -/

/-- The flows whose packet goes to the demux. -/
def HandsOn (flow : ResolvedDescramblerPacketFlow) : Prop :=
  flow = .Clear ∨ flow = .Descrambled ∨ flow = .RecordPassThroughAndDropAssembly

/-- A packet that descrambling made of another: its view has the same fields but for the scrambling
control, which is 0, and the payload, which is in the same place; the bytes before the payload are
the same but for the two bits of that control. -/
structure DescrambledFrom (packet candidate : TsPacket) (view result : TsPacketView) : Prop where
  fields : result = { view with scrambling_control := 0, payload := result.payload }
  payload : ∃ offset < TS_PACKET_SIZE, view.payload = some (packet.val.drop offset) ∧
    result.payload = some (candidate.val.drop offset) ∧
    candidate.val.take offset = (packet.val.take offset).set 3 (byte packet.val 3 &&& 0x3f)

theorem validate_ok {view : TsPacketView} (h : TsPacketView.validate packet.val = .ok view) :
    ValidatedTsPacket.validate packet = .ok ⟨packet, view, h⟩ := by
  unfold ValidatedTsPacket.validate
  split
  · rename_i view' h'
    cases h.symm.trans h'
    rfl
  · rename_i failure h'
    cases h.symm.trans h'

theorem validate_of_ok {validated : ValidatedTsPacket}
    (h : ValidatedTsPacket.validate packet = .ok validated) :
    TsPacketView.validate packet.val = .ok validated.view := by
  unfold ValidatedTsPacket.validate at h
  split at h
  · rename_i view h'
    cases h
    exact h'
  · contradiction

/-- A packet that a session descrambles passes the checks. -/
theorem descramble_packet.spec {snapshot : ResolvedDescramblerPacketSnapshot} {candidate : TsPacket}
    {pid : UInt16} {parity : KeyParity} {payload_offset : Nat} {view : TsPacketView}
    (hview : TsPacketView.validate packet.val = .ok view)
    (h : snapshot.descramble_packet packet =
      some (.ok (candidate, .Descrambled pid parity payload_offset))) :
    ∃ result, TsPacketView.validate candidate.val = .ok result ∧
      DescrambledFrom packet candidate view result := by
  obtain ⟨key_slot, -, hmap⟩ := Option.map_eq_some_iff.mp h
  have hanswer : (descramble_ts_packet_in_place packet.val snapshot.descrambler_pids key_slot).2 =
      .ok (.Descrambled pid parity payload_offset) ∧ candidate.val =
        (descramble_ts_packet_in_place packet.val snapshot.descrambler_pids key_slot).1 := by
    cases houtcome :
        (descramble_ts_packet_in_place packet.val snapshot.descrambler_pids key_slot).2 with
    | error failure =>
      simp only [houtcome] at hmap
      cases hmap
    | ok outcome =>
      simp only [houtcome] at hmap
      cases hmap
      exact ⟨rfl, rfl⟩
  obtain ⟨houtcome, hcandidate⟩ := hanswer
  rcases descramble_cases packet.val snapshot.descrambler_pids key_slot with ⟨-, hnever⟩ |
    ⟨header, _, offset, key, hheader, hoffset, hlt, -, hdecrypted⟩
  · exact absurd houtcome (hnever _ _ _)
  · obtain ⟨h4, hle⟩ := payload_offset_bounds hheader hoffset
    obtain ⟨hcontrol, hafc, hcounter, -⟩ := cleared_byte (byte packet.val 3)
    rw [hdecrypted] at hcandidate
    replace hcandidate := hcandidate.trans (decrypted_eq h4 hle.le key)
    obtain ⟨hpayload, hvalid⟩ := validate_rewritten hview hheader hoffset (decrypt_length key) hafc
    have hview_counter : view.continuity_counter = byte packet.val 3 &&& 0x0f := by
      obtain ⟨-, -, -, flags, start, -, rfl⟩ := validate_iff.mp hview
      rfl
    refine ⟨_, hcandidate ▸ hvalid, ?_, offset, hlt, hpayload, ?_, ?_⟩
    · rw [hcontrol, hcounter, ← hview_counter]
    · rw [hcandidate, rewritten_drop h4 hle.le]
    · rw [hcandidate, rewritten_take h4 hle.le]

/-- The decision of the sessions keeps the packet, or it is one that they descrambled. -/
theorem decide_cases (material : ResolvedDescramblerPacketMaterial) (demux_id : Int)
    (packet_pid : PacketPid) (packet : TsPacket) :
    ((material.decide_descrambled_packet demux_id packet_pid packet).packet = packet ∧
        (material.decide_descrambled_packet demux_id packet_pid packet).flow ≠ .Descrambled) ∨
      ((material.decide_descrambled_packet demux_id packet_pid packet).flow = .Descrambled ∧
        ∃ (snapshot : ResolvedDescramblerPacketSnapshot) (pid : UInt16) (parity : KeyParity)
          (offset : Nat), snapshot.descramble_packet packet = some (.ok
            ((material.decide_descrambled_packet demux_id packet_pid packet).packet,
              .Descrambled pid parity offset))) := by
  have hfailure (failure : DescrambleFailure) :
      ResolvedDescramblerPacketMaterial.flow_for_descramble_failure failure ≠ .Descrambled := by
    cases failure <;> decide
  unfold ResolvedDescramblerPacketMaterial.decide_descrambled_packet
  simp only
  split
  · rename_i candidate pid parity offset hanswer
    obtain ⟨snapshot, -, h⟩ := List.exists_of_findSome?_eq_some hanswer
    exact .inr ⟨rfl, snapshot, pid, parity, offset, h⟩
  · exact .inl ⟨rfl, nofun⟩
  · exact .inl ⟨rfl, hfailure _⟩
  · exact .inl ⟨rfl, hfailure _⟩

/-- The packet that a decision hands on passes the checks of the demux. -/
def Revalidates (packet : TsPacket) (decision : ResolvedDescramblerPacketDecision) : Prop :=
  HandsOn decision.flow → ∃ view result, TsPacketView.validate packet.val = .ok view ∧
    TsPacketView.validate decision.packet.val = .ok result ∧
    (decision.flow ≠ .Descrambled → decision.packet = packet ∧ result = view) ∧
    (decision.flow = .Descrambled → DescrambledFrom packet decision.packet view result)

variable {ρ : Type} (registry : Registry ρ)

theorem decision_revalidates (state : ρ) (demux_id : Int) (demux_generation : Nat)
    (packet : TsPacket) : Revalidates packet
      (registry.decide_descrambled_packet state demux_id demux_generation packet) := by
  unfold Registry.decide_descrambled_packet
  split
  · -- A packet that is not valid is dropped.
    rename_i failure _
    intro hhands
    cases failure <;> rcases hhands with h | h | h <;> contradiction
  · rename_i validated hvalidated
    have hview := validate_of_ok hvalidated
    split
    · exact fun _ => ⟨_, _, hview, hview, fun _ => ⟨rfl, rfl⟩, nofun⟩
    intro hhands
    rcases decide_cases (registry.resolved_descrambler_packet_material_for_demux state demux_id
      demux_generation validated.pid) demux_id validated.pid packet with ⟨hsame, hflow⟩ |
        ⟨hflow, snapshot, pid, parity, offset, hdescrambled⟩
    · exact ⟨_, _, hview, (congrArg (TsPacketView.validate ·.val) hsame).trans hview,
        fun _ => ⟨hsame, rfl⟩, fun h => absurd h hflow⟩
    · obtain ⟨result, hresult, hfrom⟩ := descramble_packet.spec hview hdescrambled
      exact ⟨_, result, hview, hresult, fun h => absurd hflow h, fun _ => hfrom⟩

/-! ## The law -/

theorem deliver_revalidated (state : ρ) (frontend_generation : Nat) (demux_id : Int)
    {decision : ResolvedDescramblerPacketDecision} (h : Revalidates packet decision) :
    (registry.deliver_decision state frontend_generation demux_id decision).2.isOk := by
  have hvalidates (hhands : HandsOn decision.flow) :
      ∃ validated, ValidatedTsPacket.validate decision.packet = .ok validated := by
    obtain ⟨_, result, -, hresult, -⟩ := h hhands
    exact ⟨_, validate_ok hresult⟩
  unfold Registry.deliver_decision
  split
  · rfl
  · rfl
  all_goals
    rename_i hflow
    obtain ⟨validated, hvalidated⟩ := hvalidates (by simp [HandsOn, hflow])
    rw [hvalidated]
    rfl

variable (frontend_generation : Nat)

/-- The loop has no error but a missing demux. -/
theorem push_to_demuxes_error (packet : TsPacket) (demux_ids : List Int) (state : ρ)
    (reports : List PipelineReport) {error : HalError} (h : (registry.push_to_demuxes
      frontend_generation packet state demux_ids reports).2 = .error error) :
    error = Registry.bound_demux_missing := by
  induction demux_ids generalizing state reports with
  | nil => cases h
  | cons demux_id demux_ids ih =>
    unfold Registry.push_to_demuxes Registry.push_to_demux at h
    cases hgeneration : registry.demux_generation state demux_id with
    | none =>
      rw [hgeneration] at h
      cases h
      rfl
    | some generation =>
      have hok := deliver_revalidated registry state frontend_generation demux_id
        (decision_revalidates registry state demux_id generation packet)
      rw [hgeneration] at h
      simp only at h
      split at h
      · rename_i hfailed
        rw [hfailed] at hok
        cases hok
      · exact ih _ _ h

/-- Whatever the sessions, their claims and their keys are, a packet that is handed on passes the
checks of the demux, so that no push ends in the error of an invalid packet. A descrambled packet
keeps its header, its adaptation field and its payload range, with a scrambling control of 0. -/
theorem descrambled_packets_validate_again (registry : Registry ρ) :
    (∀ state demux_id demux_generation packet,
      Revalidates packet
        (registry.decide_descrambled_packet state demux_id demux_generation packet)) ∧
    ∀ state frontend_id packet,
      (registry.push_frontend_ts_packet_to_bound_demuxes state frontend_id packet).2 ≠
        .error Registry.invalid_packet_produced := by
  refine ⟨decision_revalidates registry, fun state frontend_id packet h => ?_⟩
  unfold Registry.push_frontend_ts_packet_to_bound_demuxes at h
  split at h
  · rename_i error hready
    cases h
    unfold Registry.ensure_frontend_demux_sink_ready at hready
    simp only at hready
    split at hready
    · cases hready
    · split at hready <;> cases hready
  · split at h
    · cases h
    · cases push_to_demuxes_error registry _ packet _ state [] h

namespace OneSession

/-- A frontend with one demux, and a session that holds a key for PID 256. -/
def sessionRegistry : Registry Unit where
  has_frontend _ _ := true
  frontend_bound_demux_ids _ _ := [0]
  frontend_generation _ _ := some 1
  demux_generation _ _ := some 1
  resolved_descrambler_claims_for_demux _ _ _ :=
    [{ claims := [⟨⟨0x0100, low_pid⟩, none⟩], key_slot := some { odd := some zeroPrepared } }]
  validate_descrambler_source_filter _ _ _ _ _ := .ok 0
  push_validated_ts_packet state _ _ _ := (state, { accepted_packets := 1 })

def scrambledPacket : TsPacket :=
  ⟨scrambled (payloadPacket 0x01 0x00).val 4 .Odd zeroPrepared, by decide +kernel⟩

theorem the_session_packet_validates_again :
    (sessionRegistry.decide_descrambled_packet () 0 1 scrambledPacket).flow = .Descrambled ∧
      Revalidates scrambledPacket
        (sessionRegistry.decide_descrambled_packet () 0 1 scrambledPacket) :=
  ⟨by decide +kernel, (descrambled_packets_validate_again sessionRegistry).1 () 0 1 scrambledPacket⟩

end OneSession

end tuner_hal2_service_runtime
