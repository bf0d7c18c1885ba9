-- Packets with the transport error indicator. The demux keeps them for its raw and record
-- filters and holds back assembly, but a scrambled one does not get there when a session
-- with keys has claimed its PID: the descrambler drops it.
import TvStack.PacketDecisions
import TvStack.RecordMirrors

open Isolation List Words

namespace tuner_hal2_service_runtime

open tuner_hal2_common tuner_hal2_descrambler tuner_hal2_demux tuner_hal2_demux.packet_pipeline
open DemuxRuntime PacketPipeline ResolvedDescramblerPacketMaterial ValidatedTsPacket
  ResolvedDescramblerPacketSnapshot

/-! ## The descrambler -/

theorem policy_of_parse_error {packet : List UInt8} {failure : DescrambleFailure}
    (h : parse_ts_packet_header packet = .error failure) :
    packet_policy_for_descramble_failure failure = .DropAndDiagnose := by
  unfold parse_ts_packet_header payload_start at h
  grind [packet_policy_for_descramble_failure]

/-- A packet with a transport error is refused, by a failure that drops it. -/
theorem descramble_of_transport_error {packet : List UInt8}
    {target_pids : List TransportStreamPid} {key_slot : DescramblerKeySlot}
    (htei : (byte packet 1 &&& 0x80) != 0) :
    ∃ failure, (descramble_ts_packet_in_place packet target_pids key_slot).2 = .error failure ∧
      packet_policy_for_descramble_failure failure = .DropAndDiagnose := by
  unfold descramble_ts_packet_in_place
  cases hheader : parse_ts_packet_header packet with
  | error failure => exact ⟨failure, rfl, policy_of_parse_error hheader⟩
  | ok header =>
    obtain ⟨-, -, -, hflag, -⟩ := parse_ts_packet_header.spec hheader
    dsimp only
    rw [if_pos (hflag.trans htei)]
    exact ⟨.TransportErrorRecord, rfl, rfl⟩

/-! ## The decision -/

section

variable {packet : TsPacket} {packet_pid : PacketPid} {demux_id : Int}

theorem first_answer_of_transport_error (htei : (byte packet.val 1 &&& 0x80) != 0)
    (targets : List ResolvedDescramblerPacketSnapshot) :
    ((∀ snapshot ∈ targets, snapshot.key_slot = none) ∧
      first_answer targets packet = none) ∨
    ((∃ snapshot ∈ targets, snapshot.key_slot.isSome) ∧ ∃ failure,
      first_answer targets packet = some (.error failure) ∧
      packet_policy_for_descramble_failure failure = .DropAndDiagnose) := by
  induction targets with
  | nil => exact .inl ⟨nofun, rfl⟩
  | cons snapshot rest ih =>
    unfold first_answer
    rw [findSome?_cons, descramble_packet]
    cases hkey : snapshot.key_slot with
    | none =>
      rcases ih with ⟨hnone, hanswer⟩ | ⟨⟨other, hmem, hsome⟩, hanswer⟩
      · exact .inl ⟨forall_mem_cons.mpr ⟨hkey, hnone⟩, hanswer⟩
      · exact .inr ⟨⟨other, mem_cons_of_mem _ hmem, hsome⟩, hanswer⟩
    | some key_slot =>
      obtain ⟨failure, herror, hpolicy⟩ := descramble_of_transport_error htei
      refine .inr ⟨⟨snapshot, mem_cons_self, by rw [hkey]; rfl⟩, failure, ?_, hpolicy⟩
      dsimp only [Option.map_some]
      rw [herror]
      rfl

/-- The sessions hand the packet on unless one with keys targets its PID. -/
theorem decide_of_transport_error (material : ResolvedDescramblerPacketMaterial)
    (htei : (byte packet.val 1 &&& 0x80) != 0) :
    (material.decide_descrambled_packet demux_id packet_pid packet).packet = packet ∧
    (HandsOn (material.decide_descrambled_packet demux_id packet_pid packet).flow ↔
      ¬ ∃ snapshot ∈ material.snapshots,
        snapshot.targets_packet_pid packet_pid ∧ snapshot.key_slot.isSome) := by
  unfold decide_descrambled_packet
  dsimp only
  rcases first_answer_of_transport_error htei
    (material.snapshots.filter (·.targets_packet_pid packet_pid)) with
    ⟨hnone, hanswer⟩ | ⟨⟨snapshot, hmem, hsome⟩, failure, hanswer, hpolicy⟩ <;> rw [hanswer]
  · refine ⟨rfl, iff_of_true ?_ ?_⟩
    · dsimp only [failure_decision]
      split <;> exact .inr (.inr rfl)
    · rintro ⟨snapshot, hmem, htarget, hsome⟩
      rw [hnone snapshot (mem_filter.mpr ⟨hmem, htarget⟩)] at hsome
      cases hsome
  · obtain ⟨hmem, htarget⟩ := mem_filter.mp hmem
    refine ⟨rfl, iff_of_false ?_ (not_not_intro ⟨snapshot, hmem, htarget, hsome⟩)⟩
    dsimp only [failure_decision, flow_for_descramble_failure]
    rw [hpolicy]
    rintro (h | h | h) <;> cases h

end

/-! ## The claims -/

section

variable (source_filter_generation : Int → TransportStreamPid → HalResult Nat)
  (demux_id : Int) (packet_pid : PacketPid)

/-- A claim on the PID, through a source filter that is still the one that it was made for. -/
def ClaimCounts (claim : DescramblerPidClaim) : Prop :=
  claim.pid = packet_pid ∧ ∀ source, claim.source_filter_ref = some source →
    source_filter_generation source.filter_id claim.pid = .ok source.generation

/-- Claims change neither the keys nor the snapshots that are there, and claim their PID where one
of them counts. -/
structure Resolved (counts : Prop)
    (vars vars' : ResolvedDescramblerPacketSnapshot × ResolvedDescramblerPacketMaterial) :
    Prop where
  key_slot : vars'.1.key_slot = vars.1.key_slot
  snapshots : vars'.2.snapshots = vars.2.snapshots
  pids : ∀ pid, pid ∈ vars'.1.packet_pids ↔ pid = packet_pid ∧ counts ∨ pid ∈ vars.1.packet_pids

variable (vars : ResolvedDescramblerPacketSnapshot × ResolvedDescramblerPacketMaterial)

theorem resolve_claim.spec (claim : DescramblerPidClaim) :
    Resolved packet_pid (ClaimCounts source_filter_generation packet_pid claim) vars
      (resolve_claim source_filter_generation demux_id packet_pid vars claim) := by
  obtain ⟨snapshot, material⟩ := vars
  unfold resolve_claim ClaimCounts
  dsimp only
  -- a claim that counts puts its PID in front, the others leave the snapshot
  repeat' split
  all_goals exact ⟨rfl, rfl, fun pid => by grind⟩

theorem resolve_claims.spec (claims : List DescramblerPidClaim) :
    Resolved packet_pid (∃ claim ∈ claims, ClaimCounts source_filter_generation packet_pid claim)
      vars (claims.foldl (resolve_claim source_filter_generation demux_id packet_pid) vars) := by
  induction claims generalizing vars with
  | nil => exact ⟨rfl, rfl, fun pid => by simp⟩
  | cons claim claims ih =>
    have hfirst := resolve_claim.spec source_filter_generation demux_id packet_pid vars claim
    have hrest := ih (resolve_claim source_filter_generation demux_id packet_pid vars claim)
    refine ⟨hrest.key_slot.trans hfirst.key_slot, hrest.snapshots.trans hfirst.snapshots,
      fun pid => ?_⟩
    rw [foldl_cons, hrest.pids, hfirst.pids, exists_mem_cons_iff, and_or_left, or_assoc]
    exact or_left_comm

variable (material : ResolvedDescramblerPacketMaterial) (claim_set : ResolvedDescramblerClaimSet)

/-- A session that has keys and a claim that counts. -/
def SessionTargets : Prop :=
  claim_set.key_slot.isSome ∧
    ∃ claim ∈ claim_set.claims, ClaimCounts source_filter_generation packet_pid claim

/-- The packet meets a snapshot with keys. -/
def MeetsKeys : Prop :=
  ∃ snapshot ∈ material.snapshots,
    snapshot.targets_packet_pid packet_pid ∧ snapshot.key_slot.isSome

theorem resolve_claim_set.spec :
    MeetsKeys packet_pid
        (resolve_claim_set source_filter_generation demux_id packet_pid material claim_set) ↔
      MeetsKeys packet_pid material ∨
        SessionTargets source_filter_generation packet_pid claim_set := by
  obtain ⟨hkey, hsnapshots, hpids⟩ := resolve_claims.spec source_filter_generation demux_id
    packet_pid ({ key_slot := claim_set.key_slot }, material) claim_set.claims
  unfold resolve_claim_set
  generalize claim_set.claims.foldl _ _ = vars' at hkey hsnapshots hpids ⊢
  obtain ⟨snapshot, material'⟩ := vars'
  dsimp only at hkey hsnapshots hpids ⊢
  have hclaimed : snapshot.targets_packet_pid packet_pid = true ↔
      ∃ claim ∈ claim_set.claims, ClaimCounts source_filter_generation packet_pid claim := by
    unfold targets_packet_pid
    simp [hpids]
  unfold MeetsKeys SessionTargets
  split_ifs with hempty
  · rw [hsnapshots]
    have hno : ¬ ∃ claim ∈ claim_set.claims,
      ClaimCounts source_filter_generation packet_pid claim := by
      grind [targets_packet_pid]
    exact (or_iff_left fun h => hno h.2).symm
  · simp only [hsnapshots, mem_append, mem_singleton, or_and_right, exists_or, exists_eq_left,
      hclaimed, hkey, and_comm]

theorem resolve_claim_sets.spec (claim_sets : List ResolvedDescramblerClaimSet)
    (material : ResolvedDescramblerPacketMaterial) :
    MeetsKeys packet_pid (claim_sets.foldl
        (resolve_claim_set source_filter_generation demux_id packet_pid) material) ↔
      MeetsKeys packet_pid material ∨ ∃ claim_set ∈ claim_sets,
        SessionTargets source_filter_generation packet_pid claim_set := by
  induction claim_sets generalizing material with
  | nil => simp
  | cons claim_set claim_sets ih =>
    rw [foldl_cons, ih, resolve_claim_set.spec, exists_mem_cons_iff, or_assoc]

end

/-! ## The demux -/

section

variable {filters filters' : List PipelineFilterView} {arrival arrival' : Arrival}
  {report downstream : PipelineReport}

/-- What the filters of a demux get of a packet: every raw and every record filter that takes its
PID gets it, and nothing is assembled. -/
structure OnlyPackets (filters : List PipelineFilterView) (arrival : Arrival)
    (report : PipelineReport) : Prop where
  raw : ∀ filter ∈ filters,
    filter.accepts_packet_pid_from_origin arrival.packet.pid arrival.origin →
    filter.open_kind = .Raw → .RawPacket filter.filter_id ∈ report.delivery_actions
  record : ∀ filter ∈ filters,
    filter.accepts_packet_pid_from_origin arrival.packet.pid arrival.origin →
    filter.open_kind = .Record → .DvrMirror filter.filter_id ∈ report.delivery_actions
  actions : ∀ action ∈ report.delivery_actions, isPacketAction action
  events : ∀ event ∈ report.generated_events, isPacketEvent event
  accepted : report.accepted_packets ≠ 0

theorem OnlyPackets.extend (h : OnlyPackets filters arrival report)
    (h' : OnlyPackets filters' arrival' downstream) :
    OnlyPackets filters arrival (report.extend downstream) where
  raw filter hmem haccepts hkind := mem_append_left _ (h.raw filter hmem haccepts hkind)
  record filter hmem haccepts hkind := mem_append_left _ (h.record filter hmem haccepts hkind)
  actions action hmem := (mem_append.mp hmem).elim (h.actions action) (h'.actions action)
  events event hmem := (mem_append.mp hmem).elim (h.events event) (h'.events event)
  accepted := h.accepted

/-- The plan for a packet with a transport error has only packet actions. -/
theorem only_packets_of_transport_error (htei : arrival.packet.view.transport_error_indicator) :
    OnlyPackets filters arrival (plan_ts_packet_report arrival.origin filters arrival.packet) := by
  have hmem : ∀ filter ∈ filters,
      filter.accepts_packet_pid_from_origin arrival.packet.pid arrival.origin →
      ∀ action ∈ packet_actions filter,
        action ∈ plan_packet_delivery arrival.packet.pid arrival.origin filters :=
    fun filter hfilter haccepts action haction =>
      mem_flatMap.mpr ⟨filter, mem_filter.mpr ⟨hfilter, haccepts⟩, haction⟩
  unfold plan_ts_packet_report plan_payload
  simp only [htei, if_true, ite_self]
  refine ⟨fun filter hfilter haccepts hkind => hmem filter hfilter haccepts _ ?_,
    fun filter hfilter haccepts hkind => hmem filter hfilter haccepts _ ?_,
    fun action haction => packet_action_of_plan haction, fun event hevent => ?_, nofun⟩
  · simp [packet_actions, hkind]
  · simp [packet_actions, hkind]
  · obtain ⟨action, haction, hevent⟩ := mem_filterMap.mp hevent
    have hpacket := packet_action_of_plan haction
    cases action with
    | RawPacket | RecordPacket =>
      cases hevent
      rfl
    | DvrMirror => cases hevent
    | _ => cases hpacket

end

/-- The checks hold back assembly, and plan nothing. -/
structure HeldBack (report : PipelineReport) : Prop where
  reason : .TransportErrorIndicator ∈ report.assembly_suppression_reasons
  actions : report.delivery_actions = []
  events : report.generated_events = []

section

variable {κ ε : Type} {env : Delivery ε} {validated : ValidatedTsPacket} {origin : TsInputOrigin}
  {demux demux' : DemuxRuntime κ ε} {passage passage' : Passage κ ε}
  {report report' : PipelineReport}

/-- The clocks are not looked at then, so that no filter fails before the packet is planned. -/
theorem HeldBack.observe_pcr_clock (hheld : HeldBack report)
    (h : demux.observe_pcr_clock env validated origin report.assembly_suppression_reasons =
      some demux') : demux'.filter_views = demux.filter_views := by
  unfold DemuxRuntime.observe_pcr_clock at h
  split at h
  · cases h
    rfl
  · rw [if_pos (any_eq_true.mpr ⟨.TransportErrorIndicator, hheld.reason, rfl⟩)] at h
    cases h
    rfl

variable (htei : validated.view.transport_error_indicator = true)
include htei

theorem accept_of_transport_error (origin : TsInputOrigin) :
    Isolation.Answers HeldBack (accept_validated_ts_packet origin validated) := by
  refine .bind (P := HeldBack) ?_ fun report h => .bind (P := HeldBack) ?_
    fun report h => .after fun outcome => .bind (P := HeldBack) ?_ fun report h => ?_
  · unfold observe_transport_error
    rw [if_pos htei]
    exact fun _ => ⟨mem_append_right _ mem_cons_self, rfl, rfl⟩
  · unfold observe_discontinuity_indicator
    split
    · exact fun _ => ⟨h.reason, h.actions, h.events⟩
    · exact fun _ => h
  · cases outcome with
    | Duplicate | CounterCollision =>
      exact fun _ => ⟨mem_append_left _ h.reason, h.actions, h.events⟩
    | Discontinuity => exact fun _ => ⟨h.reason, h.actions, h.events⟩
    | FirstPacket | InOrder => exact fun _ => h
  · intro _
    split
    · exact ⟨mem_append_left _ h.reason, h.actions, h.events⟩
    · exact ⟨h.reason, h.actions, h.events⟩

theorem assemble_of_transport_error (hheld : HeldBack report)
    (haccepted : report.accepted_packets ≠ 0) (demux : DemuxRuntime κ ε) :
    OnlyPackets demux.filter_views ⟨origin, validated⟩
      (demux.assemble validated origin report).1 := by
  have honly : OnlyPackets demux.filter_views ⟨origin, validated⟩
      (plan_ts_packet_report origin demux.filter_views validated) :=
    only_packets_of_transport_error htei
  unfold assemble plan_and_assemble_ts_packet_report_after_preflight
  simp only [htei]
  refine ⟨fun filter hmem hpid hkind => mem_append_right _ (honly.raw filter hmem hpid hkind),
    fun filter hmem hpid hkind => mem_append_right _ (honly.record filter hmem hpid hkind),
    fun action hmem => ?_, fun event hmem => ?_, haccepted⟩
  · rcases mem_append.mp hmem with hmem | hmem
    · rw [hheld.actions] at hmem
      cases hmem
    · exact honly.actions action hmem
  · rcases mem_append.mp (mem_of_mem_filter hmem) with hmem | hmem
    · rw [hheld.events] at hmem
      cases hmem
    · exact honly.events event hmem

/-- At one origin only packets are delivered. -/
theorem serve_of_transport_error
    (h : serve env validated origin passage = some (report, passage')) :
    OnlyPackets passage.demux.filter_views ⟨origin, validated⟩ report := by
  have hheld : HeldBack (passage.demux.receive validated origin).1 :=
    accept_of_transport_error htei origin passage.demux.parts.pipeline
  have haccepted := (receive.spec passage.demux validated origin).2.1
  unfold serve at h
  obtain ⟨demux, hpcr, h⟩ := Option.bind_eq_some_iff.mp h
  obtain ⟨delivered, -, h⟩ := Option.map_eq_some_iff.mp h
  cases h
  have hsame : demux.filter_views = passage.demux.filter_views :=
    (hheld.observe_pcr_clock hpcr).trans rfl
  exact hsame ▸ assemble_of_transport_error htei hheld haccepted demux

omit htei in
/-- What goes on from the raw filters is added to the report. -/
theorem propagate_keeps_only_packets
    {push : TsInputOrigin → Passage κ ε → Option (PipelineReport × Passage κ ε)}
    (hpush : ∀ {origin passage report passage'}, push origin passage = some (report, passage') →
      OnlyPackets passage.demux.filter_views ⟨origin, validated⟩ report)
    {filters : List PipelineFilterView} {arrival : Arrival} (source_filter_ids : List Int)
    (hreport : OnlyPackets filters arrival report)
    (h : source_filter_ids.foldlM (propagate push) (report, passage) =
      some (report', passage')) : OnlyPackets filters arrival report' := by
  induction source_filter_ids generalizing report passage with
  | nil =>
    cases h
    exact hreport
  | cons source_filter_id source_filter_ids ih =>
    obtain ⟨⟨next, passage₁⟩, hstep, hrest⟩ := Option.bind_eq_some_iff.mp h
    refine ih ?_ hrest
    unfold propagate at hstep
    dsimp only at hstep
    split at hstep
    · cases hstep
      exact hreport
    split at hstep
    · split at hstep
      · cases hstep
        exact hreport
      · obtain ⟨⟨downstream, passage₂⟩, hpushed, hstep⟩ := Option.map_eq_some_iff.mp hstep
        cases hstep
        exact hreport.extend (hpush hpushed)
    · cases hstep
      exact hreport

/-- The whole way of the packet through the demux. -/
theorem push_within_of_transport_error (fuel : Nat)
    (h : push_within env validated fuel origin passage = some (report, passage')) :
    OnlyPackets passage.demux.filter_views ⟨origin, validated⟩ report := by
  induction fuel generalizing origin passage report passage' with
  | zero => cases h
  | succ fuel ih =>
    obtain ⟨⟨served, passage₁⟩, hserve, h⟩ := Option.bind_eq_some_iff.mp h
    exact propagate_keeps_only_packets ih _ (serve_of_transport_error htei hserve) h

end

/-! ## The law -/

/-- A session with keys for the demux has claimed the PID. -/
def ClaimedWithKeys {ρ : Type} (registry : Registry ρ) (state : ρ) (demux_id : Int)
    (demux_generation : Nat) (pid : PacketPid) : Prop :=
  ∃ claim_set ∈ registry.resolved_descrambler_claims_for_demux state demux_id demux_generation,
    SessionTargets (registry.validate_descrambler_source_filter state demux_id demux_generation)
      pid claim_set

/-- The service: its demuxes, and whatever else the registry holds. -/
structure Service (ρ κ ε : Type) where
  rest : ρ
  demuxes : OrdMap Int (DemuxRuntime κ ε) := {}

/-- The registry with the runtimes of the demuxes behind it: a packet for a demux goes through its
runtime. -/
def Registry.withDemuxes {ρ κ ε : Type} (registry : Registry (Service ρ κ ε)) (env : Delivery ε) :
    Registry (Service ρ κ ε) :=
  { registry with
    demux_generation := fun state demux_id => (state.demuxes.get demux_id).map (·.generation)
    push_validated_ts_packet := fun state demux_id validated origin =>
      match (state.demuxes.get demux_id).bind
        (·.push_validated_ts_packet_from_origin env validated origin) with
      | some (report, passage) =>
        ({ state with demuxes := state.demuxes.insert demux_id passage.demux }, report)
      | none => (state, {}) }

section

variable {ρ κ ε : Type} (registry : Registry (Service ρ κ ε)) (env : Delivery ε)
  (validated : ValidatedTsPacket) (frontend_generation : Nat)

/-- The demux is given the packet: its runtime has it, and the report is that of the runtime, by
which every raw and every record filter for the PID gets the packet. -/
def GivenTo (state : Service ρ κ ε) (demux_id : Int) (state' : Service ρ κ ε)
    (report : PipelineReport) : Prop :=
  ∃ demux pushed passage diagnostics, state.demuxes.get demux_id = some demux ∧
    demux.push_validated_ts_packet_from_origin env validated (.Frontend frontend_generation) =
      some (pushed, passage) ∧
    state' = { state with demuxes := state.demuxes.insert demux_id passage.demux } ∧
    report = { pushed with diagnostics := pushed.diagnostics ++ diagnostics } ∧
    OnlyPackets demux.filter_views ⟨.Frontend frontend_generation, validated⟩ report

/-- The demux is registered, and its filters are in order. -/
def Stands (state : Service ρ κ ε) (demux_id : Int) : Prop :=
  ∃ demux, state.demuxes.get demux_id = some demux ∧ demux.Sound

/-- Nothing of the packet gets to a demux. -/
structure Withheld (state state' : Service ρ κ ε) (report : PipelineReport) : Prop where
  state : state' = state
  accepted : report.accepted_packets = 0
  actions : report.delivery_actions = []
  events : report.generated_events = []

/-- The turns of the bound demuxes, one after the other. A demux is given the packet exactly when
the packet is not scrambled or no session with keys has claimed its PID; else nothing gets there. -/
inductive Turns : Service ρ κ ε → List Int → Service ρ κ ε → List PipelineReport → Prop
  | done (state : Service ρ κ ε) : Turns state [] state []
  | turn {state state' state'' : Service ρ κ ε} {demux_id : Int} {demux : DemuxRuntime κ ε}
      {demux_ids : List Int} {report : PipelineReport} {reports : List PipelineReport}
      (registered : state.demuxes.get demux_id = some demux)
      (given_iff : GivenTo env validated frontend_generation state demux_id state' report ↔
        (validated.view.scrambling_control = 0 ∨
          ¬ ClaimedWithKeys registry state demux_id demux.generation validated.pid))
      (or_withheld : GivenTo env validated frontend_generation state demux_id state' report ∨
        Withheld state state' report)
      (rest : Turns state' demux_ids state'' reports) :
      Turns state (demux_id :: demux_ids) state'' (report :: reports)

end

section

variable {ρ κ ε : Type} (registry : Registry (Service ρ κ ε)) (env : Delivery ε)
  (state : Service ρ κ ε) (demux_id : Int) {packet : TsPacket} {validated : ValidatedTsPacket}
  (hvalid : validate packet = .ok validated)
  (htei : validated.view.transport_error_indicator = true)
include hvalid

theorem deliver_hands_on {ρ : Type} (registry : Registry ρ) (state : ρ) (frontend_generation : Nat)
    {decision : ResolvedDescramblerPacketDecision} (hpacket : decision.packet = packet)
    (hhands : HandsOn decision.flow) :
    registry.deliver_decision state frontend_generation demux_id decision =
      let (state, report) := registry.push_validated_ts_packet state demux_id validated
        (.Frontend frontend_generation)
      (state, .ok { report with diagnostics := report.diagnostics ++ decision.diagnostics }) := by
  unfold Registry.deliver_decision
  rw [hpacket, hvalid]
  rcases hhands with hflow | hflow | hflow <;> rw [hflow]

omit hvalid in
theorem deliver_withholds {ρ : Type} (registry : Registry ρ) (state : ρ) (frontend_generation : Nat)
    {decision : ResolvedDescramblerPacketDecision} (hhands : ¬ HandsOn decision.flow) :
    registry.deliver_decision state frontend_generation demux_id decision =
      (state, .ok { diagnostics := decision.diagnostics }) := by
  unfold Registry.deliver_decision
  cases hflow : decision.flow with
  | Drop | DiagnoseOnly => rfl
  | Clear => exact absurd (.inl hflow) hhands
  | Descrambled => exact absurd (.inr (.inl hflow)) hhands
  | RecordPassThroughAndDropAssembly => exact absurd (.inr (.inr hflow)) hhands

include htei

/-- The decision of the registry leaves the packet as it is, and hands it on unless a session with
keys has claimed its PID. -/
theorem decision_of_transport_error {ρ : Type} (registry : Registry ρ) (state : ρ)
    (demux_generation : Nat) :
    (registry.decide_descrambled_packet state demux_id demux_generation packet).packet = packet ∧
    (HandsOn (registry.decide_descrambled_packet state demux_id demux_generation packet).flow ↔
      (validated.view.scrambling_control = 0 ∨
        ¬ ClaimedWithKeys registry state demux_id demux_generation validated.pid)) := by
  unfold Registry.decide_descrambled_packet
  rw [hvalid]
  dsimp only
  split
  · rename_i hclear
    exact ⟨rfl, iff_of_true (.inl rfl) (.inl hclear)⟩
  rename_i hscrambled
  have hbyte : (byte packet.val 1 &&& 0x80) != 0 := by
    obtain ⟨-, -, -, flags, offset, -, hview⟩ := validate_iff.mp (validate_of_ok hvalid)
    rw [hview] at htei
    exact htei
  obtain ⟨hsame, hhands⟩ := decide_of_transport_error
    (registry.resolved_descrambler_packet_material_for_demux state demux_id demux_generation
      validated.pid) hbyte
  refine ⟨hsame, ?_⟩
  rw [hhands, or_iff_right hscrambled]
  refine not_congr ((resolve_claim_sets.spec _ _ _ _ _).trans (or_iff_right ?_))
  rintro ⟨snapshot, hmem, -⟩
  cases hmem

omit hvalid in
/-- A demux takes the packet, and stands after it. -/
theorem given_to_of_transport_error {frontend_generation : Nat} {demux : DemuxRuntime κ ε}
    (hget : state.demuxes.get demux_id = some demux) (hsound : demux.Sound)
    (diagnostics : List PipelineDiagnostic) :
    ∃ state' report, (registry.withDemuxes env).push_validated_ts_packet state demux_id validated
        (.Frontend frontend_generation) = (state', report) ∧
      GivenTo env validated frontend_generation state demux_id state'
        { report with diagnostics := report.diagnostics ++ diagnostics } ∧
      ∀ id, Stands state id → Stands state' id := by
  obtain ⟨report, passage, hpush, hwalked⟩ := push_ingress env False hsound
    (fun h => h.elim) validated (.Frontend frontend_generation) fun h => h.elim
  have honly := push_within_of_transport_error htei _ hpush
  refine ⟨{ state with demuxes := state.demuxes.insert demux_id passage.demux }, report, ?_,
    ⟨demux, report, passage, diagnostics, hget, hpush, rfl, rfl,
      ⟨honly.raw, honly.record, honly.actions, honly.events, honly.accepted⟩⟩, fun id hid => ?_⟩
  · unfold Registry.withDemuxes
    dsimp only
    rw [hget, Option.bind_some, push_validated_ts_packet_from_origin, hpush]
  · unfold Stands
    rw [OrdMap.get_insert]
    split
    · exact ⟨passage.demux, rfl, hwalked.fades.sound hsound⟩
    · exact hid

/-- The turn of one demux. -/
theorem turn_of_transport_error (frontend_generation : Nat) {demux : DemuxRuntime κ ε}
    (hget : state.demuxes.get demux_id = some demux) (hsound : demux.Sound) :
    ∃ state' report, (registry.withDemuxes env).push_to_demux state frontend_generation packet
        demux_id = (state', .ok report) ∧
      (∀ id, Stands state id → Stands state' id) ∧
      ∀ {demux_ids state'' reports},
        Turns registry env validated frontend_generation state' demux_ids state'' reports →
        Turns registry env validated frontend_generation state (demux_id :: demux_ids) state''
          (report :: reports) := by
  obtain ⟨hpacket, hhands⟩ := decision_of_transport_error demux_id hvalid htei
    (registry.withDemuxes env) state demux.generation
  have hturn : (registry.withDemuxes env).push_to_demux state frontend_generation packet demux_id =
      (registry.withDemuxes env).deliver_decision state frontend_generation demux_id
        ((registry.withDemuxes env).decide_descrambled_packet state demux_id demux.generation
          packet) := by
    unfold Registry.push_to_demux Registry.withDemuxes
    simp only [hget, Option.map_some]
  rw [hturn]
  by_cases hpasses : HandsOn ((registry.withDemuxes env).decide_descrambled_packet state demux_id
    demux.generation packet).flow
  · obtain ⟨state', report, hpush, hgiven, hstands⟩ :=
      given_to_of_transport_error registry env state demux_id htei hget hsound
        ((registry.withDemuxes env).decide_descrambled_packet state demux_id demux.generation
          packet).diagnostics
    rw [deliver_hands_on demux_id hvalid _ _ _ hpacket hpasses, hpush]
    exact ⟨_, _, rfl, hstands, .turn hget (iff_of_true hgiven (hhands.mp hpasses)) (.inl hgiven)⟩
  · rw [deliver_withholds demux_id _ _ _ hpasses]
    refine ⟨_, _, rfl, fun _ h => h, .turn hget (iff_of_false ?_ (mt hhands.mpr hpasses))
      (.inr ⟨rfl, rfl, rfl, rfl⟩)⟩
    rintro ⟨_, _, _, _, -, -, -, -, honly⟩
    exact honly.accepted rfl

/-- The loop over the demuxes: it ends without an error. -/
theorem turns_of_transport_error (frontend_generation : Nat) (demux_ids : List Int)
    (reports : List PipelineReport) (hstands : ∀ id ∈ demux_ids, Stands state id) :
    ∃ state' more, (registry.withDemuxes env).push_to_demuxes frontend_generation packet state
        demux_ids reports = (state', .ok (reports ++ more)) ∧
      Turns registry env validated frontend_generation state demux_ids state' more := by
  induction demux_ids generalizing state reports with
  | nil => exact ⟨state, [], by rw [append_nil]; rfl, .done state⟩
  | cons demux_id demux_ids ih =>
    obtain ⟨⟨demux, hget, hsound⟩, hothers⟩ := forall_mem_cons.mp hstands
    obtain ⟨state₁, report, hturn, hkept, hturns⟩ := turn_of_transport_error registry env state
      demux_id hvalid htei frontend_generation hget hsound
    obtain ⟨state', more, hrest, hmore⟩ := ih state₁ (reports ++ [report])
      fun id hid => hkept id (hothers id hid)
    refine ⟨state', report :: more, ?_, hturns hmore⟩
    unfold Registry.push_to_demuxes
    rw [hturn]
    dsimp only
    rw [hrest, append_assoc, singleton_append]

end

/-- A packet with a transport error goes to each demux that its frontend is bound to, as it is and
so that the raw and record filters for its PID get it, exactly when it is not scrambled or no
session with keys has claimed its PID there. -/
theorem transport_errors_pass_unless_claimed_with_keys {ρ κ ε : Type} [DecidableEq κ]
    (registry : Registry (Service ρ κ ε)) (env : Delivery ε) (state : Service ρ κ ε)
    {frontend_id : Int} {demux_ids : List Int} {frontend_generation : Nat}
    (hready : registry.ensure_frontend_demux_sink_ready state frontend_id = .ok demux_ids)
    (hgeneration : registry.frontend_generation state frontend_id = some frontend_generation)
    (hdemuxes : ∀ id ∈ demux_ids, ∃ demux generation parts inputs,
      state.demuxes.get id = some demux ∧
        run env inputs (.new generation parts) = some demux)
    {packet : TsPacket} {validated : ValidatedTsPacket}
    (hvalid : validate packet = .ok validated)
    (htei : validated.view.transport_error_indicator) :
    ∃ state' reports, (registry.withDemuxes env).push_frontend_ts_packet_to_bound_demuxes state
        frontend_id packet = (state', .ok reports) ∧
      Turns registry env validated frontend_generation state demux_ids state' reports := by
  have hstands : ∀ id ∈ demux_ids, Stands state id := by
    intro id hid
    obtain ⟨demux, generation, parts, inputs, hget, hrun⟩ := hdemuxes id hid
    obtain ⟨_, hrun', hsound⟩ :=
      run_returns env inputs (new_sound generation parts)
    cases hrun.symm.trans hrun'
    exact ⟨demux, hget, hsound⟩
  obtain ⟨state', reports, hloop, hturns⟩ := turns_of_transport_error registry env state hvalid htei
    frontend_generation demux_ids [] hstands
  refine ⟨state', reports, ?_, hturns⟩
  have hready' : (registry.withDemuxes env).ensure_frontend_demux_sink_ready state frontend_id =
      .ok demux_ids := hready
  have hgeneration' : (registry.withDemuxes env).frontend_generation state frontend_id =
      some frontend_generation := hgeneration
  unfold Registry.push_frontend_ts_packet_to_bound_demuxes
  simp only [hready', hgeneration']
  exact hloop

namespace OneSession

open Delivery

/-- A packet of the PID of the session with the transport error indicator and odd scrambling. -/
def brokenPacket : TsPacket :=
  ⟨scrambled (payloadPacket 0x81 0x00).val 4 .Odd zeroPrepared, by decide +kernel⟩

/-- A frontend with two demuxes, and a session on the first that holds a key for the PID. -/
def boundRegistry : Registry (Service Unit Unit Unit) where
  has_frontend _ _ := true
  frontend_bound_demux_ids _ _ := [0, 1]
  frontend_generation _ _ := some 1
  demux_generation _ _ := none
  resolved_descrambler_claims_for_demux _ demux_id generation :=
    if demux_id = 0 then sessionRegistry.resolved_descrambler_claims_for_demux () 0 generation
    else []
  validate_descrambler_source_filter _ _ _ _ _ := .ok 0
  push_validated_ts_packet state _ _ _ := (state, {})

def twoDemuxes (demux : DemuxRuntime Unit Unit) : Service Unit Unit Unit :=
  ⟨(), (OrdMap.insert .empty 0 demux).insert 1 demux⟩

/-- What goes to the filters when both demuxes have a raw filter and two record filters for the
PID, one of them behind the raw filter. -/
def deliveredOf (packet : TsPacket) : Option (List (List PipelineDeliveryAction)) := do
  let demux ← run undisturbed (sharedDvr true) (.new 1 ⟨{}, ()⟩)
  let reports ← ((boundRegistry.withDemuxes undisturbed).push_frontend_ts_packet_to_bound_demuxes
    (twoDemuxes demux) 0 packet).2.toOption
  return reports.map (·.delivery_actions)

/-- The packet is valid, of the PID of the session, and scrambled. -/
theorem validate_brokenPacket : (validate brokenPacket).toOption.map
    (fun validated => (validated.view.transport_error_indicator, validated.view.scrambling_control,
      validated.pid.val)) = some (true, 3, 0x0100) := by
  decide +kernel

/-- The filters of the demux with the session get nothing of the packet, those of the other one
do. -/
theorem the_broken_packet_is_dropped :
    (validate brokenPacket).toOption.map (fun validated =>
      (validated.view.transport_error_indicator, validated.view.scrambling_control,
        validated.pid.val)) = some (true, 3, 0x0100) ∧
    deliveredOf brokenPacket =
      some [[], [.RawPacket 1, .DvrMirror 2, .RecordPacket 2, .DvrMirror 3, .RecordPacket 3]] :=
  ⟨validate_brokenPacket, by decide +kernel⟩

/-- The same packet by the law: it is withheld from the first demux and given to the second. -/
theorem the_broken_packet_is_kept : ∃ demux validated state₁ state₂ first second,
    validate brokenPacket = .ok validated ∧
    run undisturbed (sharedDvr true) (.new 1 ⟨{}, ()⟩) = some demux ∧
    (boundRegistry.withDemuxes undisturbed).push_frontend_ts_packet_to_bound_demuxes
      (twoDemuxes demux) 0 brokenPacket = (state₂, .ok [first, second]) ∧
    Withheld (twoDemuxes demux) state₁ first ∧
    GivenTo undisturbed validated 1 state₁ 1 state₂ second := by
  obtain ⟨validated, hvalid, hview⟩ := Option.map_eq_some_iff.mp validate_brokenPacket
  replace hvalid : validate brokenPacket = .ok validated := by
    cases hresult : validate brokenPacket <;> rw [hresult] at hvalid <;>
      cases hvalid
    rfl
  simp only [Prod.mk.injEq] at hview
  obtain ⟨htei, hscrambled, hpid⟩ := hview
  obtain ⟨demux, hrun, -⟩ := run_returns undisturbed (sharedDvr true) (new_sound 1 ⟨{}, ()⟩)
  have hready : boundRegistry.ensure_frontend_demux_sink_ready (twoDemuxes demux) 0 = .ok [0, 1] :=
    rfl
  have hdemuxes : ∀ id ∈ [(0 : Int), 1], (twoDemuxes demux).demuxes.get id = some demux := by
    simp [twoDemuxes, OrdMap.get_insert]
  obtain ⟨state₂, reports, hpush, hturns⟩ := transport_errors_pass_unless_claimed_with_keys
    boundRegistry undisturbed (twoDemuxes demux) hready rfl
    (fun id hid => ⟨demux, 1, ⟨{}, ()⟩, sharedDvr true, hdemuxes id hid, hrun⟩) hvalid htei
  obtain _ | ⟨_, hfirst, hwithheld, hturns⟩ := hturns
  obtain _ | ⟨_, hsecond, -, hturns⟩ := hturns
  cases hturns
  refine ⟨demux, validated, _, state₂, _, _, hvalid, hrun, hpush, hwithheld.resolve_left ?_,
    hsecond.mpr (.inr ?_)⟩
  · rw [hfirst, hscrambled]
    rintro (h | h)
    · cases h
    · exact h ⟨_, mem_singleton_self _, rfl, _, mem_singleton_self _, Subtype.ext hpid.symm, nofun⟩
  · rintro ⟨claim_set, hmem, -⟩
    cases hmem

end OneSession

end tuner_hal2_service_runtime
