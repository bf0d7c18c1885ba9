-- One packet through a demux: the filters that take it from its origin, the
-- record DVRs it is written to, and the filters behind those filters, to which
-- it goes on with the filter before them as its origin.
import TvStack.DemuxSources

open Words

namespace tuner_hal2_demux

open packet_pipeline

def PES_STREAM_ID_WILDCARD : Int := 0xffff

def FilterRuntime.accepts_pes_stream_id {κ : Type} (self : FilterRuntime κ) (stream_id : UInt8) :
    Bool :=
  match self.pes_stream_id with
  | none => true
  | some configured => configured = PES_STREAM_ID_WILDCARD || configured = stream_id.toNat

inductive RecordIndexCommitMode
  | Parse
  | ResetThenParse
  | AdvanceOnly
  | ResetAndAdvance
  deriving DecidableEq

inductive RecordDvrMirrorWriteOutcome
  | Written
  | WakePending
  | Overflow
  deriving DecidableEq

/-- What `begin_producer` of a record filter gives, with the room for its byte offset. -/
inductive Admission
  | Admitted
  | Exhausted
  | Refused
  deriving DecidableEq

/-- A write to the queue of a record DVR: whether the packet is in the queue, what the write
answers, and whether the DVR fails by it. -/
structure RecordWrite where
  written : Bool
  result : Except Unit RecordDvrMirrorWriteOutcome
  dvr_failed : Bool

/-- What a delivery does to a filter that it cannot serve. -/
inductive Mishap
  | Fails (filter_id : Int)
  | Isolated (filter_id : Int)

/-- The steps of a delivery that work on gates, queues and backings, each with any outcome. -/
structure Delivery (ε : Type) extends Resources ε where
  invalidate_pcr_clock_anchor : Parts ε → Int → Parts ε
  /-- Whether the anchor of the filter is of its generation, with the clock observed. -/
  observe_pcr : Parts ε → Nat → Int → Nat → Bool × Parts ε
  /-- The audio timestamps after a gap and the payloads of AV filters. -/
  deliver_av_payloads : Parts ε → ValidatedTsPacket → TsInputOrigin → PipelineReport →
    List Mishap × Parts ε
  (has_gate can_reserve : Parts ε → Int → Bool)
  begin_producer : Parts ε → Int → Admission × Parts ε
  try_write_record_dvr_packet : Parts ε → ValidatedTsPacket → Int → RecordWrite × Parts ε
  commit_permit : Parts ε → Int → Bool × Parts ε
  /-- The record index of the packet and the commit of the permit with it. -/
  commit_record_output : Parts ε → ValidatedTsPacket → RecordIndexCommitMode → Int →
    Bool × Parts ε
  commit_generated_filter_events : Parts ε → ValidatedTsPacket → TsInputOrigin → PipelineReport →
    List Mishap × Parts ε

namespace DemuxRuntime

variable {κ ε : Type} (env : Delivery ε) (self : DemuxRuntime κ ε)

/-- A step behind the filters; when it fails, the filter goes into quarantine. -/
def isolate_unless (step : Parts ε → Bool × Parts ε) (filter_id : Int) :
    Option (DemuxRuntime κ ε) :=
  match step self.parts with
  | (true, parts) => some { self with parts }
  | (false, parts) =>
    { self with parts }.quarantine_filter_runtime env.toResources filter_id

def suffer : Mishap → Option (DemuxRuntime κ ε)
  | .Fails filter_id => some (self.mark_filter_failed filter_id)
  | .Isolated filter_id => self.quarantine_filter_runtime env.toResources filter_id

/-- The filters that a delivery could not serve. -/
def suffer_all (mishaps : List Mishap × Parts ε) : Option (DemuxRuntime κ ε) :=
  mishaps.1.foldlM (fun demux mishap => demux.suffer env mishap) { self with parts := mishaps.2 }

/-! ## Clocks and assembly -/

def pcr_targets (packet_pid : PacketPid) (origin : TsInputOrigin) : List (Int × Nat) :=
  (self.filters.values.filter fun filter =>
    filter.open_kind = .Pcr && filter.state = .Started &&
      filter.pipeline_view.accepts_packet_pid_from_origin packet_pid origin).map
    fun filter => (filter.filter_id, filter.generation)

def holds_back_pcr : PipelineAssemblySuppressionReason → Bool
  | .TransportErrorIndicator | .DuplicatePacket | .ContinuityCounterCollision => true
  | _ => false

def observe_pcr_clock (validated : ValidatedTsPacket) (origin : TsInputOrigin)
    (suppression_reasons : List PipelineAssemblySuppressionReason) : Option (DemuxRuntime κ ε) :=
  let targets := self.pcr_targets validated.pid origin
  if validated.view.flags.discontinuity_indicator then
    some { self with
      parts := targets.foldl (fun parts target => env.invalidate_pcr_clock_anchor parts target.1)
        self.parts }
  else if suppression_reasons.any holds_back_pcr then some self
  else
    match validated.view.flags.pcr_base_90khz with
    | none => some self
    | some raw_pcr_base_33 =>
      targets.foldlM
        (fun demux target =>
          demux.isolate_unless env
            (fun parts => env.observe_pcr parts raw_pcr_base_33 target.1 target.2) target.1)
        self

/-- The filters that a generation overflow of their assembly fails. -/
def overflowed : PipelineDiagnostic → List Int
  | .SectionGenerationOverflow _ filter_ids | .PesGenerationOverflow _ filter_ids => filter_ids
  | _ => []

def mark_filters_failed_for_generation_overflow (diagnostics : List PipelineDiagnostic) :
    DemuxRuntime κ ε :=
  (diagnostics.flatMap overflowed).foldl mark_filter_failed self

/-- PES packets of a stream that their filter is not for are left out. -/
def keeps_event : PipelineGeneratedEvent → Bool
  | .PesPacketReady filter_id _ _ _ packet =>
    (self.filters.get filter_id).any (·.accepts_pes_stream_id packet.stream_id)
  | _ => true

end DemuxRuntime

/-- A report and what comes after it; the number of accepted packets is that of the first. -/
def packet_pipeline.PipelineReport.extend (report downstream : PipelineReport) : PipelineReport :=
  { report with
    dropped_packets := saturating_add U64_MAX report.dropped_packets downstream.dropped_packets
    drop_reasons := report.drop_reasons ++ downstream.drop_reasons
    assembly_suppression_reasons :=
      report.assembly_suppression_reasons ++ downstream.assembly_suppression_reasons
    delivery_actions := report.delivery_actions ++ downstream.delivery_actions
    generated_events := report.generated_events ++ downstream.generated_events
    diagnostics := report.diagnostics ++ downstream.diagnostics }

/-! ## Record DVRs -/

def record_index_commit_mode (report : PipelineReport) : RecordIndexCommitMode :=
  let has target := report.assembly_suppression_reasons.contains target
  let continuity_reset := report.diagnostics.any fun
    | .ContinuityDiscontinuityAssemblyReset _ _ => true
    | _ => false
  if has .TransportErrorIndicator || has .ContinuityCounterCollision then .ResetAndAdvance
  else if has .DuplicatePacket then
    if continuity_reset then .ResetAndAdvance else .AdvanceOnly
  else if continuity_reset then .ResetThenParse
  else .Parse

def mirror_filter : PipelineDeliveryAction → Option Int
  | .DvrMirror filter_id => some filter_id
  | _ => none

def raw_filter : PipelineDeliveryAction → Option Int
  | .RawPacket filter_id => some filter_id
  | _ => none

/-- A set of ids that is walked in their order. -/
abbrev IdSet := OrdMap Int Unit

def IdSet.of (ids : List Int) : IdSet := ids.foldl (fun set id => set.insert id ()) {}

def IdSet.ids (set : IdSet) : List Int := set.items.map Prod.fst

/-- The state of a mirror: the filters whose permit waits for the record index, and the record
DVRs whose queue has the packet. -/
structure Mirror (κ ε : Type) where
  demux : DemuxRuntime κ ε
  committed_permits : IdSet := {}
  written : List Int := []

namespace DemuxRuntime

variable {κ ε : Type} (env : Delivery ε) (self : DemuxRuntime κ ε) (validated : ValidatedTsPacket)

/-- The filter joins those for which its record DVRs get the packet. -/
def unite (union : OrdMap Int (List Int)) (filter_id : Int) : OrdMap Int (List Int) :=
  if env.has_gate self.parts filter_id then
    (self.record_dvr_target_ids_for_filter filter_id).foldl
      (fun union dvr_id => union.insert dvr_id ((union.get dvr_id).getD [] ++ [filter_id])) union
  else union

/-- The filters for which each record DVR gets the packet. -/
def dvr_filter_union (matched_filter_ids : List Int) : OrdMap Int (List Int) :=
  matched_filter_ids.foldl (self.unite env) {}

def admit_filters : List Int → DemuxRuntime κ ε → Option (List Int × DemuxRuntime κ ε)
  | [], self => some ([], self)
  | filter_id :: rest, self =>
    match env.begin_producer self.parts filter_id with
    | (.Admitted, parts) =>
      (admit_filters rest { self with parts }).map fun result => (filter_id :: result.1, result.2)
    | (.Exhausted, parts) =>
      ({ self with parts }.quarantine_filter_runtime env.toResources filter_id).bind
        (admit_filters rest)
    | (.Refused, parts) => admit_filters rest { self with parts }

def mark_dvr_failed (dvr_id : Int) : DemuxRuntime κ ε :=
  match self.dvrs.get dvr_id with
  | some dvr => { self with dvrs := self.dvrs.insert dvr_id { dvr with state := .Failed } }
  | none => self

variable (mirror : Mirror κ ε) (filter_ids : List Int)

/-- After a write to a record DVR for the filters of the demux. -/
def wrote (dvr_id : Int) (write : RecordWrite × Parts ε) : Mirror κ ε :=
  let demux : DemuxRuntime κ ε := { self with parts := write.2 }
  { mirror with
    demux := if write.1.dvr_failed then demux.mark_dvr_failed dvr_id else demux
    written := if write.1.written then mirror.written ++ [dvr_id] else mirror.written }

/-- The permits of filters for which nothing is indexed. -/
def commit_permits : Option (DemuxRuntime κ ε) :=
  filter_ids.foldlM
    (fun demux filter_id => demux.isolate_unless env (env.commit_permit · filter_id) filter_id) self

/-- After a write: a filter whose permit does not wait yet lets it wait. -/
def keep_permits : Option (Mirror κ ε) :=
  filter_ids.foldlM
    (fun mirror filter_id =>
      match mirror.committed_permits.get filter_id with
      | none =>
        some { mirror with committed_permits := mirror.committed_permits.insert filter_id () }
      | some _ =>
        (mirror.demux.isolate_unless env (env.commit_permit · filter_id) filter_id).map
          fun demux => { mirror with demux })
    mirror

/-- One record DVR: the packet is written to its queue once, when a filter is admitted. -/
def mirror_dvr (dvr_id : Int) (filter_ids : List Int) : Option (Mirror κ ε) :=
  if env.can_reserve mirror.demux.parts dvr_id then
    match admit_filters env filter_ids mirror.demux with
    | none => none
    | some ([], demux) => some { mirror with demux }
    | some (admitted, demux) =>
      let write := env.try_write_record_dvr_packet demux.parts validated dvr_id
      let mirror := demux.wrote mirror dvr_id write
      match write.1.result with
      | .ok .Written | .ok .WakePending => keep_permits env mirror admitted
      | _ => (mirror.demux.commit_permits env admitted).map fun demux => { mirror with demux }
  else some mirror

/-- The packet goes to every record DVR that a matching filter is attached to. The answer has the
record DVRs whose queue has it now. -/
def mirror_record_dvr_packets (delivery_actions : List PipelineDeliveryAction)
    (record_index_commit_mode : RecordIndexCommitMode) : Option (List Int × DemuxRuntime κ ε) :=
  let matched_filter_ids := (IdSet.of (delivery_actions.filterMap mirror_filter)).ids
  let union := self.dvr_filter_union env matched_filter_ids
  match
    union.items.foldlM
      (fun mirror item => mirror_dvr env validated mirror item.1 item.2)
      { demux := self } with
  | none => none
  | some mirror =>
    (mirror.committed_permits.ids.foldlM
      (fun (demux : DemuxRuntime κ ε) filter_id =>
        demux.isolate_unless env
          (env.commit_record_output · validated record_index_commit_mode filter_id) filter_id)
      mirror.demux).map fun demux => (mirror.written, demux)

end DemuxRuntime

/-! ## A packet and its way through the filters -/

/-- One origin at which the packet was: the filters that took it there, and the record DVRs to
which it was written for them. -/
structure Visit where
  origin : TsInputOrigin
  (offered written : List Int)

/-- A packet on its way: the runtime, the source filters it went on from, and for the record the
source filters that the guard turned away and the visits so far. -/
structure Passage (κ ε : Type) where
  demux : DemuxRuntime κ ε
  propagated_source_filters : IdSet := {}
  refused : List Int := []
  visits : List Visit := []

namespace DemuxRuntime

variable {κ ε : Type} (env : Delivery ε) (validated : ValidatedTsPacket)
  (origin : TsInputOrigin) (self : DemuxRuntime κ ε)

/-- The filters that take the packet from an origin. -/
def offers (origin : TsInputOrigin) : List Int :=
  (self.filter_views.filter (·.accepts_packet_pid_from_origin validated.pid origin)).map
    (·.filter_id)

/-- The preflight of the packet in the pipeline. -/
def receive : PipelineReport × DemuxRuntime κ ε :=
  let result := (PacketPipeline.accept_validated_ts_packet origin validated).run self.parts.pipeline
  (result.1, { self with parts := { self.parts with pipeline := result.2 } })

variable (report : PipelineReport)

/-- The plan for the packet, added to the report of its preflight. -/
def assemble (self : DemuxRuntime κ ε) : PipelineReport × DemuxRuntime κ ε :=
  let result :=
    (PacketPipeline.plan_and_assemble_ts_packet_report_after_preflight origin self.filter_views
      validated report.assembly_suppression_reasons).run self.parts.pipeline
  let self : DemuxRuntime κ ε := { self with parts := { self.parts with pipeline := result.2 } }
  let report := report.extend result.1
  let report := { report with generated_events := report.generated_events.filter self.keeps_event }
  (report, self.mark_filters_failed_for_generation_overflow report.diagnostics)

/-- What the report says goes to AV backings, record DVRs and queues. The answer has the record
DVRs that have the packet. -/
def deliver (self : DemuxRuntime κ ε) : Option (List Int × DemuxRuntime κ ε) :=
  (self.suffer_all env (env.deliver_av_payloads self.parts validated origin report)).bind
    fun self =>
  (self.mirror_record_dvr_packets env validated report.delivery_actions
    (record_index_commit_mode report)).bind fun mirrored =>
  (mirrored.2.suffer_all env
    (env.commit_generated_filter_events mirrored.2.parts validated origin report)).map
    fun self => (mirrored.1, self)

/-- The packet at one origin. -/
def serve (passage : Passage κ ε) : Option (PipelineReport × Passage κ ε) :=
  let received := passage.demux.receive validated origin
  if received.1.accepted_packets = 0 then some (received.1, { passage with demux := received.2 })
  else
    (received.2.observe_pcr_clock env validated origin
      received.1.assembly_suppression_reasons).bind fun demux =>
    let assembled := demux.assemble validated origin received.1
    (assembled.2.deliver env validated origin assembled.1).map fun delivered =>
    (assembled.1, { passage with
      demux := delivered.2
      visits := passage.visits ++ [⟨origin, demux.offers validated origin, delivered.1⟩] })

/-- A started filter reads from this generation of the filter. -/
def has_started_downstream (source_filter_id : Int) (source_filter_generation : Nat) : Bool :=
  self.filters.values.any fun filter =>
    filter.pipeline_view.started &&
      filter.pipeline_view.source_filter = some (source_filter_id, source_filter_generation)

/-- The packet goes on from one raw filter that took it. `push` is the packet at an origin. -/
def propagate (push : TsInputOrigin → Passage κ ε → Option (PipelineReport × Passage κ ε))
    (state : PipelineReport × Passage κ ε) (source_filter_id : Int) :
    Option (PipelineReport × Passage κ ε) :=
  let (report, passage) := state
  match passage.demux.filters.get source_filter_id with
  | none => some (report, passage)
  | some source =>
    if source.state = .Started ∧
        passage.demux.has_started_downstream source_filter_id source.generation then
      match passage.propagated_source_filters.get source_filter_id with
      | some _ => some (report, { passage with refused := passage.refused ++ [source_filter_id] })
      | none =>
        (push (.SourceFilter source_filter_id source.generation)
          { passage with
            propagated_source_filters :=
              passage.propagated_source_filters.insert source_filter_id () }).map
          fun result => (report.extend result.1, result.2)
    else some (report, passage)

/-- `push_validated_ts_packet_from_origin_inner`. The fuel bounds how deep the packet goes. -/
def push_within : Nat → TsInputOrigin → Passage κ ε → Option (PipelineReport × Passage κ ε)
  | 0, _, _ => none
  | fuel + 1, origin, passage =>
    (serve env validated origin passage).bind fun (report, passage) =>
    (report.delivery_actions.filterMap raw_filter).foldlM (propagate (push_within fuel))
      (report, passage)

/-- An ingress packet. It goes on from at most as many filters, one behind the other, as there
are. -/
def push_validated_ts_packet_from_origin (origin : TsInputOrigin) :
    Option (PipelineReport × Passage κ ε) :=
  push_within env validated (self.filters.size + 1) origin { demux := self }

end DemuxRuntime

end tuner_hal2_demux
