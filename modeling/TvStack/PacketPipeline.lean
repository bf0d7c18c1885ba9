-- The packet pipeline of the demux: continuity of each stream, the plan of what a
-- packet is delivered to, and the assemblers of sections and PES packets, one for
-- each filter, origin and PID. A stream is an origin with a PID, and the packets
-- of one stream never show in what is assembled from another.
import TvStack.HalCommon
import TvStack.Isolation
import TvStack.Maps
import TvStack.SectionAssembly
import TvStack.TsPacketViews

open Isolation Words

namespace tuner_hal2_demux.ts_core

open tuner_hal2_common

inductive ContinuityOutcome
  | FirstPacket
  | InOrder
  | Duplicate
  | CounterCollision
  | Discontinuity
  deriving DecidableEq

structure ContinuityState where
  last_counter : Option UInt8 := none
  last_packet : Option TsPacket := none

structure ContinuityTracker where
  states : FinMap PacketPid ContinuityState := {}

/-- The state of a PID after a packet with payload. -/
def ContinuityState.observe (state : ContinuityState) (continuity_counter : UInt8)
    (packet : TsPacket) : ContinuityState × ContinuityOutcome :=
  match state.last_counter with
  | none => (⟨some continuity_counter, some packet⟩, .FirstPacket)
  | some last_counter =>
    if continuity_counter = last_counter then
      if state.last_packet = some packet then (state, .Duplicate)
      else ({ state with last_packet := some packet }, .CounterCollision)
    else
      (⟨some continuity_counter, some packet⟩,
        if continuity_counter = (last_counter + 1) &&& 0x0f then .InOrder else .Discontinuity)

namespace ContinuityTracker

def observe (tracker : ContinuityTracker) (pid : PacketPid) (continuity_counter : UInt8)
    (has_payload : Bool) (packet : TsPacket) : ContinuityTracker × ContinuityOutcome :=
  if !has_payload then (tracker, .InOrder)
  else
    let observed := ((tracker.states.get pid).getD {}).observe continuity_counter packet
    ({ states := tracker.states.insert pid observed.1 }, observed.2)

def reset_pid (tracker : ContinuityTracker) (pid : PacketPid) : ContinuityTracker :=
  { states := tracker.states.erase pid }

end ContinuityTracker

end tuner_hal2_demux.ts_core

namespace tuner_hal2_demux.packet_pipeline

open tuner_hal2_common ts_core

def PIPELINE_GENERATION_INITIAL : Nat := 0

/-! ## Packets, filters and reports -/

/-- A packet with its view. -/
structure ValidatedTsPacket where
  packet : TsPacket
  view : TsPacketView
  valid : TsPacketView.validate packet.val = .ok view

def ValidatedTsPacket.pid (p : ValidatedTsPacket) : PacketPid := p.view.pid

inductive PacketDescramblePolicyFailure
  | NoKey
  | ScrambledPidNotRegistered
  | TransportErrorRecord
  | InvalidTsc
  | ScrambledNullPid
  | ScrambledWithoutPayload
  | BadToken
  | Multi2Fail
  | InvalidPacket
  deriving DecidableEq

structure PipelineDiagnosticCounters where
  tei_packets_observed : Nat := 0
  duplicate_packets_observed : Nat := 0
  continuity_discontinuities_observed : Nat := 0
  counter_saturated : Bool := false

inductive PipelineDropReason
  | AssemblyDrop
  | PesAssemblerOverflow
  | SectionGenerationOverflow
  | PesGenerationOverflow
  deriving DecidableEq

inductive PipelineAssemblySuppressionReason
  | TransportErrorIndicator
  | DuplicatePacket
  | ContinuityCounterCollision
  | NoPayload
  | KeylessScrambledWithoutDescrambler
  deriving DecidableEq

inductive PipelineDeliveryAction
  | RawPacket (filter_id : Int)
  | RecordPacket (filter_id : Int)
  | DvrMirror (dvr_id : Int)
  | SectionPayload (filter_id : Int)
  | PesPayload (filter_id : Int)
  | AvPayload (filter_id : Int)
  deriving DecidableEq

inductive PipelineGeneratedEvent
  | DataReady (filter_id : Int)
  | Section (filter_id : Int) (raw : Bool)
  | Pes (filter_id : Int) (raw : Bool)
  | Record (filter_id : Int)
  | SectionPayloadReady (filter_id : Int) (pid : PacketPid) (generation : Nat) (raw : Bool)
      (bytes : List UInt8)
  | PesPacketReady (filter_id : Int) (pid : PacketPid) (generation : Nat) (raw : Bool)
      (packet : PesPacket)
  deriving DecidableEq

inductive PipelineDiagnostic
  | TeiAssemblySuppressed (pid : PacketPid)
  | DuplicatePacketAssemblySuppressed (pid : PacketPid)
  | ContinuityCounterCollisionAssemblySuppressed (pid : PacketPid) (origin : TsInputOrigin)
  | ContinuityDiscontinuityAssemblyReset (pid : PacketPid) (origin : TsInputOrigin)
  | NoPayloadAssemblySuppressed (pid : PacketPid)
  | KeylessScrambledAssemblySuppressed (pid : PacketPid)
  | SectionAssemblyDrop (pid : PacketPid)
  | SectionGenerationOverflow (pid : PacketPid) (filter_ids : List Int)
  | PesGenerationOverflow (pid : PacketPid) (filter_ids : List Int)
  | PesAssemblerDrop (pid : PacketPid) (reason : PesDropReason)
  | SourceFilterValidationFailure (pid : PacketPid) (source_filter_id : Int) (error : HalError)
  | SourceFilterDescramblePolicyFailure (pid : PacketPid) (source_filter_id : Int)
      (failure : PacketDescramblePolicyFailure)
  deriving DecidableEq

structure PipelineReport where
  accepted_packets : Nat := 0
  dropped_packets : Nat := 0
  drop_reasons : List PipelineDropReason := []
  assembly_suppression_reasons : List PipelineAssemblySuppressionReason := []
  delivery_actions : List PipelineDeliveryAction := []
  generated_events : List PipelineGeneratedEvent := []
  diagnostics : List PipelineDiagnostic := []

namespace PipelineReport

variable (report : PipelineReport)

def suppress (reason : PipelineAssemblySuppressionReason) : PipelineReport :=
  { report with assembly_suppression_reasons := report.assembly_suppression_reasons ++ [reason] }

def diagnose (diagnostic : PipelineDiagnostic) : PipelineReport :=
  { report with diagnostics := report.diagnostics ++ [diagnostic] }

def drop_packet (reason : PipelineDropReason) : PipelineReport :=
  { report with
    dropped_packets := report.dropped_packets + 1, drop_reasons := report.drop_reasons ++ [reason] }

def add_events (events : List PipelineGeneratedEvent) : PipelineReport :=
  { report with generated_events := report.generated_events ++ events }

def retain_actions (keep : PipelineDeliveryAction → Bool) : PipelineReport :=
  { report with delivery_actions := report.delivery_actions.filter keep }

end PipelineReport

inductive PipelineOpenKind
  | Raw
  | Pcr
  | Record
  | Section
  | Pes
  | Av
  | Other
  deriving DecidableEq

structure PipelineFilterView where
  filter_id : Int
  tpid : Option Int
  started : Bool
  source_filter : Option (Int × Nat)
  open_kind : PipelineOpenKind
  (section_raw pes_raw wants_record_index : Bool)

def matches_config_tpid (pid : PacketPid) (tpid : Option Int) : Bool :=
  match tpid with
  | some config_pid => config_pid = pid.val.toNat
  | none => false

def PipelineFilterView.accepts_packet_pid_from_origin (filter : PipelineFilterView)
    (pid : PacketPid) (origin : TsInputOrigin) : Bool :=
  if !filter.started || !matches_config_tpid pid filter.tpid then false
  else
    match origin with
    | .Frontend _ | .PlaybackDvr _ _ _ => filter.source_filter.isNone
    | .SourceFilter source_filter_id source_filter_generation =>
      filter.source_filter = some (source_filter_id, source_filter_generation)

/-! ## The plan -/

variable (pid : PacketPid) (origin : TsInputOrigin) (filters : List PipelineFilterView)
  (filter : PipelineFilterView)

def packet_actions : List PipelineDeliveryAction :=
  match filter.open_kind with
  | .Raw => [.RawPacket filter.filter_id]
  | .Record =>
    .DvrMirror filter.filter_id ::
      if filter.wants_record_index then [.RecordPacket filter.filter_id] else []
  | _ => []

def plan_packet_delivery : List PipelineDeliveryAction :=
  (filters.filter (·.accepts_packet_pid_from_origin pid origin)).flatMap packet_actions

def plan_section_filters : List Int :=
  (filters.filter fun filter =>
    filter.accepts_packet_pid_from_origin pid origin && filter.open_kind = .Section).map
      (·.filter_id)

def pes_action : PipelineDeliveryAction :=
  match filter.open_kind with
  | .Av => .AvPayload filter.filter_id
  | _ => .PesPayload filter.filter_id

def plan_pes_actions : List PipelineDeliveryAction :=
  (filters.filter fun filter =>
    filter.accepts_packet_pid_from_origin pid origin &&
      (filter.open_kind = .Pes || filter.open_kind = .Av)).map pes_action

def section_raw (filter_id : Int) : Bool :=
  ((filters.find? (·.filter_id = filter_id)).map (·.section_raw)).getD false

def pes_raw (filter_id : Int) : Bool :=
  ((filters.find? (·.filter_id = filter_id)).map (·.pes_raw)).getD false

/-- The event that announces an action. -/
def planned_event : PipelineDeliveryAction → Option PipelineGeneratedEvent
  | .RawPacket filter_id => some (.DataReady filter_id)
  | .RecordPacket filter_id => some (.Record filter_id)
  | .SectionPayload filter_id => some (.Section filter_id (section_raw filters filter_id))
  | .PesPayload filter_id | .AvPayload filter_id =>
    some (.Pes filter_id (pes_raw filters filter_id))
  | .DvrMirror _ => none

/-- The actions for the payload of a packet, or that they are held back. -/
def plan_payload (view : TsPacketView) (report : PipelineReport) : PipelineReport :=
  let section_filter_ids := plan_section_filters view.pid origin filters
  let pes_actions := plan_pes_actions view.pid origin filters
  -- A packet with a transport error still goes to raw and record filters.
  if view.transport_error_indicator then report
  else if view.scrambling_control ≠ 0 then
    if !section_filter_ids.isEmpty || !pes_actions.isEmpty then
      (report.suppress .KeylessScrambledWithoutDescrambler).diagnose
        (.KeylessScrambledAssemblySuppressed view.pid)
    else report
  else
    { report with
      delivery_actions :=
        report.delivery_actions ++ section_filter_ids.map .SectionPayload ++ pes_actions }

def plan_ts_packet_report (packet : ValidatedTsPacket) : PipelineReport :=
  let report : PipelineReport :=
    { accepted_packets := 1
      delivery_actions := plan_packet_delivery packet.pid origin filters }
  let report :=
    if packet.view.payload.isSome then plan_payload origin filters packet.view report else report
  report.add_events (report.delivery_actions.filterMap (planned_event filters))

/-! ## The state -/

def PipelineDiagnosticCounters.increment (value : Nat) (saturated : Bool) : Nat × Bool :=
  match checked_add U64_MAX value 1 with
  | some next => (next, saturated || next = U64_MAX)
  | none => (U64_MAX, true)

namespace PipelineDiagnosticCounters

variable (c : PipelineDiagnosticCounters)

def note_tei : PipelineDiagnosticCounters :=
  let counted := increment c.tei_packets_observed c.counter_saturated
  { c with tei_packets_observed := counted.1, counter_saturated := counted.2 }

def note_duplicate : PipelineDiagnosticCounters :=
  let counted := increment c.duplicate_packets_observed c.counter_saturated
  { c with duplicate_packets_observed := counted.1, counter_saturated := counted.2 }

def note_continuity_discontinuity : PipelineDiagnosticCounters :=
  let counted := increment c.continuity_discontinuities_observed c.counter_saturated
  { c with continuity_discontinuities_observed := counted.1, counter_saturated := counted.2 }

end PipelineDiagnosticCounters

structure PacketPipeline where
  section_assemblers : FinMap (TsInputOrigin × PacketPid × Int) SectionAssembler := {}
  pes_assemblers : FinMap (TsInputOrigin × PacketPid × Int) PesAssembler := {}
  section_assembler_generations : FinMap (TsInputOrigin × PacketPid) Nat := {}
  pes_assembler_generations : FinMap (TsInputOrigin × PacketPid) Nat := {}
  filter_section_flush_generations : FinMap (TsInputOrigin × Int × PacketPid) Nat := {}
  filter_pes_flush_generations : FinMap (TsInputOrigin × Int × PacketPid) Nat := {}
  continuity_trackers : FinMap TsInputOrigin ContinuityTracker := {}
  diagnostic_counters : PipelineDiagnosticCounters := {}

/-- A step of the pipeline. -/
abbrev PipelineM := StateM PacketPipeline

namespace PacketPipeline

def count (note : PipelineDiagnosticCounters → PipelineDiagnosticCounters) : PipelineM Unit :=
  modify fun self => { self with diagnostic_counters := note self.diagnostic_counters }

def reset_assembly_for_origin_pid : PipelineM Unit :=
  modify fun self =>
    { self with
      section_assemblers := self.section_assemblers.retain fun key =>
        key.1 ≠ origin || key.2.1 ≠ pid
      pes_assemblers := self.pes_assemblers.retain fun key => key.1 ≠ origin || key.2.1 ≠ pid
      section_assembler_generations := self.section_assembler_generations.retain fun key =>
        key.1 ≠ origin || key.2 ≠ pid
      pes_assembler_generations := self.pes_assembler_generations.retain fun key =>
        key.1 ≠ origin || key.2 ≠ pid
      filter_section_flush_generations := self.filter_section_flush_generations.retain fun key =>
        key.1 ≠ origin || key.2.2 ≠ pid
      filter_pes_flush_generations := self.filter_pes_flush_generations.retain fun key =>
        key.1 ≠ origin || key.2.2 ≠ pid }

def reset_continuity_pid : PipelineM Unit :=
  modify fun self =>
    let tracker := (self.continuity_trackers.get origin).getD {}
    { self with
      continuity_trackers := self.continuity_trackers.insert origin (tracker.reset_pid pid) }

def check_continuity (continuity_counter : UInt8) (has_payload : Bool) (packet : TsPacket) :
    PipelineM ContinuityOutcome :=
  modifyGet fun self =>
    let tracker := (self.continuity_trackers.get origin).getD {}
    let observed := tracker.observe pid continuity_counter has_payload packet
    (observed.2,
      { self with continuity_trackers := self.continuity_trackers.insert origin observed.1 })

def assemble_section_for_filter (filter_id : Int) (raw payload_unit_start : Bool)
    (payload : List UInt8) : PipelineM SectionPushOutcome :=
  modifyGet fun self =>
    let assembler := (self.section_assemblers.get (origin, pid, filter_id)).getD {}
    let pushed := assembler.push_payload_with_outcome_policy payload_unit_start payload !raw
    (pushed.2,
      { self with
        section_assemblers := self.section_assemblers.insert (origin, pid, filter_id) pushed.1 })

def assemble_pes_for_filter (filter_id : Int) (payload_unit_start : Bool) (payload : List UInt8) :
    PipelineM (List PesPacket) :=
  modifyGet fun self =>
    let assembler := (self.pes_assemblers.get (origin, pid, filter_id)).getD {}
    let pushed := assembler.push pid payload_unit_start payload
    (pushed.2,
      { self with pes_assemblers := self.pes_assemblers.insert (origin, pid, filter_id) pushed.1 })

/-- The drop that the assembler of a filter noted last. -/
def take_drop_diagnostic (filter_id : Int) : PipelineM (Option (PesDropReason × Nat)) :=
  modifyGet fun self =>
    match self.pes_assemblers.get (origin, pid, filter_id) with
    | none => (none, self)
    | some assembler =>
      let taken := assembler.take_drop_diagnostic
      (taken.2,
        { self with pes_assemblers := self.pes_assemblers.insert (origin, pid, filter_id) taken.1 })

theorem take_drop_diagnostic_eq (filter_id : Int) (self : PacketPipeline) :
    take_drop_diagnostic pid origin filter_id self =
      match self.pes_assemblers.get (origin, pid, filter_id) with
      | none => (none, self)
      | some assembler =>
        (assembler.take_drop_diagnostic.2,
          { self with
            pes_assemblers := self.pes_assemblers.insert (origin, pid, filter_id)
              assembler.take_drop_diagnostic.1 }) := rfl

def drop_section_generations : PipelineM Unit :=
  modify fun self =>
    { self with
      section_assembler_generations := self.section_assembler_generations.retain fun key =>
        !(key.1 = origin && key.2 = pid)
      filter_section_flush_generations := self.filter_section_flush_generations.retain fun key =>
        !(key.1 = origin && key.2.2 = pid) }

def drop_pes_generations : PipelineM Unit :=
  modify fun self =>
    { self with
      pes_assembler_generations := self.pes_assembler_generations.retain fun key =>
        !(key.1 = origin && key.2 = pid)
      filter_pes_flush_generations := self.filter_pes_flush_generations.retain fun key =>
        !(key.1 = origin && key.2.2 = pid) }

/-- The `section` and the `pes` half of `drop_generations_for_pid_origin`. -/
def drop_generations_for_pid_origin (for_sections for_pes : Bool) : PipelineM Unit := do
  (if for_sections then drop_section_generations pid origin else pure ())
  (if for_pes then drop_pes_generations pid origin else pure ())

/-- The next generation, or none when the counter is at its end. -/
def bump_section_generation : PipelineM (Option Nat) :=
  modifyGet fun self =>
    let generation := (self.section_assembler_generations.get (origin, pid)).getD 0
    let next := checked_add U64_MAX generation 1
    (next,
      { self with
        section_assembler_generations :=
          self.section_assembler_generations.insert (origin, pid) (next.getD generation) })

def bump_pes_generation : PipelineM (Option Nat) :=
  modifyGet fun self =>
    let generation := (self.pes_assembler_generations.get (origin, pid)).getD 0
    let next := checked_add U64_MAX generation 1
    (next,
      { self with
        pes_assembler_generations :=
          self.pes_assembler_generations.insert (origin, pid) (next.getD generation) })

variable (self : PacketPipeline) (view : TsPacketView) (report : PipelineReport)

def current_section_generation : Nat :=
  (self.section_assembler_generations.get (origin, pid)).getD PIPELINE_GENERATION_INITIAL

def current_pes_generation : Nat :=
  (self.pes_assembler_generations.get (origin, pid)).getD PIPELINE_GENERATION_INITIAL

/-! ## A packet -/

def observe_transport_error : PipelineM PipelineReport :=
  if view.transport_error_indicator then do
    count .note_tei
    pure ((report.suppress .TransportErrorIndicator).diagnose (.TeiAssemblySuppressed view.pid))
  else pure report

def observe_discontinuity_indicator : PipelineM PipelineReport :=
  if view.flags.discontinuity_indicator then do
    count .note_continuity_discontinuity
    reset_continuity_pid view.pid origin
    reset_assembly_for_origin_pid view.pid origin
    pure (report.diagnose (.ContinuityDiscontinuityAssemblyReset view.pid origin))
  else pure report

variable (payload_unit_start : Bool) (payload : List UInt8) (report : PipelineReport)

def observe_continuity : ContinuityOutcome → PipelineM PipelineReport
  | .Duplicate => do
    count .note_duplicate
    pure ((report.suppress .DuplicatePacket).diagnose (.DuplicatePacketAssemblySuppressed pid))
  | .CounterCollision => do
    count .note_continuity_discontinuity
    reset_assembly_for_origin_pid pid origin
    pure ((report.suppress .ContinuityCounterCollision).diagnose
      (.ContinuityCounterCollisionAssemblySuppressed pid origin))
  | .Discontinuity => do
    count .note_continuity_discontinuity
    reset_assembly_for_origin_pid pid origin
    pure (report.diagnose (.ContinuityDiscontinuityAssemblyReset pid origin))
  | .FirstPacket | .InOrder => pure report

def accept_validated_ts_packet (validated : ValidatedTsPacket) : PipelineM PipelineReport := do
  let view := validated.view
  let report ← observe_transport_error view {}
  let report ← observe_discontinuity_indicator origin view report
  let continuity ← check_continuity view.pid origin view.continuity_counter view.payload.isSome
    validated.packet
  let report ← observe_continuity view.pid origin report continuity
  let report :=
    if view.payload.isNone then
      (report.suppress .NoPayload).diagnose (.NoPayloadAssemblySuppressed view.pid)
    else report
  pure { report with accepted_packets := report.accepted_packets + 1 }

/-- The generation of the sections of a packet: a packet that starts a unit starts the next one. -/
def section_generation : PipelineM (Option Nat) :=
  if payload_unit_start then bump_section_generation pid origin
  else modifyGet fun self => (some (self.current_section_generation pid origin), self)

def pes_generation : PipelineM (Option Nat) :=
  if payload_unit_start then bump_pes_generation pid origin
  else modifyGet fun self => (some (self.current_pes_generation pid origin), self)

def isSectionAction : PipelineDeliveryAction → Bool
  | .SectionPayload _ => true
  | _ => false

def isPesAction : PipelineDeliveryAction → Bool
  | .PesPayload _ | .AvPayload _ => true
  | _ => false

def section_filter : PipelineDeliveryAction → Option (Int × Bool)
  | .SectionPayload filter_id => some (filter_id, section_raw filters filter_id)
  | _ => none

def pes_filter : PipelineDeliveryAction → Option Int
  | .PesPayload filter_id | .AvPayload filter_id => some filter_id
  | _ => none

/-- One turn of the loop over the section filters. -/
def section_turn (generation : Nat) (report : PipelineReport) (filter : Int × Bool) :
    PipelineM PipelineReport := do
  let outcome ← assemble_section_for_filter pid origin filter.1 filter.2 payload_unit_start payload
  let report :=
    if outcome.has_drop_or_discard then
      (report.drop_packet .AssemblyDrop).diagnose (.SectionAssemblyDrop pid)
    else report
  pure (report.add_events
    (outcome.sections.map (.SectionPayloadReady filter.1 pid generation filter.2)))

def assemble_sections : PipelineM PipelineReport :=
  if report.delivery_actions.any isSectionAction then do
    let section_filters := report.delivery_actions.filterMap (section_filter filters)
    let generation ← section_generation pid origin payload_unit_start
    match generation with
    | some generation =>
      section_filters.foldlM (section_turn pid origin payload_unit_start payload generation) report
    | none =>
      reset_assembly_for_origin_pid pid origin
      pure (((report.drop_packet .SectionGenerationOverflow).diagnose
        (.SectionGenerationOverflow pid (section_filters.map Prod.fst))).retain_actions
          fun action => !isSectionAction action)
  else do
    drop_generations_for_pid_origin pid origin true false
    pure report

/-- One turn of the loop over the PES filters. -/
def pes_turn (generation : Nat) (report : PipelineReport) (filter_id : Int) :
    PipelineM PipelineReport := do
  let packets ← assemble_pes_for_filter pid origin filter_id payload_unit_start payload
  let dropped ← take_drop_diagnostic pid origin filter_id
  let report :=
    match dropped with
    | some (reason, _) =>
      (report.drop_packet .PesAssemblerOverflow).diagnose (.PesAssemblerDrop pid reason)
    | none => report
  pure (report.add_events
    (packets.map (.PesPacketReady filter_id pid generation (pes_raw filters filter_id))))

def assemble_pes : PipelineM PipelineReport :=
  if report.delivery_actions.any isPesAction then do
    let pes_filter_ids := report.delivery_actions.filterMap pes_filter
    let generation ← pes_generation pid origin payload_unit_start
    match generation with
    | some generation =>
      pes_filter_ids.foldlM (pes_turn pid origin filters payload_unit_start payload generation)
        report
    | none =>
      reset_assembly_for_origin_pid pid origin
      pure (((report.drop_packet .PesGenerationOverflow).diagnose
        (.PesGenerationOverflow pid pes_filter_ids)).retain_actions
          fun action => !isPesAction action)
  else do
    drop_generations_for_pid_origin pid origin false true
    pure report

def isPacketAction : PipelineDeliveryAction → Bool
  | .RawPacket _ | .RecordPacket _ | .DvrMirror _ => true
  | _ => false

def isPacketEvent : PipelineGeneratedEvent → Bool
  | .DataReady _ | .Record _ => true
  | _ => false

/-- What is left of the plan for a packet whose counter does not move. -/
def packets_only : PipelineReport :=
  { report with
    delivery_actions := report.delivery_actions.filter isPacketAction
    generated_events := report.generated_events.filter isPacketEvent }

def plan_and_assemble_ts_packet_report_after_preflight (packet : ValidatedTsPacket)
    (preflight_suppression_reasons : List PipelineAssemblySuppressionReason) :
    PipelineM PipelineReport :=
  let view := packet.view
  let report := plan_ts_packet_report origin filters packet
  if view.transport_error_indicator ||
      preflight_suppression_reasons.contains .TransportErrorIndicator then do
    reset_assembly_for_origin_pid view.pid origin
    pure report
  else if preflight_suppression_reasons.contains .DuplicatePacket ||
      preflight_suppression_reasons.contains .ContinuityCounterCollision then
    pure (packets_only report)
  else
    match view.payload with
    | none => pure report
    | some payload =>
      if view.scrambling_control ≠ 0 then
        if report.assembly_suppression_reasons.contains .KeylessScrambledWithoutDescrambler then do
          reset_assembly_for_origin_pid view.pid origin
          pure report
        else pure report
      else do
        let report ← assemble_sections view.pid origin filters view.payload_unit_start
          payload report
        assemble_pes view.pid origin filters view.payload_unit_start payload report

end PacketPipeline

end tuner_hal2_demux.packet_pipeline
