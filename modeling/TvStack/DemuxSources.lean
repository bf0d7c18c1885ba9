-- The filters of one demux and the filters they read from: how filters are
-- registered, connected to a source filter, configured, flushed and removed,
-- with the gates, queues and backings behind them as parameters.
import TvStack.Forests
import TvStack.OrderedMaps
import TvStack.PacketPipeline

open Forests Words

namespace tuner_hal2_demux

open packet_pipeline

inductive DemuxRuntimeErrorKind
  | FilterMissing
  | QueueMissing
  | InvalidState
  | SourceLifecycle
  | SinkLifecycle
  | InvalidSourceSubtype
  | InvalidSinkSubtype
  | SelfReference
  | PidMismatch
  | PipelineFailed
  | GenerationExhausted
  | QueueRuntimeFailure
  | AvBackingFailure
  deriving DecidableEq

structure DemuxRuntimeError where
  kind : DemuxRuntimeErrorKind
  id : Option Int

inductive FilterRuntimeState
  | Open
  | Configured
  | Started
  | Stopped
  | Closing
  | CleanupFailed
  | Closed
  | Failed
  deriving DecidableEq

def FilterRuntimeState.is_closed_or_failed : FilterRuntimeState → Bool
  | .Closing | .CleanupFailed | .Closed | .Failed => true
  | _ => false

inductive FilterSource
  | DemuxInput
  | SourceFilter (source_filter_id : Int) (source_filter_generation : Nat)
  deriving DecidableEq

def FilterSource.source_filter_id : FilterSource → Option Int
  | .DemuxInput => none
  | .SourceFilter source_filter_id _ => some source_filter_id

def FilterSource.source_filter : FilterSource → Option (Int × Nat)
  | .DemuxInput => none
  | .SourceFilter source_filter_id source_filter_generation =>
    some (source_filter_id, source_filter_generation)

/-- The source of a sink that starts over: the same filter at a generation, or the demux input. -/
def FilterSource.restarted (source_filter_id : Int) : Option Nat → FilterSource
  | some source_filter_generation => .SourceFilter source_filter_id source_filter_generation
  | none => .DemuxInput

/-- The settings of a filter; `κ` are those that the runtime only keeps and compares. -/
structure FilterPipelineConfig (κ : Type) where
  tpid : Option Int
  raw : Bool
  record_index : Option κ
  deriving DecidableEq

structure FilterRuntime (κ : Type) where
  filter_id : Int
  state : FilterRuntimeState
  generation : Nat
  open_kind : PipelineOpenKind
  pipeline_config : Option (FilterPipelineConfig κ) := none
  section_config : Option κ := none
  tpid : Option Int := none
  pes_stream_id : Option Int := none
  raw : Bool := false
  source : FilterSource := .DemuxInput
  source_relation_generation : Nat := 1

inductive DvrKind
  | Record
  | Playback
  deriving DecidableEq

inductive DvrRuntimeState
  | Open
  | Configured
  | Started
  | Stopped
  | Closing
  | CleanupFailed
  | Closed
  | Failed
  deriving DecidableEq

inductive RecordDvrFilterRelationState
  | Healthy
  | Quarantined
  deriving DecidableEq

structure DvrRuntime where
  kind : DvrKind
  state : DvrRuntimeState
  attached_record_filters : List Int
  record_filter_relation_state : RecordDvrFilterRelationState

/-- The packet pipeline, and all that is behind the filters: producer gates, queues, AV backings
and sync ids, clock anchors, start ids. -/
structure Parts (ε : Type) where
  pipeline : PacketPipeline
  rest : ε

structure DemuxRuntime (κ ε : Type) where
  generation : Nat
  filters : OrdMap Int (FilterRuntime κ) := {}
  dvrs : OrdMap Int DvrRuntime := {}
  parts : Parts ε

namespace FilterRuntime

variable {κ : Type} (self : FilterRuntime κ)

def new_open_request (filter_id : Int) (generation : Nat) (open_kind : PipelineOpenKind) :
    FilterRuntime κ where
  filter_id
  state := .Open
  generation
  open_kind

def pipeline_view : PipelineFilterView where
  filter_id := self.filter_id
  tpid := self.tpid
  started := self.state = .Started
  source_filter := self.source.source_filter
  open_kind := self.open_kind
  section_raw := self.raw && self.open_kind = .Section
  pes_raw := self.raw && self.open_kind = .Pes
  wants_record_index := self.open_kind = .Record

def mark_failed : FilterRuntime κ := { self with state := .Failed }

/-- The relation moves by one generation, and only from the one that was read. -/
def commit_source (expected_generation next_generation : Nat) (source : FilterSource) :
    Option (FilterRuntime κ) :=
  if self.source_relation_generation ≠ expected_generation ∨
      checked_add U64_MAX expected_generation 1 ≠ some next_generation ∨ next_generation = 0 then
    none
  else
    some { self with source, source_relation_generation := next_generation }

def next_relation_generation : Option Nat :=
  (checked_add U64_MAX self.source_relation_generation 1).filter (· ≠ 0)

def configure_with_generation (generation : Nat) (config : FilterPipelineConfig κ)
    (pes_stream_id : Option Int) (section_config : Option κ) : FilterRuntime κ :=
  { self with
    generation
    pipeline_config := some config
    section_config
    tpid := config.tpid
    pes_stream_id
    raw := config.raw
    state := .Configured }

end FilterRuntime

/-! ## What is behind the filters -/

abbrev Outcome := Except DemuxRuntimeError Unit

/-- The outcome with the runtime behind it. There is none when a call does not return. -/
abbrev DemuxAnswer (κ ε : Type) := Option (Outcome × DemuxRuntime κ ε)

abbrev Step (ε : Type) := Parts ε → Int → Outcome × Parts ε

/-- The steps of a filter call that work on gates, queues, backings and the pipeline, each with
any outcome. The runtime gives them the filter id that they are for. -/
structure Resources (ε : Type) where
  /-- `FilterProducerDrainGate::new`, with the old queue, backing and anchor dropped. -/
  open_gate : Step ε
  /-- AV sync registration, AV backing and queue of a filter that is in the table. -/
  open_queue : Step ε
  /-- The pipeline forgets the filter and its gate closes; the rest goes with it. -/
  (close_filter consume_filter_source_boundary : Step ε)
  validate_filter_delivery_boundary : Parts ε → Int → Outcome
  /-- Drains the gate of the filter and clears its queue and its pipeline state. -/
  drain_existing_queue : Step ε
  /-- Drains the gate of a sink whose source changes, up to the change. -/
  (drain_downstream commit_downstream : Step ε)
  /-- Closes the gate of a filter in quarantine and resets what it fed. -/
  isolate : Parts ε → Int → Parts ε
  (queue_ready av_backing_ready gate_ready : Parts ε → Int → Outcome)
  drain_for_reconfigure : Step ε
  commit_reconfigure : Step ε
  register_av_sync : Step ε
  (schedule_start_id begin_flush clear_for_flush commit_flush : Step ε)
  stopped : Parts ε → Int → Parts ε

namespace DemuxRuntime

variable {κ ε : Type} (self : DemuxRuntime κ ε)

def source_filter_downstream_ids (source_filter_id : Int) : List Int :=
  (self.filters.values.filter (·.source.source_filter_id = some source_filter_id)).map (·.filter_id)

def filter_views : List PipelineFilterView := self.filters.values.map (·.pipeline_view)

/-- The record DVRs that take what a record filter matches. -/
def record_dvr_target_ids_for_filter (filter_id : Int) : List Int :=
  (self.dvrs.items.filter fun (_, dvr) =>
    dvr.kind = .Record && dvr.state = .Started && dvr.record_filter_relation_state = .Healthy &&
      dvr.attached_record_filters.contains filter_id).map Prod.fst

/-- The walk up the sources. Its fuel bounds the number of turns. -/
def source_connection_walk (sink_filter_id : Int) : Nat → Int → List Int → Option Bool
  | 0, _, _ => none
  | fuel + 1, current, visited =>
    if current = sink_filter_id ∨ current ∈ visited then some true
    else
      match self.filters.get current with
      | none => some false
      | some filter =>
        match filter.source with
        | .DemuxInput => some false
        | .SourceFilter source_filter_id _ =>
          source_connection_walk sink_filter_id fuel source_filter_id (current :: visited)

def source_connection_would_cycle (sink_filter_id source_filter_id : Int) : Option Bool :=
  self.source_connection_walk sink_filter_id (self.filters.size + 1) source_filter_id []

/-- A filter that is there fails. -/
def mark_filter_failed (filter_id : Int) : DemuxRuntime κ ε :=
  match self.filters.get filter_id with
  | some filter => { self with filters := self.filters.insert filter_id filter.mark_failed }
  | none => self

section
variable (env : Resources ε)

def reset_connected_downstream_source_boundary (sink_filter_id source_filter_id : Int)
    (next_source_generation : Option Nat) : Outcome × DemuxRuntime κ ε :=
  match self.filters.get sink_filter_id with
  | none => (.error ⟨.FilterMissing, sink_filter_id⟩, self)
  | some filter =>
    if filter.source.source_filter_id ≠ some source_filter_id then (.ok (), self)
    else
      match filter.next_relation_generation with
      | none => (.error ⟨.GenerationExhausted, sink_filter_id⟩, self)
      | some next_relation_generation =>
        match env.drain_downstream self.parts sink_filter_id with
        | (.error error, parts) => (.error error, { self with parts })
        | (.ok _, parts) =>
          match filter.commit_source filter.source_relation_generation next_relation_generation
            (.restarted source_filter_id next_source_generation) with
          | none => (.error ⟨.InvalidState, sink_filter_id⟩, { self with parts })
          | some filter =>
            let result := env.commit_downstream parts sink_filter_id
            (result.1,
              { self with
                filters := self.filters.insert sink_filter_id filter, parts := result.2 })

/-- A filter in quarantine has failed, and its sinks start over; a sink that cannot goes into
quarantine too. The fuel bounds how deep this goes. -/
def quarantine_within : Nat → Int → DemuxRuntime κ ε → Option (DemuxRuntime κ ε)
  | 0, _, _ => none
  | fuel + 1, filter_id, self =>
    let isolated : DemuxRuntime κ ε :=
      { self.mark_filter_failed filter_id with parts := env.isolate self.parts filter_id }
    match self.filters.get filter_id with
    | none => some isolated
    | some filter =>
      (self.source_filter_downstream_ids filter_id).foldlM
        (fun demux sink_filter_id =>
          match demux.reset_connected_downstream_source_boundary env sink_filter_id filter_id
            (some filter.generation) with
          | (.ok _, demux) => some demux
          | (.error _, demux) => quarantine_within fuel sink_filter_id demux)
        isolated

variable (filter_id : Int) (sink_filter_id : Int) (source_filter_id : Int)
  (filter : FilterRuntime κ)

def quarantine_filter_runtime : Option (DemuxRuntime κ ε) :=
  quarantine_within env (self.filters.size + 1) filter_id self

/-- The call fails with the filter in quarantine. -/
def fail_isolated (error : DemuxRuntimeError) : DemuxAnswer κ ε :=
  (self.quarantine_filter_runtime env filter_id).map ((.error error, ·))

/-- The sinks of a filter start over, at a generation of it or without it. The first that cannot
goes into quarantine and ends the loop. -/
def reset_source_filter_downstreams (source_filter_id : Int) (next_source_generation : Option Nat) :
    List Int → DemuxRuntime κ ε → DemuxAnswer κ ε
  | [], self => some (.ok (), self)
  | sink_filter_id :: rest, self =>
    match self.reset_connected_downstream_source_boundary env sink_filter_id source_filter_id
      next_source_generation with
    | (.ok _, self) =>
      reset_source_filter_downstreams source_filter_id next_source_generation rest self
    | (.error error, self) => self.fail_isolated env sink_filter_id error

def refresh_source_filter_downstreams (source_filter_generation : Nat) : DemuxAnswer κ ε :=
  reset_source_filter_downstreams env source_filter_id (some source_filter_generation)
    (self.source_filter_downstream_ids source_filter_id) self

def disconnect_source_filter_downstreams : DemuxAnswer κ ε :=
  reset_source_filter_downstreams env source_filter_id none
    (self.source_filter_downstream_ids source_filter_id) self

/-! ## The calls -/

def register_filter : Outcome × DemuxRuntime κ ε :=
  if filter.state.is_closed_or_failed then (.error ⟨.InvalidState, filter.filter_id⟩, self)
  else
    match env.open_gate self.parts filter.filter_id with
    | (.error error, parts) => (.error error, { self with parts })
    | (.ok _, parts) =>
      let result := env.open_queue parts filter.filter_id
      (result.1,
        { self with
          filters := self.filters.insert filter.filter_id filter, parts := result.2 })

def register_filter_from_typed_request (open_kind : PipelineOpenKind) :
    Outcome × DemuxRuntime κ ε :=
  self.register_filter env (.new_open_request filter_id self.generation open_kind)

def remove_filter : DemuxAnswer κ ε :=
  match self.filters.get filter_id with
  | none => some (.error ⟨.FilterMissing, filter_id⟩, self)
  | some _ =>
    match self.disconnect_source_filter_downstreams env filter_id with
    | none => none
    | some (.error error, self) => some (.error error, self)
    | some (.ok _, self) =>
      match env.close_filter self.parts filter_id with
      | (.error error, parts) => some (.error error, { self with parts })
      | (.ok _, parts) =>
        some (.ok (), { self with filters := self.filters.erase filter_id, parts })

def clear_existing_filter_queue : DemuxAnswer κ ε :=
  match env.validate_filter_delivery_boundary self.parts filter_id with
  | .error error => some (.error error, self)
  | .ok _ =>
    match env.drain_existing_queue self.parts filter_id with
    | (.error error, parts) => { self with parts }.fail_isolated env filter_id error
    | (.ok _, parts) => some (.ok (), { self with parts })

def apply_filter_source_stream_boundary : DemuxAnswer κ ε :=
  match env.consume_filter_source_boundary self.parts filter_id with
  | (.error error, parts) => some (.error error, { self with parts })
  | (.ok _, parts) => { self with parts }.clear_existing_filter_queue env filter_id

variable (sink : FilterRuntime κ) (next_tpid : Option Int)

/-- The checks of a new source for a sink, in their order. -/
def validate_next_source (source_filter_id : Int) :
    Option (Except DemuxRuntimeError FilterSource) :=
  if source_filter_id = sink_filter_id then some (.error ⟨.SelfReference, sink_filter_id⟩)
  else
    match self.source_connection_would_cycle sink_filter_id source_filter_id with
    | none => none
    | some true => some (.error ⟨.SelfReference, sink_filter_id⟩)
    | some false =>
      some
        (match self.filters.get source_filter_id with
        | none => .error ⟨.FilterMissing, source_filter_id⟩
        | some source =>
          if source.state.is_closed_or_failed then .error ⟨.SourceLifecycle, source_filter_id⟩
          else if source.open_kind ≠ .Raw then .error ⟨.InvalidSourceSubtype, source_filter_id⟩
          else if sink.open_kind = .Other then .error ⟨.InvalidSinkSubtype, sink_filter_id⟩
          else if sink.tpid.isSome ∧ source.tpid.isSome ∧ sink.tpid ≠ source.tpid then
            .error ⟨.PidMismatch, source_filter_id⟩
          else .ok (.SourceFilter source_filter_id source.generation))

/-- `connect_filter_source_after_boundary` and `disconnect_filter_source_after_boundary`. -/
def commit_filter_source_after_boundary
    (expected_relation_generation next_relation_generation : Nat) (source : FilterSource) :
    Except DemuxRuntimeError (DemuxRuntime κ ε) :=
  match self.filters.get sink_filter_id with
  | none => .error ⟨.FilterMissing, sink_filter_id⟩
  | some sink =>
    match sink.commit_source expected_relation_generation next_relation_generation source with
    | none => .error ⟨.InvalidState, sink_filter_id⟩
    | some sink => .ok { self with filters := self.filters.insert sink_filter_id sink }

/-- The new source is valid: the old stream ends and the relation is committed. -/
def commit_source_boundary (next_relation_generation : Nat) (source : FilterSource) :
    DemuxAnswer κ ε :=
  match env.validate_filter_delivery_boundary self.parts sink_filter_id with
  | .error error => some (.error error, self)
  | .ok _ =>
    match self.apply_filter_source_stream_boundary env sink_filter_id with
    | none => none
    | some (.error error, self) => self.fail_isolated env sink_filter_id error
    | some (.ok _, self) =>
      match self.commit_filter_source_after_boundary sink_filter_id sink.source_relation_generation
        next_relation_generation source with
      | .error error => self.fail_isolated env sink_filter_id error
      | .ok self => some (.ok (), self)

/-- `SourceBoundaryTxn::apply`: a source filter, or the demux input, for a sink. -/
def apply_filter_source_boundary_change (next_source : Option Int) : DemuxAnswer κ ε :=
  match self.filters.get sink_filter_id with
  | none => some (.error ⟨.FilterMissing, sink_filter_id⟩, self)
  | some sink =>
    if sink.state.is_closed_or_failed ∨ sink.state = .Started then
      some (.error ⟨.SinkLifecycle, sink_filter_id⟩, self)
    else
      match sink.next_relation_generation with
      | none => self.fail_isolated env sink_filter_id ⟨.GenerationExhausted, sink_filter_id⟩
      | some next_relation_generation =>
        match next_source with
        | none =>
          self.commit_source_boundary env sink_filter_id sink next_relation_generation .DemuxInput
        | some source_filter_id =>
          match self.validate_next_source sink_filter_id sink source_filter_id with
          | none => none
          | some (.error error) => some (.error error, self)
          | some (.ok source) =>
            self.commit_source_boundary env sink_filter_id sink next_relation_generation source

def configure_filter_runtime_with_full_config (config : FilterPipelineConfig κ)
    (pes_stream_id : Option Int) (section_config : Option κ) :
    DemuxAnswer κ ε :=
  match self.filters.get filter_id with
  | none => some (.error ⟨.FilterMissing, filter_id⟩, self)
  | some filter =>
    match env.queue_ready self.parts filter_id with
    | .error error => some (.error error, self)
    | .ok _ =>
      match checked_add U64_MAX filter.generation 1 with
      | none => self.fail_isolated env filter_id ⟨.GenerationExhausted, filter_id⟩
      | some next =>
        match env.av_backing_ready self.parts filter_id with
        | .error error => self.fail_isolated env filter_id error
        | .ok _ =>
          match env.gate_ready self.parts filter_id with
          | .error error => some (.error error, self)
          | .ok _ =>
            match env.drain_for_reconfigure self.parts filter_id with
            | (.error error, parts) =>
              { self with parts }.fail_isolated env filter_id error
            | (.ok _, parts) =>
              let filter :=
                filter.configure_with_generation next config pes_stream_id section_config
              let filters := self.filters.insert filter_id filter
              match env.commit_reconfigure parts filter_id with
              | (.error error, parts) =>
                some (.error error,
                  { self with filters, parts }.mark_filter_failed filter_id)
              | (.ok _, parts) =>
                match
                  { self with filters, parts }.refresh_source_filter_downstreams
                    env filter_id next with
                | none => none
                | some (.error error, self) => some (.error error, self)
                | some (.ok _, self) =>
                  let result := env.register_av_sync self.parts filter_id
                  some (result.1, { self with parts := result.2 })

def validate_source_filter_reconfigure : Outcome :=
  (self.source_filter_downstream_ids source_filter_id).forM fun sink_filter_id =>
    match self.filters.get sink_filter_id with
    | none => .error ⟨.FilterMissing, sink_filter_id⟩
    | some sink =>
      if sink.tpid.isSome ∧ next_tpid.isSome ∧ sink.tpid ≠ next_tpid then
        .error ⟨.PidMismatch, source_filter_id⟩
      else .ok ()

/-- The source of a filter is still the one it was connected to, and carries the new PID. -/
def source_allows : Bool :=
  match filter.source with
  | .DemuxInput => true
  | .SourceFilter source_filter_id source_filter_generation =>
    match self.filters.get source_filter_id with
    | none => false
    | some source =>
      !(source.generation ≠ source_filter_generation || source.state.is_closed_or_failed ||
        source.tpid.isSome && next_tpid.isSome && source.tpid ≠ next_tpid)

variable [DecidableEq κ]

/-- `FilterConfigureTxn::configure_with_pes_stream_id`. -/
def configure_filter_runtime (open_kind : PipelineOpenKind) (config : FilterPipelineConfig κ)
    (pes_stream_id : Option Int) (section_config : Option κ) :
    DemuxAnswer κ ε :=
  match self.filters.get filter_id with
  | none => some (.error ⟨.FilterMissing, filter_id⟩, self)
  | some filter =>
    if filter.state.is_closed_or_failed ∨ filter.state = .Started ∨ config.tpid.isNone ∨
        filter.open_kind ≠ open_kind ∨ self.source_allows filter config.tpid = false then
      some (.error ⟨.InvalidState, filter_id⟩, self)
    else
      match self.validate_source_filter_reconfigure filter_id config.tpid with
      | .error error => some (.error error, self)
      | .ok _ =>
        if filter.pipeline_config = some config ∧ filter.pes_stream_id = pes_stream_id ∧
            filter.section_config = section_config then
          let result := env.schedule_start_id self.parts filter_id
          some (result.1, { self with parts := result.2 })
        else
          match self.configure_filter_runtime_with_full_config env filter_id config pes_stream_id
            section_config with
          | none => none
          | some (.error error, self) =>
            if error.kind = .FilterMissing then some (.error error, self)
            else self.fail_isolated env filter_id error
          | some (.ok _, self) =>
            match env.schedule_start_id self.parts filter_id with
            | (.error error, parts) =>
              { self with parts }.fail_isolated env filter_id error
            | (.ok _, parts) => some (.ok (), { self with parts })

omit [DecidableEq κ]

def set_filter_state (state : FilterRuntimeState) : DemuxRuntime κ ε :=
  { self with filters := self.filters.insert filter_id { filter with state } }

def start_filter_runtime : Outcome × DemuxRuntime κ ε :=
  match self.filters.get filter_id with
  | none => (.error ⟨.FilterMissing, filter_id⟩, self)
  | some filter =>
    match filter.state with
    | .Configured | .Stopped =>
      match env.queue_ready self.parts filter_id with
      | .error error => (.error error, self)
      | .ok _ => (.ok (), self.set_filter_state filter_id filter .Started)
    | .Started => (.ok (), self)
    | .Open => (.error ⟨.InvalidState, filter_id⟩, self)
    | _ => (.error ⟨.SinkLifecycle, filter_id⟩, self)

def stop_filter_runtime : Outcome × DemuxRuntime κ ε :=
  match self.filters.get filter_id with
  | none => (.error ⟨.FilterMissing, filter_id⟩, self)
  | some filter =>
    match filter.state with
    | .Started =>
      (.ok (),
        { self.set_filter_state filter_id filter .Stopped with
          parts := env.stopped self.parts filter_id })
    | .Configured | .Stopped | .Open => (.ok (), self)
    | _ => (.error ⟨.SinkLifecycle, filter_id⟩, self)

def refresh_filter_source_generation_for_queue_cleanup (next_generation : Nat) : DemuxAnswer κ ε :=
  match self.filters.get filter_id with
  | none => some (.error ⟨.FilterMissing, filter_id⟩, self)
  | some filter =>
    let self : DemuxRuntime κ ε :=
      { self with
        filters := self.filters.insert filter_id { filter with generation := next_generation } }
    match self.refresh_source_filter_downstreams env filter_id next_generation with
    | none => none
    | some (.error error, self) => self.fail_isolated env filter_id error
    | some (.ok _, self) => some (.ok (), self)

/-- The drain of a flush, from the point where the filter is known to be in use. A filter with
sinks goes to its next generation, and they with it. -/
def flush_filter_queue (next_source_generation : Option Nat) : DemuxAnswer κ ε :=
  match env.gate_ready self.parts filter_id with
  | .error error => some (.error error, self)
  | .ok _ =>
    match env.begin_flush self.parts filter_id with
    | (.error error, parts) => { self with parts }.fail_isolated env filter_id error
    | (.ok _, parts) =>
      match env.clear_for_flush parts filter_id with
      | (.error error, parts) => { self with parts }.fail_isolated env filter_id error
      | (.ok _, parts) =>
        match env.commit_flush parts filter_id with
        | (.error error, parts) => { self with parts }.fail_isolated env filter_id error
        | (.ok _, parts) =>
          match next_source_generation with
          | none => some (.ok (), { self with parts })
          | some next_generation =>
            { self with parts }.refresh_filter_source_generation_for_queue_cleanup env
              filter_id next_generation

def flush_filter_runtime : DemuxAnswer κ ε :=
  match self.filters.get filter_id with
  | none => some (.error ⟨.FilterMissing, filter_id⟩, self)
  | some filter =>
    if filter.state = .Open then some (.error ⟨.InvalidState, filter_id⟩, self)
    else if filter.state.is_closed_or_failed then some (.error ⟨.SinkLifecycle, filter_id⟩, self)
    else if (self.source_filter_downstream_ids filter_id).isEmpty then
      self.flush_filter_queue env filter_id none
    else
      match checked_add U64_MAX filter.generation 1 with
      | none => self.fail_isolated env filter_id ⟨.GenerationExhausted, filter_id⟩
      | some next => self.flush_filter_queue env filter_id (some next)

end

end DemuxRuntime

/-! ## A call -/

inductive DemuxCall (κ : Type)
  | Register (filter_id : Int) (open_kind : PipelineOpenKind)
  | Remove (filter_id : Int)
  | Connect (sink_filter_id source_filter_id : Int)
  | Disconnect (sink_filter_id : Int)
  | Configure (filter_id : Int) (open_kind : PipelineOpenKind) (config : FilterPipelineConfig κ)
      (pes_stream_id : Option Int) (section_config : Option κ)
  | Flush (filter_id : Int)
  | Start (filter_id : Int)
  | Stop (filter_id : Int)

def DemuxRuntime.call {κ ε : Type} [DecidableEq κ] (env : Resources ε) (self : DemuxRuntime κ ε) :
    DemuxCall κ → DemuxAnswer κ ε
  | .Register filter_id open_kind =>
    some (self.register_filter_from_typed_request env filter_id open_kind)
  | .Remove filter_id => self.remove_filter env filter_id
  | .Connect sink_filter_id source_filter_id =>
    self.apply_filter_source_boundary_change env sink_filter_id (some source_filter_id)
  | .Disconnect sink_filter_id => self.apply_filter_source_boundary_change env sink_filter_id none
  | .Configure filter_id open_kind config pes_stream_id section_config =>
    self.configure_filter_runtime env filter_id open_kind config pes_stream_id section_config
  | .Flush filter_id => self.flush_filter_runtime env filter_id
  | .Start filter_id => some (self.start_filter_runtime env filter_id)
  | .Stop filter_id => some (self.stop_filter_runtime env filter_id)

end tuner_hal2_demux
