-- The pipeline as a family of streams. What the pipeline keeps for a stream is one
-- part of its state, and a packet reads and changes the part of its own stream
-- alone, so that streams cannot disturb each other.
import TvStack.PacketPipeline

open Isolation List Machines Words

namespace tuner_hal2_demux.packet_pipeline

open tuner_hal2_common ts_core

/-! ## The part of a stream -/

/-- An origin with a PID. -/
abbrev Stream := TsInputOrigin × PacketPid

/-- What the pipeline keeps for a stream: the assemblers and the flush generations of each filter,
the generations, and the continuity. -/
@[ext]
structure StreamPart where
  sections : Int → Option SectionAssembler
  pes : Int → Option PesAssembler
  (section_generation pes_generation : Option Nat)
  (section_flush pes_flush : Int → Option Nat)
  continuity : Option ContinuityState

namespace PacketPipeline

variable {action : PipelineDeliveryAction}

def part (self : PacketPipeline) (stream : Stream) : StreamPart where
  sections filter_id := self.section_assemblers.get (stream.1, stream.2, filter_id)
  pes filter_id := self.pes_assemblers.get (stream.1, stream.2, filter_id)
  section_generation := self.section_assembler_generations.get stream
  pes_generation := self.pes_assembler_generations.get stream
  section_flush filter_id := self.filter_section_flush_generations.get
    (stream.1, filter_id, stream.2)
  pes_flush filter_id := self.filter_pes_flush_generations.get (stream.1, filter_id, stream.2)
  continuity := (self.continuity_trackers.get stream.1).bind (·.states.get stream.2)

variable {pid : PacketPid} {origin : TsInputOrigin}

theorem count_local (note : PipelineDiagnosticCounters → PipelineDiagnosticCounters)
    (stream : Stream) : Local part stream (count note) :=
  .modify (u := id) (part_stays part stream)

/-- A stream that is not the one of an operation differs from it in its origin or in its PID. -/
theorem ne_stream {j : Stream} : j ≠ (origin, pid) ↔ j.1 ≠ origin ∨ j.2 ≠ pid := by
  rw [Ne, Prod.ext_iff, not_and_or]

theorem reset_assembly_for_origin_pid_local :
    Local part (origin, pid) (reset_assembly_for_origin_pid pid origin) := by
  refine .modify (u := fun part => { part with
    sections := fun _ => none, pes := fun _ => none, section_generation := none,
    pes_generation := none, section_flush := fun _ => none, pes_flush := fun _ => none })
      fun self j => ?_
  split_ifs with hj
  · subst hj
    ext <;> simp [part, FinMap.get_retain]
  have hkeep : (decide (j.1 ≠ origin) || decide (j.2 ≠ pid)) = true := by
    simpa using ne_stream.mp hj
  ext <;> simp only [part, FinMap.get_retain, hkeep, if_true]

theorem not_of_stream {j : Stream} (hj : j ≠ (origin, pid)) :
    (!(decide (j.1 = origin) && decide (j.2 = pid))) = true := by
  simpa [or_iff_not_imp_left] using ne_stream.mp hj

theorem drop_section_generations_local :
    Local part (origin, pid) (drop_section_generations pid origin) := by
  refine .modify (u := fun part => { part with
    section_generation := none, section_flush := fun _ => none }) fun self j => ?_
  split_ifs with hj
  · subst hj
    ext <;> simp [part, FinMap.get_retain]
  ext <;> simp only [part, FinMap.get_retain, not_of_stream hj, if_true]

theorem drop_pes_generations_local :
    Local part (origin, pid) (drop_pes_generations pid origin) := by
  refine .modify (u := fun part => { part with
    pes_generation := none, pes_flush := fun _ => none }) fun self j => ?_
  split_ifs with hj
  · subst hj
    ext <;> simp [part, FinMap.get_retain]
  ext <;> simp only [part, FinMap.get_retain, not_of_stream hj, if_true]

theorem drop_generations_for_pid_origin_local (for_sections for_pes : Bool) :
    Local part (origin, pid) (drop_generations_for_pid_origin pid origin for_sections for_pes) := by
  refine .bind ?_ fun _ => ?_
  · split
    · exact drop_section_generations_local
    · exact .pure ()
  · split
    · exact drop_pes_generations_local
    · exact .pure ()

/-! ## Continuity -/

variable (self : PacketPipeline) (filter_id : Int) (payload_unit_start : Bool)

/-- A new tracker of an origin that changes one PID changes one stream. -/
theorem part_insert_tracker {tracker : ContinuityTracker}
    (h : ∀ q, q ≠ pid →
      tracker.states.get q = ((self.continuity_trackers.get origin).getD {}).states.get q)
    (j : Stream) :
    part { self with continuity_trackers := self.continuity_trackers.insert origin tracker } j =
      if j = (origin, pid) then
        { self.part (origin, pid) with continuity := tracker.states.get pid }
      else self.part j := by
  have hcontinuity : ((self.continuity_trackers.insert origin tracker).get j.1).bind
      (·.states.get j.2) =
        if j = (origin, pid) then tracker.states.get pid
        else (self.continuity_trackers.get j.1).bind (·.states.get j.2) := by
    rw [FinMap.get_insert]
    by_cases horigin : j.1 = origin
    · rw [if_pos horigin, Option.bind_some]
      split_ifs with hj
      · rw [hj]
      rw [h _ ((ne_stream.mp hj).resolve_left (not_not_intro horigin)), horigin]
      cases self.continuity_trackers.get origin <;> rfl
    · rw [if_neg horigin, if_neg (ne_stream.mpr (.inl horigin))]
  split_ifs with hj
  · rw [if_pos hj] at hcontinuity
    subst hj
    ext : 1 <;> first | rfl | exact hcontinuity
  · rw [if_neg hj] at hcontinuity
    ext : 1 <;> first | rfl | exact hcontinuity

theorem reset_continuity_pid_local :
    Local part (origin, pid) (reset_continuity_pid pid origin) := by
  refine .modify (u := fun part => { part with continuity := none }) fun self j => ?_
  have hstates (q : PacketPid) : (((self.continuity_trackers.get origin).getD {}).reset_pid
      pid).states.get q =
        if q = pid then none
        else ((self.continuity_trackers.get origin).getD {}).states.get q :=
    FinMap.get_erase pid q
  rw [part_insert_tracker self (fun q hq => by rw [hstates, if_neg hq]), hstates, if_pos rfl]

variable (continuity_counter : UInt8)

/-- What the check of a packet makes of the part of its stream. -/
def StreamPart.check (has_payload : Bool) (packet : TsPacket) :
    StateM StreamPart ContinuityOutcome := fun part =>
  let observed := (part.continuity.getD {}).observe continuity_counter packet
  if has_payload then (observed.2, { part with continuity := some observed.1 })
  else (.InOrder, part)

/-- What is kept for a stream says which outcome a packet has. -/
theorem check_continuity.spec (has_payload : Bool) (packet : TsPacket) :
    (check_continuity pid origin continuity_counter has_payload packet self).1 =
      (StreamPart.check continuity_counter has_payload packet (self.part (origin, pid))).1 ∧
    ∀ j, (check_continuity pid origin continuity_counter has_payload packet self).2.part j =
      if j = (origin, pid) then
        (StreamPart.check continuity_counter has_payload packet (self.part (origin, pid))).2
      else self.part j := by
  have hstate : (((self.continuity_trackers.get origin).getD {}).states.get pid) =
      (self.part (origin, pid)).continuity := by
    unfold part
    cases self.continuity_trackers.get origin <;> rfl
  have hother (q : PacketPid) (hq : q ≠ pid) : (((self.continuity_trackers.get origin).getD
      {}).observe pid continuity_counter has_payload packet).1.states.get q =
        ((self.continuity_trackers.get origin).getD {}).states.get q := by
    unfold ContinuityTracker.observe
    split
    · rfl
    · exact (FinMap.get_insert _ _ q).trans (if_neg hq)
  constructor
  · cases has_payload with
    | false => rfl
    | true => exact congrArg (fun state => (ContinuityState.observe (state.getD {})
        continuity_counter packet).2) hstate
  · intro j
    refine (part_insert_tracker self hother j).trans ?_
    split
    · cases has_payload with
      | false => ext : 1 <;> first | rfl | exact hstate
      | true =>
        have hinserted := congrArg (fun state => some (ContinuityState.observe (state.getD {})
          continuity_counter packet).1) hstate
        ext : 1 <;> first | rfl | exact (FinMap.get_insert_self pid _).trans hinserted
    · rfl

/-! ## Assemblers and generations -/

theorem key_ne {j : Stream} (hj : j ≠ (origin, pid)) (id id' : Int) :
    (j.1, j.2, id) ≠ (origin, pid, id') :=
  fun h => hj (Prod.ext (congrArg (·.1) h) (congrArg (·.2.1) h))

theorem part_insert_section (a : SectionAssembler) (j : Stream) :
    part { self with
        section_assemblers := self.section_assemblers.insert (origin, pid, filter_id) a } j =
      if j = (origin, pid) then
        { self.part (origin, pid) with
          sections := fun id =>
            if id = filter_id then some a else (self.part (origin, pid)).sections id }
      else self.part j := by
  split_ifs with hj
  · subst hj
    ext : 1 <;> first | rfl | (funext id; simp [part, FinMap.get_insert])
  ext : 1 <;> first | rfl | exact funext fun id =>
    (FinMap.get_insert _ a _).trans (if_neg (key_ne hj id filter_id))

theorem part_insert_pes (a : PesAssembler) (j : Stream) :
    part { self with pes_assemblers := self.pes_assemblers.insert (origin, pid, filter_id) a } j =
      if j = (origin, pid) then
        { self.part (origin, pid) with
          pes := fun id => if id = filter_id then some a else (self.part (origin, pid)).pes id }
      else self.part j := by
  split_ifs with hj
  · subst hj
    ext : 1 <;> first | rfl | (funext id; simp [part, FinMap.get_insert])
  ext : 1 <;> first | rfl | exact funext fun id =>
    (FinMap.get_insert _ a _).trans (if_neg (key_ne hj id filter_id))

theorem assemble_section_for_filter_local (raw payload_unit_start : Bool) (payload : List UInt8) :
    Local part (origin, pid)
      (assemble_section_for_filter pid origin filter_id raw payload_unit_start payload) := by
  let pushed (part : StreamPart) := ((part.sections filter_id).getD
    {}).push_payload_with_outcome_policy payload_unit_start payload !raw
  exact ⟨fun part => ((pushed part).2,
    { part with
      sections := fun id => if id = filter_id then some (pushed part).1 else part.sections id }),
    fun self => ⟨rfl, fun j => part_insert_section self filter_id _ j⟩⟩

theorem assemble_pes_for_filter_local (payload : List UInt8) :
    Local part (origin, pid)
      (assemble_pes_for_filter pid origin filter_id payload_unit_start payload) := by
  let pushed (part : StreamPart) :=
    ((part.pes filter_id).getD {}).push pid payload_unit_start payload
  exact ⟨fun part => ((pushed part).2,
    { part with pes := fun id => if id = filter_id then some (pushed part).1 else part.pes id }),
    fun self => ⟨rfl, fun j => part_insert_pes self filter_id _ j⟩⟩

theorem take_drop_diagnostic_local :
    Local part (origin, pid) (take_drop_diagnostic pid origin filter_id) := by
  refine ⟨fun part =>
    (part.pes filter_id).elim (none, part) fun assembler =>
      (assembler.take_drop_diagnostic.2,
        { part with
          pes := fun id =>
            if id = filter_id then some assembler.take_drop_diagnostic.1 else part.pes id }),
    fun self => ?_⟩
  have hpes : (self.part (origin, pid)).pes filter_id =
      self.pes_assemblers.get (origin, pid, filter_id) := rfl
  beta_reduce
  rw [hpes, take_drop_diagnostic_eq]
  cases self.pes_assemblers.get (origin, pid, filter_id) with
  | none => exact ⟨rfl, part_stays part _ self⟩
  | some assembler => exact ⟨rfl, fun j => part_insert_pes self filter_id _ j⟩

theorem bump_section_generation_local :
    Local part (origin, pid) (bump_section_generation pid origin) := by
  refine ⟨fun part =>
    (checked_add U64_MAX (part.section_generation.getD 0) 1,
      { part with
        section_generation := some ((checked_add U64_MAX (part.section_generation.getD 0) 1).getD
          (part.section_generation.getD 0)) }), fun self => ⟨rfl, fun j => ?_⟩⟩
  split_ifs with hj
  · subst hj
    ext : 1 <;> first | rfl | exact FinMap.get_insert_self _ _
  · ext : 1 <;> first | rfl | exact (FinMap.get_insert _ _ j).trans (if_neg hj)

theorem bump_pes_generation_local : Local part (origin, pid) (bump_pes_generation pid origin) := by
  refine ⟨fun part =>
    (checked_add U64_MAX (part.pes_generation.getD 0) 1,
      { part with
        pes_generation := some ((checked_add U64_MAX (part.pes_generation.getD 0) 1).getD
          (part.pes_generation.getD 0)) }), fun self => ⟨rfl, fun j => ?_⟩⟩
  split_ifs with hj
  · subst hj
    ext : 1 <;> first | rfl | exact FinMap.get_insert_self _ _
  · ext : 1 <;> first | rfl | exact (FinMap.get_insert _ _ j).trans (if_neg hj)

theorem section_generation_local :
    Local part (origin, pid) (section_generation pid origin payload_unit_start) := by
  unfold section_generation
  split
  · exact bump_section_generation_local
  · exact ⟨fun part => (some (part.section_generation.getD PIPELINE_GENERATION_INITIAL), part),
      fun self => ⟨rfl, part_stays part _ self⟩⟩

theorem pes_generation_local :
    Local part (origin, pid) (pes_generation pid origin payload_unit_start) := by
  unfold pes_generation
  split
  · exact bump_pes_generation_local
  · exact ⟨fun part => (some (part.pes_generation.getD PIPELINE_GENERATION_INITIAL), part),
      fun self => ⟨rfl, part_stays part _ self⟩⟩

/-! ## A packet -/

variable (filters : List PipelineFilterView) (view : TsPacketView) (report : PipelineReport)

theorem observe_transport_error_local (stream : Stream) :
    Local part stream (observe_transport_error view report) := by
  unfold observe_transport_error
  split
  · exact .bind (count_local _ stream) fun _ => .pure _
  · exact .pure report

theorem observe_discontinuity_indicator_local :
    Local part (origin, view.pid) (observe_discontinuity_indicator origin view report) := by
  unfold observe_discontinuity_indicator
  split
  · refine .bind (count_local _ _) fun _ => ?_
    refine .bind reset_continuity_pid_local fun _ => ?_
    exact .bind reset_assembly_for_origin_pid_local fun _ => .pure _
  · exact .pure report

theorem observe_continuity_local (outcome : ContinuityOutcome) :
    Local part (origin, pid) (observe_continuity pid origin report outcome) := by
  cases outcome with
  | FirstPacket | InOrder => exact .pure report
  | Duplicate => exact .bind (count_local _ _) fun _ => .pure _
  | CounterCollision | Discontinuity =>
    refine .bind (count_local _ _) fun _ => ?_
    exact .bind reset_assembly_for_origin_pid_local fun _ => .pure _

theorem accept_validated_ts_packet_local (validated : ValidatedTsPacket) :
    Local part (origin, validated.pid) (accept_validated_ts_packet origin validated) := by
  refine .bind (observe_transport_error_local _ _ _) fun _ => ?_
  refine .bind (observe_discontinuity_indicator_local _ _) fun _ => ?_
  refine .bind ⟨_, fun self => check_continuity.spec self _ _ _⟩ fun _ => ?_
  exact .bind (observe_continuity_local _ _) fun _ => .pure _

variable (payload_unit_start : Bool) (payload : List UInt8)

theorem assemble_sections_local :
    Local part (origin, pid)
      (assemble_sections pid origin filters payload_unit_start payload report) := by
  unfold assemble_sections
  split
  · refine .bind (section_generation_local _) fun generation => ?_
    cases generation with
    | none => exact .bind reset_assembly_for_origin_pid_local fun _ => .pure _
    | some generation =>
      refine .foldlM (fun report filter => ?_) _ report
      exact .bind (assemble_section_for_filter_local _ _ _ _) fun _ => .pure _
  · exact .bind (drop_generations_for_pid_origin_local _ _) fun _ => .pure _

theorem assemble_pes_local :
    Local part (origin, pid)
      (assemble_pes pid origin filters payload_unit_start payload report) := by
  unfold assemble_pes
  split
  · refine .bind (pes_generation_local _) fun generation => ?_
    cases generation with
    | none => exact .bind reset_assembly_for_origin_pid_local fun _ => .pure _
    | some generation =>
      refine .foldlM (fun report filter_id => ?_) _ report
      refine .bind (assemble_pes_for_filter_local _ _ _) fun _ => ?_
      exact .bind (take_drop_diagnostic_local _) fun _ => .pure _
  · exact .bind (drop_generations_for_pid_origin_local _ _) fun _ => .pure _

theorem plan_and_assemble_local (packet : ValidatedTsPacket)
    (reasons : List PipelineAssemblySuppressionReason) :
    Local part (origin, packet.pid)
      (plan_and_assemble_ts_packet_report_after_preflight origin filters packet reasons) := by
  unfold plan_and_assemble_ts_packet_report_after_preflight
  simp only
  split
  · exact .bind reset_assembly_for_origin_pid_local fun _ => .pure _
  split
  · exact .pure _
  split
  · exact .pure _
  split
  · split
    · exact .bind reset_assembly_for_origin_pid_local fun _ => .pure _
    · exact .pure _
  · exact .bind (assemble_sections_local _ _ _ _) fun _ => assemble_pes_local _ _ _ _

/-! ## The filters of the events -/

/-- The filter that an event of the assembly is for. -/
def assembly_filter : PipelineGeneratedEvent → Option Int
  | .Section filter_id _ | .Pes filter_id _ | .SectionPayloadReady filter_id _ _ _ _
  | .PesPacketReady filter_id _ _ _ _ => some filter_id
  | _ => none

def event_pid : PipelineGeneratedEvent → Option PacketPid
  | .SectionPayloadReady _ pid _ _ _ | .PesPacketReady _ pid _ _ _ => some pid
  | _ => none

/-- The filter that an action of the assembly is for. -/
def action_filter : PipelineDeliveryAction → Option Int
  | .SectionPayload filter_id | .PesPayload filter_id | .AvPayload filter_id => some filter_id
  | _ => none

/-- Some filter with the id takes the packets of the stream. -/
def OnStream (stream : Stream) (filter_id : Int) : Prop :=
  ∃ filter ∈ filters, filter.filter_id = filter_id ∧
    filter.accepts_packet_pid_from_origin stream.2 stream.1

/-- The event is for a filter on the stream, and says the PID of the stream. -/
def EventOn (stream : Stream) (event : PipelineGeneratedEvent) : Prop :=
  (∀ id, assembly_filter event = some id → OnStream filters stream id) ∧
    ∀ pid, event_pid event = some pid → pid = stream.2

/-- What a report says about assembly is for filters on the stream. -/
structure ForStream (stream : Stream) (report : PipelineReport) : Prop where
  actions : ∀ action ∈ report.delivery_actions, ∀ id, action_filter action = some id →
    OnStream filters stream id
  events : ∀ event ∈ report.generated_events, EventOn filters stream event

variable {filters report} {stream : Stream}

theorem ForStream.add_events (h : ForStream filters stream report)
    {events : List PipelineGeneratedEvent}
    (hevents : ∀ event ∈ events, EventOn filters stream event) :
    ForStream filters stream (report.add_events events) := by
  refine ⟨h.actions, fun event hmem => ?_⟩
  rcases mem_append.mp hmem with hold | hnew
  · exact h.events event hold
  · exact hevents event hnew

theorem ForStream.packets_only (h : ForStream filters stream report) :
    ForStream filters stream (packets_only report) :=
  ⟨fun action hmem => h.actions action (mem_of_mem_filter hmem),
    fun event hmem => h.events event (mem_of_mem_filter hmem)⟩

theorem packet_actions_filter {filter : PipelineFilterView} (h : action ∈ packet_actions filter) :
    action_filter action = none := by
  unfold packet_actions at h
  split at h
  · rw [mem_singleton.mp h]
    rfl
  · rcases mem_cons.mp h with rfl | h
    · rfl
    · split at h
      · rw [mem_singleton.mp h]
        rfl
      · cases h
  · cases h

theorem packet_action_of_plan {pid : PacketPid} {origin : TsInputOrigin}
    (h : action ∈ plan_packet_delivery pid origin filters) : isPacketAction action := by
  obtain ⟨filter, -, haction⟩ := mem_flatMap.mp h
  have hnone := packet_actions_filter haction
  cases action <;> first | rfl | cases hnone

theorem plan_section_filters_on_stream {id : Int}
    (h : id ∈ plan_section_filters stream.2 stream.1 filters) : OnStream filters stream id := by
  obtain ⟨filter, hfilter, hid⟩ := mem_map.mp h
  obtain ⟨hmem, haccepts⟩ := mem_filter.mp hfilter
  exact ⟨filter, hmem, hid, (Bool.and_eq_true_iff.mp haccepts).1⟩

theorem plan_pes_actions_on_stream {id : Int}
    (h : action ∈ plan_pes_actions stream.2 stream.1 filters)
    (hid : action_filter action = some id) :
    OnStream filters stream id := by
  obtain ⟨filter, hfilter, rfl⟩ := mem_map.mp h
  obtain ⟨hmem, haccepts⟩ := mem_filter.mp hfilter
  have heq : filter.filter_id = id := by
    unfold pes_action at hid
    split at hid <;> exact Option.some.inj hid
  exact ⟨filter, hmem, heq, (Bool.and_eq_true_iff.mp haccepts).1⟩

theorem plan_payload_for_stream (h : ForStream filters (origin, view.pid) report) :
    ForStream filters (origin, view.pid) (plan_payload origin filters view report) := by
  unfold plan_payload
  simp only
  split
  · exact h
  split
  · split
    · exact ⟨h.actions, h.events⟩
    · exact h
  refine ⟨fun action hmem id hid => ?_, h.events⟩
  rcases mem_append.mp hmem with hmem | hpes
  · rcases mem_append.mp hmem with hold | hsection
    · exact h.actions action hold id hid
    · obtain ⟨section_id, hplanned, rfl⟩ := mem_map.mp hsection
      cases hid
      exact plan_section_filters_on_stream hplanned
  · exact plan_pes_actions_on_stream hpes hid

theorem plan_ts_packet_report_for_stream (packet : ValidatedTsPacket) :
    ForStream filters (origin, packet.pid) (plan_ts_packet_report origin filters packet) := by
  have hpackets : ForStream filters (origin, packet.pid)
      { accepted_packets := 1
        delivery_actions := plan_packet_delivery packet.pid origin filters } := by
    refine ⟨fun action hmem id hid => ?_, fun event hmem => absurd hmem not_mem_nil⟩
    obtain ⟨filter, _, hfilter⟩ := mem_flatMap.mp hmem
    rw [packet_actions_filter hfilter] at hid
    cases hid
  have hplanned : ForStream filters (origin, packet.pid)
      (if packet.view.payload.isSome then
        plan_payload origin filters packet.view
          { accepted_packets := 1
            delivery_actions := plan_packet_delivery packet.pid origin filters }
      else
        { accepted_packets := 1
          delivery_actions := plan_packet_delivery packet.pid origin filters }) := by
    split
    · exact plan_payload_for_stream packet.view hpackets
    · exact hpackets
  refine hplanned.add_events fun event hmem => ?_
  obtain ⟨action, haction, hevent⟩ := mem_filterMap.mp hmem
  obtain ⟨hfilter, hpid⟩ : assembly_filter event = action_filter action ∧
    event_pid event = none := by
    cases action <;> cases hevent <;> exact ⟨rfl, rfl⟩
  refine ⟨fun id hid => hplanned.actions action haction id (hfilter ▸ hid), fun pid hp => ?_⟩
  rw [hpid] at hp
  cases hp

variable {payload_unit_start payload}

section

variable (h : ForStream filters (origin, pid) report)
include h

theorem section_turn_for_stream {generation : Nat} {filter : Int × Bool}
    (hfilter : OnStream filters (origin, pid) filter.1) :
    Answers (ForStream filters (origin, pid))
      (section_turn pid origin payload_unit_start payload generation report filter) := by
  refine .after fun outcome _ => ?_
  refine ForStream.add_events ?_ fun event hmem => ?_
  · split
    · exact ⟨h.actions, h.events⟩
    · exact h
  · obtain ⟨bytes, _, rfl⟩ := mem_map.mp hmem
    exact ⟨fun id hid => Option.some.inj hid ▸ hfilter, fun p hp => (Option.some.inj hp).symm⟩

theorem assemble_sections_for_stream :
    Answers (ForStream filters (origin, pid))
      (assemble_sections pid origin filters payload_unit_start payload report) := by
  unfold assemble_sections
  split
  · refine .after fun generation => ?_
    cases generation with
    | none =>
      exact fun _ => ⟨fun action hmem => h.actions action (mem_of_mem_filter hmem), h.events⟩
    | some generation =>
      refine .foldlM (fun report filter hmem hreport => section_turn_for_stream hreport ?_) h
      obtain ⟨action, haction, hfilter⟩ := mem_filterMap.mp hmem
      refine h.actions action haction filter.1 ?_
      unfold section_filter at hfilter
      split at hfilter
      · cases hfilter
        rfl
      · cases hfilter
  · exact fun _ => h

theorem pes_turn_for_stream {generation : Nat} {filter_id : Int}
    (hfilter : OnStream filters (origin, pid) filter_id) :
    Answers (ForStream filters (origin, pid))
      (pes_turn pid origin filters payload_unit_start payload generation report filter_id) := by
  refine .after fun packets => ?_
  refine .after fun dropped _ => ?_
  refine ForStream.add_events ?_ fun event hmem => ?_
  · cases dropped with
    | none => exact h
    | some drop => exact ⟨h.actions, h.events⟩
  · obtain ⟨packet, _, rfl⟩ := mem_map.mp hmem
    exact ⟨fun id hid => Option.some.inj hid ▸ hfilter, fun p hp => (Option.some.inj hp).symm⟩

theorem assemble_pes_for_stream :
    Answers (ForStream filters (origin, pid))
      (assemble_pes pid origin filters payload_unit_start payload report) := by
  unfold assemble_pes
  split
  · refine .after fun generation => ?_
    cases generation with
    | none =>
      exact fun _ => ⟨fun action hmem => h.actions action (mem_of_mem_filter hmem), h.events⟩
    | some generation =>
      refine .foldlM (fun report filter_id hmem hreport => pes_turn_for_stream hreport ?_) h
      obtain ⟨action, haction, hfilter⟩ := mem_filterMap.mp hmem
      refine h.actions action haction filter_id ?_
      cases action <;> cases hfilter <;> rfl
  · exact fun _ => h

end

theorem plan_and_assemble_for_stream (packet : ValidatedTsPacket)
    (reasons : List PipelineAssemblySuppressionReason) :
    Answers (ForStream filters (origin, packet.pid))
      (plan_and_assemble_ts_packet_report_after_preflight origin filters packet reasons) := by
  have hplan : ForStream filters (origin, packet.pid)
    (plan_ts_packet_report origin filters packet) := plan_ts_packet_report_for_stream packet
  unfold plan_and_assemble_ts_packet_report_after_preflight
  simp only
  split
  · exact fun _ => hplan
  split
  · exact fun _ => hplan.packets_only
  split
  · exact fun _ => hplan
  split
  · split <;> exact fun _ => hplan
  · exact .bind (assemble_sections_for_stream hplan) fun _ h => assemble_pes_for_stream h

end PacketPipeline

/-! ## The law -/

open PacketPipeline

structure Arrival where
  origin : TsInputOrigin
  packet : ValidatedTsPacket

def Arrival.stream (arrival : Arrival) : Stream := (arrival.origin, arrival.packet.pid)

/-- What the demux makes of a packet: the report of the checks, and the report of the assembly. -/
def push_packet (filters : List PipelineFilterView) (arrival : Arrival) :
    PipelineM (PipelineReport × PipelineReport) := do
  let preflight ← accept_validated_ts_packet arrival.origin arrival.packet
  let downstream ← plan_and_assemble_ts_packet_report_after_preflight arrival.origin filters
    arrival.packet preflight.assembly_suppression_reasons
  pure (preflight, downstream)

variable {filters : List PipelineFilterView} (arrival : Arrival)

theorem push_packet_local : Local part arrival.stream (push_packet filters arrival) := by
  refine .bind (accept_validated_ts_packet_local arrival.packet) fun _ => ?_
  exact .bind (plan_and_assemble_local _ _ _) fun _ => .pure _

theorem push_packet_for_stream :
    Answers (fun reports => ForStream filters arrival.stream reports.2)
      (push_packet filters arrival) := by
  refine .after fun preflight => ?_
  exact .bind (plan_and_assemble_for_stream arrival.packet _) fun downstream h _ => h

/-- The reports of the packets of a stream, in a run over packets of all streams. -/
def stream_reports (filters : List PipelineFilterView) (stream : Stream) (self : PacketPipeline)
    (arrivals : List Arrival) : List (PipelineReport × PipelineReport) :=
  answersAt Arrival.stream (push_packet filters) stream self arrivals

/-- The section and PES events of a stream, in a run over packets of all streams. -/
def assembly_events (filters : List PipelineFilterView) (stream : Stream) (self : PacketPipeline)
    (arrivals : List Arrival) : List PipelineGeneratedEvent :=
  (stream_reports filters stream self arrivals).flatMap fun reports =>
    reports.2.generated_events.filter (assembly_filter · |>.isSome)

/-- All section and PES events of a filter in a run. -/
def filter_events (filters : List PipelineFilterView) (filter_id : Int) (self : PacketPipeline)
    (arrivals : List Arrival) : List PipelineGeneratedEvent :=
  (run (machine (push_packet filters)) self arrivals).2.flatMap fun reports =>
    reports.2.generated_events.filter (assembly_filter · = some filter_id)

/-- A filter that takes the packets of one stream alone has the events of that stream alone. -/
theorem filter_events_eq {filter_id : Int} {stream : Stream} {arrivals : List Arrival}
    (h : ∀ arrival ∈ arrivals, OnStream filters arrival.stream filter_id → arrival.stream = stream)
    (self : PacketPipeline) :
    filter_events filters filter_id self arrivals =
      (stream_reports filters stream self arrivals).flatMap fun reports =>
        reports.2.generated_events.filter (assembly_filter · = some filter_id) := by
  refine flatMap_answersAt (fun arrival hmem hstream s => ?_) self
  refine filter_eq_nil_iff.mpr fun event hevent hid => hstream (h arrival hmem ?_)
  exact ((push_packet_for_stream arrival s).events event hevent).1 filter_id (of_decide_eq_true hid)

/-- Two runs with the same packets on a stream give the same report to each of them, and the same
section and PES events, whatever other packets stand between: those of the packets of the stream
alone. Each event is for a filter that takes the PID from the origin, and a filter that takes no
other packets of the runs has the same events. -/
theorem assembly_is_isolated_per_stream (filters : List PipelineFilterView) (stream : Stream)
    (self other : PacketPipeline) (arrivals others : List Arrival)
    (hself : self.part stream = other.part stream)
    (harrivals : arrivals.filter (·.stream = stream) = others.filter (·.stream = stream)) :
    stream_reports filters stream self arrivals = stream_reports filters stream other others ∧
      assembly_events filters stream self arrivals =
        assembly_events filters stream other others ∧
      assembly_events filters stream self arrivals =
        assembly_events filters stream self (arrivals.filter (·.stream = stream)) ∧
      (∀ event ∈ assembly_events filters stream self arrivals, EventOn filters stream event) ∧
      ∀ filter_id, (∀ arrival ∈ arrivals ++ others, OnStream filters arrival.stream filter_id →
          arrival.stream = stream) →
        filter_events filters filter_id self arrivals =
          filter_events filters filter_id other others := by
  have hreports : stream_reports filters stream self arrivals =
      stream_reports filters stream other others :=
    answersAt_congr push_packet_local hself harrivals
  have halone : stream_reports filters stream self arrivals =
      stream_reports filters stream self (arrivals.filter (·.stream = stream)) :=
    answersAt_congr push_packet_local rfl (filter_filter ▸ by simp)
  refine ⟨hreports, ?_, ?_, ?_, ?_⟩
  · unfold assembly_events
    rw [hreports]
  · unfold assembly_events
    rw [← halone]
  · intro event hevent
    obtain ⟨reports, hmem, hevent⟩ := mem_flatMap.mp hevent
    have hfor : ForStream filters stream reports.2 :=
      answersAt_answers
        (fun arrival harrival => harrival ▸ push_packet_for_stream arrival) self arrivals
          reports hmem
    exact hfor.events event (mem_of_mem_filter hevent)
  · intro filter_id honly
    rw [filter_events_eq fun arrival hmem => honly arrival (mem_append_left _ hmem),
      filter_events_eq fun arrival hmem => honly arrival (mem_append_right _ hmem), hreports]

namespace TwoStreams

/-- A payload with one short section. -/
def payload : List UInt8 :=
  [0x00, 0x70, 0x70, 0x05, 0xe1, 0x23, 0x12, 0x34, 0x56] ++ List.replicate 175 0xff

def view (pid : PacketPid) (counter : UInt8) : TsPacketView where
  pid
  transport_error_indicator := false
  payload_unit_start := true
  priority := false
  scrambling_control := 0
  continuity_counter := counter
  flags := {}
  payload := some payload

def firstPid : PacketPid := ⟨0x0100, low_pid⟩
def secondPid : PacketPid := ⟨0x0101, by decide⟩

def firstPacket : ValidatedTsPacket where
  packet := ⟨[0x47, 0x41, 0x00, 0x10] ++ payload, rfl⟩
  view := view firstPid 0
  valid := by decide +kernel

def nextPacket : ValidatedTsPacket where
  packet := ⟨[0x47, 0x41, 0x00, 0x11] ++ payload, rfl⟩
  view := view firstPid 1
  valid := by decide +kernel

def strangePacket : ValidatedTsPacket where
  packet := ⟨[0x47, 0x41, 0x01, 0x17] ++ payload, rfl⟩
  view := view secondPid 7
  valid := by decide +kernel

def sectionFilter (filter_id tpid : Int) : PipelineFilterView where
  filter_id
  tpid := some tpid
  started := true
  source_filter := none
  open_kind := .Section
  section_raw := false
  pes_raw := false
  wants_record_index := false

def sectionFilters : List PipelineFilterView := [sectionFilter 1 0x0100, sectionFilter 2 0x0101]

def alone : List Arrival := [⟨.Frontend 1, firstPacket⟩, ⟨.Frontend 1, nextPacket⟩]

/-- The same packets, with a packet of another PID and one of another origin between them. -/
def disturbed : List Arrival :=
  [⟨.Frontend 1, firstPacket⟩, ⟨.Frontend 1, strangePacket⟩, ⟨.PlaybackDvr 0 0 0, firstPacket⟩,
    ⟨.Frontend 1, nextPacket⟩]

theorem the_disturbed_stream_assembles_the_same :
    (assembly_events sectionFilters (.Frontend 1, firstPid) {} alone).length = 4 ∧
      assembly_events sectionFilters (.Frontend 1, firstPid) {} disturbed =
        assembly_events sectionFilters (.Frontend 1, firstPid) {} alone :=
  ⟨by decide +kernel,
    (assembly_is_isolated_per_stream sectionFilters (.Frontend 1, firstPid) {} {} disturbed alone
      rfl
      rfl).2.1⟩

end TwoStreams

end tuner_hal2_demux.packet_pipeline
