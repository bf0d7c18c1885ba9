-- The steps of a packet at one origin: which filters the plan of the pipeline
-- names, and that everything which can go wrong on the way only wears filters
-- and record DVRs out.
import TvStack.DemuxForwarding
import TvStack.PipelineStreams
import TvStack.SourceGraph

open Forests Isolation List Loops Relation Words

namespace tuner_hal2_demux.packet_pipeline

open tuner_hal2_common ts_core PacketPipeline

variable {origin : TsInputOrigin} {pid : PacketPid} {filters : List PipelineFilterView}
  {report : PipelineReport} {payload_unit_start : Bool} {payload : List UInt8}

/-! ## What a plan names -/

/-- A filter of this kind gets no packets, only what is assembled of them. -/
def Assembles (filters : List PipelineFilterView) (filter_id : Int) : Prop :=
  ∃ filter ∈ filters, filter.filter_id = filter_id ∧
    (filter.open_kind = .Section ∨ filter.open_kind = .Pes ∨ filter.open_kind = .Av)

/-- The packet goes to the raw and record filters that take it, whatever becomes of the assembly.
Only filters with an assembly fail by its generation. -/
structure Plans (filters : List PipelineFilterView) (origin : TsInputOrigin) (pid : PacketPid)
    (report : PipelineReport) : Prop where
  packets : report.delivery_actions.filter isPacketAction = plan_packet_delivery pid origin filters
  assembled : ∀ action ∈ report.delivery_actions, ∀ id, action_filter action = some id →
    Assembles filters id
  overflowed : ∀ diagnostic ∈ report.diagnostics, ∀ id ∈ DemuxRuntime.overflowed diagnostic,
    Assembles filters id

section

variable (h : Plans filters origin pid report)
include h

theorem Plans.retain (keep : PipelineDeliveryAction → Bool)
    (hkeep : ∀ action, isPacketAction action → keep action) :
    Plans filters origin pid (report.retain_actions keep) where
  packets := by
    rw [← h.packets]
    refine (filter_filter ..).trans (filter_congr fun action _ => ?_)
    cases hpacket : isPacketAction action with
    | false => rfl
    | true => rw [hkeep action hpacket]; rfl
  assembled action hmem := h.assembled action (mem_of_mem_filter hmem)
  overflowed := h.overflowed

theorem Plans.add_events (events : List PipelineGeneratedEvent) :
    Plans filters origin pid (report.add_events events) :=
  ⟨h.packets, h.assembled, h.overflowed⟩

theorem Plans.diagnose {diagnostic : PipelineDiagnostic}
    (hnew : ∀ id ∈ DemuxRuntime.overflowed diagnostic, Assembles filters id) :
    Plans filters origin pid (report.diagnose diagnostic) := by
  refine ⟨h.packets, h.assembled, fun d hd => ?_⟩
  rcases mem_append.mp hd with hd | hd
  · exact h.overflowed d hd
  · rw [mem_singleton.mp hd]
    exact hnew

theorem Plans.suppress (reason : PipelineAssemblySuppressionReason) :
    Plans filters origin pid (report.suppress reason) :=
  ⟨h.packets, h.assembled, h.overflowed⟩

theorem Plans.drop_packet (reason : PipelineDropReason) :
    Plans filters origin pid (report.drop_packet reason) :=
  ⟨h.packets, h.assembled, h.overflowed⟩

end

namespace PacketPipeline

section

variable (h : Plans filters origin pid report)
include h

theorem section_turn_plans {generation : Nat} {filter : Int × Bool} :
    Answers (Plans filters origin pid)
      (section_turn pid origin payload_unit_start payload generation report filter) := by
  refine .after fun outcome _ => ?_
  refine Plans.add_events ?_ _
  split
  · exact (h.drop_packet _).diagnose nofun
  · exact h

theorem assemble_sections_plans :
    Answers (Plans filters origin pid)
      (assemble_sections pid origin filters payload_unit_start payload report) := by
  unfold assemble_sections
  split
  · refine .after fun generation => ?_
    cases generation with
    | none =>
      refine fun _ => ((h.drop_packet _).diagnose fun id hid => ?_).retain _
        fun action hpacket => ?_
      · obtain ⟨found, hfound, rfl⟩ := mem_map.mp hid
        obtain ⟨action, haction, hfilter⟩ := mem_filterMap.mp hfound
        cases action <;> cases hfilter
        exact h.assembled _ haction _ rfl
      · cases action <;> simp_all [isPacketAction, isSectionAction]
    | some generation => exact .foldlM (fun _ _ _ hreport => section_turn_plans hreport) h
  · exact fun _ => h

theorem pes_turn_plans {generation : Nat} {filter_id : Int} :
    Answers (Plans filters origin pid)
      (pes_turn pid origin filters payload_unit_start payload generation report filter_id) := by
  refine .after fun packets => ?_
  refine .after fun dropped _ => ?_
  refine Plans.add_events ?_ _
  cases dropped with
  | none => exact h
  | some drop => exact (h.drop_packet _).diagnose nofun

theorem assemble_pes_plans :
    Answers (Plans filters origin pid)
      (assemble_pes pid origin filters payload_unit_start payload report) := by
  unfold assemble_pes
  split
  · refine .after fun generation => ?_
    cases generation with
    | none =>
      refine fun _ => ((h.drop_packet _).diagnose fun id hid => ?_).retain _
        fun action hpacket => ?_
      · obtain ⟨action, haction, hfilter⟩ := mem_filterMap.mp hid
        cases action <;> cases hfilter <;> exact h.assembled _ haction _ rfl
      · cases action <;> simp_all [isPacketAction, isPesAction]
    | some generation => exact .foldlM (fun _ _ _ hreport => pes_turn_plans hreport) h
  · exact fun _ => h

end

theorem section_filters_assemble {id : Int} (h : id ∈ plan_section_filters pid origin filters) :
    Assembles filters id := by
  obtain ⟨filter, hfilter, rfl⟩ := mem_map.mp h
  obtain ⟨hmem, hcond⟩ := mem_filter.mp hfilter
  simp only [Bool.and_eq_true, decide_eq_true_eq] at hcond
  exact ⟨filter, hmem, rfl, .inl hcond.2⟩

theorem pes_actions_assemble {action : PipelineDeliveryAction} {id : Int}
    (h : action ∈ plan_pes_actions pid origin filters) (hid : action_filter action = some id) :
    Assembles filters id := by
  obtain ⟨filter, hfilter, rfl⟩ := mem_map.mp h
  obtain ⟨hmem, hcond⟩ := mem_filter.mp hfilter
  simp only [Bool.and_eq_true, Bool.or_eq_true, decide_eq_true_eq] at hcond
  have hassembles : Assembles filters filter.filter_id := ⟨filter, hmem, rfl, .inr hcond.2⟩
  unfold pes_action at hid
  split at hid <;> cases hid <;> exact hassembles

/-- The actions for the payload of a packet are none for the packet. -/
theorem plan_payload_plans {view : TsPacketView} (h : Plans filters origin view.pid report) :
    Plans filters origin view.pid (plan_payload origin filters view report) := by
  unfold plan_payload
  dsimp only
  split
  · exact h
  split
  · split
    · exact (h.suppress _).diagnose nofun
    · exact h
  have hpayload : ∀ action ∈ (plan_section_filters view.pid origin filters).map
      PipelineDeliveryAction.SectionPayload ++ plan_pes_actions view.pid origin filters,
      isPacketAction action = false ∧
        ∀ id, action_filter action = some id → Assembles filters id := by
    intro action haction
    rcases mem_append.mp haction with haction | haction
    · obtain ⟨id, hid, rfl⟩ := mem_map.mp haction
      exact ⟨rfl, fun found hfound => Option.some.inj hfound ▸ section_filters_assemble hid⟩
    · obtain ⟨filter, -, hshape⟩ := mem_map.mp haction
      refine ⟨?_, fun id hid => pes_actions_assemble haction hid⟩
      rw [← hshape, pes_action]
      split <;> rfl
  refine ⟨?_, fun action hmem => ?_, h.overflowed⟩
  · have hnone : ((plan_section_filters view.pid origin filters).map
        PipelineDeliveryAction.SectionPayload ++ plan_pes_actions view.pid origin filters).filter
          isPacketAction = [] :=
      filter_eq_nil_iff.mpr fun action haction => by
        rw [(hpayload action haction).1]
        exact Bool.false_ne_true
    rw [append_assoc, filter_append, h.packets, hnone, append_nil]
  · rw [append_assoc] at hmem
    rcases mem_append.mp hmem with hmem | hmem
    · exact h.assembled action hmem
    · exact (hpayload action hmem).2

theorem plan_ts_packet_report_plans (packet : ValidatedTsPacket) :
    Plans filters origin packet.pid (plan_ts_packet_report origin filters packet) := by
  have hbase : Plans filters origin packet.pid
      { accepted_packets := 1
        delivery_actions := plan_packet_delivery packet.pid origin filters } := by
    refine ⟨filter_eq_self.mpr fun action => packet_action_of_plan,
      fun action hmem id hid => ?_, nofun⟩
    obtain ⟨filter, -, haction⟩ := mem_flatMap.mp hmem
    cases (packet_actions_filter haction).symm.trans hid
  refine Plans.add_events ?_ _
  split
  · exact plan_payload_plans hbase
  · exact hbase

/-- Whatever becomes of the assembly of a packet, the plan names the filters that take it. -/
theorem plan_and_assemble_plans (origin : TsInputOrigin) (filters : List PipelineFilterView)
    (packet : ValidatedTsPacket) (reasons : List PipelineAssemblySuppressionReason) :
    Answers (Plans filters origin packet.pid)
      (plan_and_assemble_ts_packet_report_after_preflight origin filters packet reasons) := by
  have hplan : Plans filters origin packet.pid (plan_ts_packet_report origin filters packet) :=
    plan_ts_packet_report_plans packet
  have hpackets : Plans filters origin packet.pid
      (packets_only (plan_ts_packet_report origin filters packet)) := by
    have hretain := hplan.retain isPacketAction fun _ h => h
    exact ⟨hretain.packets, hretain.assembled, hretain.overflowed⟩
  unfold plan_and_assemble_ts_packet_report_after_preflight
  simp only
  split
  · exact fun _ => hplan
  split
  · exact fun _ => hpackets
  split
  · exact fun _ => hplan
  split
  · split <;> exact fun _ => hplan
  · exact .bind (assemble_sections_plans hplan) fun _ h => assemble_pes_plans h

/-- Nothing is planned yet, and no filter fails. -/
structure PlansNothing (report : PipelineReport) : Prop where
  actions : report.delivery_actions = []
  overflowed : ∀ diagnostic ∈ report.diagnostics, DemuxRuntime.overflowed diagnostic = []

theorem PlansNothing.suppress (h : PlansNothing report)
    (reason : PipelineAssemblySuppressionReason) :
    PlansNothing (report.suppress reason) := ⟨h.actions, h.overflowed⟩

theorem PlansNothing.diagnose (h : PlansNothing report) {diagnostic : PipelineDiagnostic}
    (hnew : DemuxRuntime.overflowed diagnostic = []) :
    PlansNothing (report.diagnose diagnostic) := by
  refine ⟨h.actions, fun d hd => ?_⟩
  rcases mem_append.mp hd with hd | hd
  · exact h.overflowed d hd
  · rw [mem_singleton.mp hd]
    exact hnew

theorem observe_continuity_plans_nothing (h : PlansNothing report) (outcome : ContinuityOutcome) :
    Answers PlansNothing (observe_continuity pid origin report outcome) := by
  cases outcome with
  | Duplicate | CounterCollision => exact fun _ => (h.suppress _).diagnose rfl
  | Discontinuity => exact fun _ => h.diagnose rfl
  | FirstPacket | InOrder => exact fun _ => h

theorem accept_validated_ts_packet_plans_nothing (origin : TsInputOrigin)
    (packet : ValidatedTsPacket) :
    Answers PlansNothing (accept_validated_ts_packet origin packet) := by
  have hempty : PlansNothing {} := ⟨rfl, nofun⟩
  refine .bind (P := PlansNothing) ?_ fun report hreport => .bind ?_
    fun report hreport => .after fun outcome =>
      .bind (observe_continuity_plans_nothing hreport outcome) fun report hreport => ?_
  · unfold observe_transport_error
    split
    · exact fun _ => (hempty.suppress _).diagnose rfl
    · exact fun _ => hempty
  · unfold observe_discontinuity_indicator
    split
    · exact fun _ => hreport.diagnose rfl
    · exact fun _ => hreport
  · intro _
    split
    · exact ⟨hreport.actions, ((hreport.suppress .NoPayload).diagnose rfl).overflowed⟩
    · exact ⟨hreport.actions, hreport.overflowed⟩

end PacketPipeline

end tuner_hal2_demux.packet_pipeline

namespace tuner_hal2_demux.DemuxRuntime

open packet_pipeline

variable {κ ε : Type} {s s' s'' : DemuxRuntime κ ε} {x y : Int} (env : Delivery ε)

/-! ## What can go wrong -/

theorem Fades.parts (s : DemuxRuntime κ ε) (parts : Parts ε) : s.Fades { s with parts } :=
  .of_filters rfl rfl

theorem isolate_unless_returns (hsound : s.Sound) (step : Parts ε → Bool × Parts ε) (x : Int) :
    ∃ s', s.isolate_unless env step x = some s' ∧ s.Fades s' := by
  unfold isolate_unless
  split
  · exact ⟨_, rfl, .parts s _⟩
  next parts _ =>
  have hparts := Fades.parts s parts
  obtain ⟨s', hreturns, hfades, -⟩ :=
    quarantine_filter_runtime_returns env.toResources (hparts.sound hsound) x
  exact ⟨s', hreturns, hparts.trans hfades⟩

theorem suffer_returns (hsound : s.Sound) (mishap : Mishap) :
    ∃ s', s.suffer env mishap = some s' ∧ s.Fades s' := by
  cases mishap with
  | Fails x => exact ⟨_, rfl, mark_filter_failed_fades s x⟩
  | Isolated x =>
    obtain ⟨s', hreturns, hfades, -⟩ := quarantine_filter_runtime_returns env.toResources hsound x
    exact ⟨s', hreturns, hfades⟩

theorem suffer_all_returns (hsound : s.Sound) (mishaps : List Mishap × Parts ε) :
    ∃ s', s.suffer_all env mishaps = some s' ∧ s.Fades s' := by
  have hparts := Fades.parts s mishaps.2
  obtain ⟨s', hreturns, hfades⟩ := foldlM_returns (P := Sound) .refl .trans
    (fun h hfades => hfades.sound h) (fun mishap _ t ht => suffer_returns env ht mishap) _
    (hparts.sound hsound)
  exact ⟨s', hreturns, hparts.trans hfades⟩

theorem mark_filters_failed_for_generation_overflow_fades (s : DemuxRuntime κ ε)
    (diagnostics : List PipelineDiagnostic) :
    s.Fades (s.mark_filters_failed_for_generation_overflow diagnostics) := by
  unfold mark_filters_failed_for_generation_overflow
  generalize diagnostics.flatMap overflowed = ids
  induction ids generalizing s with
  | nil => exact .refl s
  | cons x rest ih => exact (mark_filter_failed_fades s x).trans (ih _)

/-! ## Clocks -/

/-- The filters wear out, but no started raw filter is lost, if only raw filters are read from. -/
structure Spares (s s' : DemuxRuntime κ ε) : Prop where
  fades : s.Fades s'
  spares : s.RawSources → ∀ {x filter}, s.filters.get x = some filter → filter.open_kind = .Raw →
    s.Started x → s'.Started x

theorem Spares.refl (s : DemuxRuntime κ ε) : s.Spares s := ⟨.refl s, fun _ _ _ _ _ h => h⟩

theorem Spares.of_filters (h : s'.filters = s.filters) (hdvrs : s'.dvrs = s.dvrs) :
    s.Spares s' := by
  refine ⟨.of_filters h hdvrs, fun _ x filter _ _ hstarted => ?_⟩
  rwa [Started, h]

theorem Spares.trans (h : s.Spares s') (h' : s'.Spares s'') : s.Spares s'' := by
  refine ⟨h.fades.trans h'.fades, fun hraw x filter hget hkind hstarted => ?_⟩
  obtain ⟨filter', hget', hfixed⟩ := h.fades.get hget
  exact h'.spares (h.fades.prunes.raw_sources hraw) hget'
    ((congrArg (·.2.1) hfixed).trans hkind) (h.spares hraw hget hkind hstarted)

/-- Quarantine of a filter that none reads from stops at that filter. -/
theorem quarantine_filter_runtime_alone (hsound : s.Sound) (halone : ∀ z, s.parent z ≠ some x) :
    s.quarantine_filter_runtime env.toResources x =
      some { s.mark_filter_failed x with parts := env.isolate s.parts x } := by
  have hnone : s.source_filter_downstream_ids x = [] :=
    eq_nil_iff_forall_not_mem.mpr fun z hz =>
      halone z ((mem_source_filter_downstream_ids hsound).mp hz)
  unfold quarantine_filter_runtime quarantine_within
  rw [hnone]
  split <;> rfl

theorem mark_filter_failed_started (h : s.Started y) (hne : y ≠ x) :
    (s.mark_filter_failed x).Started y := by
  obtain ⟨filter, hget, hstarted⟩ := h
  unfold mark_filter_failed
  split
  · refine ⟨filter, ?_, hstarted⟩
    rw [OrdMap.get_insert, if_neg hne]
    exact hget
  · exact ⟨filter, hget, hstarted⟩

/-- A step for a filter that is not raw spares the raw ones. -/
theorem isolate_unless_spares (hsound : s.Sound) {filter : FilterRuntime κ}
    (hget : s.filters.get x = some filter) (hkind : filter.open_kind ≠ .Raw)
    (step : Parts ε → Bool × Parts ε) :
    ∃ s', s.isolate_unless env step x = some s' ∧ s.Spares s' := by
  obtain ⟨s', hreturns, hfades⟩ := isolate_unless_returns env hsound step x
  refine ⟨s', hreturns, hfades, fun hraw y found hfound hfoundkind hstarted => ?_⟩
  have hne : y ≠ x := by
    rintro rfl
    cases hget.symm.trans hfound
    exact hkind hfoundkind
  have halone : ∀ z, s.parent z ≠ some x := by
    intro z hz
    obtain ⟨source, hsource, hsourcekind⟩ := hraw z x hz
    cases hget.symm.trans hsource
    exact hkind hsourcekind
  unfold isolate_unless at hreturns
  split at hreturns
  · cases hreturns
    exact hstarted
  next parts _ =>
  rw [quarantine_filter_runtime_alone env ((Fades.parts s parts).sound hsound) halone] at hreturns
  cases hreturns
  exact mark_filter_failed_started hstarted hne

theorem mem_pcr_targets (hsound : s.Sound) {pid : PacketPid} {origin : TsInputOrigin}
    {target : Int × Nat} (h : target ∈ s.pcr_targets pid origin) :
    ∃ filter, s.filters.get target.1 = some filter ∧ filter.open_kind = .Pcr := by
  obtain ⟨filter, hfilter, rfl⟩ := mem_map.mp h
  obtain ⟨hmem, hcond⟩ := mem_filter.mp hfilter
  obtain ⟨item, hitem, rfl⟩ := mem_map.mp hmem
  have hget := (OrdMap.get_eq_some _).mpr hitem
  simp only [Bool.and_eq_true, decide_eq_true_eq] at hcond
  refine ⟨item.2, ?_, hcond.1.1⟩
  rw [hsound.keyed hget]
  exact hget

theorem observe_pcr_clock_spares (hsound : s.Sound) (validated : ValidatedTsPacket)
    (origin : TsInputOrigin) (reasons : List PipelineAssemblySuppressionReason) :
    ∃ s', s.observe_pcr_clock env validated origin reasons = some s' ∧ s.Spares s' := by
  unfold observe_pcr_clock
  split
  · exact ⟨_, rfl, .of_filters rfl rfl⟩
  split
  · exact ⟨s, rfl, .refl s⟩
  split
  · exact ⟨s, rfl, .refl s⟩
  refine foldlM_returns (P := s.Spares) .refl .trans .trans (fun target hmem t ht => ?_) s (.refl s)
  obtain ⟨filter, hget, hkind⟩ := mem_pcr_targets hsound hmem
  obtain ⟨filter', hget', hfixed⟩ := ht.fades.get hget
  refine isolate_unless_spares env (ht.fades.sound hsound) hget' ?_ _
  rw [show filter'.open_kind = .Pcr from (congrArg (·.2.1) hfixed).trans hkind]
  decide

/-! ## Record DVRs -/

theorem mem_record_dvr_target_ids_for_filter {d : Int} :
    d ∈ s.record_dvr_target_ids_for_filter x ↔ ∃ dvr, s.dvrs.get d = some dvr ∧
      dvr.kind = .Record ∧ dvr.state = .Started ∧ dvr.record_filter_relation_state = .Healthy ∧
      x ∈ dvr.attached_record_filters := by
  simp only [record_dvr_target_ids_for_filter, mem_map, mem_filter, Prod.exists,
    Bool.and_eq_true, decide_eq_true_eq, contains_iff_mem, OrdMap.get_eq_some, and_assoc]
  constructor
  · rintro ⟨e, dvr, hitem, hkind, hstate, hhealthy, hattached, rfl⟩
    exact ⟨dvr, hitem, hkind, hstate, hhealthy, hattached⟩
  · rintro ⟨dvr, hitem, hkind, hstate, hhealthy, hattached⟩
    exact ⟨d, dvr, hitem, hkind, hstate, hhealthy, hattached, rfl⟩

theorem mark_dvr_failed_fades (s : DemuxRuntime κ ε) (d : Int) : s.Fades (s.mark_dvr_failed d) := by
  unfold mark_dvr_failed
  split
  · refine ⟨fun _ => rfl, id, fun _ => .inl rfl, fun {x e} he => ?_⟩
    obtain ⟨found, hfound, hkind, hstate, hrest⟩ := mem_record_dvr_target_ids_for_filter.mp he
    rcases OrdMap.get_of_insert hfound with ⟨-, rfl⟩ | hfound
    · cases hstate
    · exact mem_record_dvr_target_ids_for_filter.mpr ⟨found, hfound, hkind, hstate, hrest⟩
  · exact .refl s

theorem admit_filters_returns (ids : List Int) (s : DemuxRuntime κ ε) (hsound : s.Sound) :
    ∃ result, admit_filters env ids s = some result ∧ s.Fades result.2 := by
  induction ids generalizing s with
  | nil => exact ⟨_, rfl, .refl s⟩
  | cons x rest ih =>
    unfold admit_filters
    split
    · next parts _ =>
      obtain ⟨result, hresult, hfades⟩ := ih _ ((Fades.parts s parts).sound hsound)
      rw [hresult]
      exact ⟨_, rfl, (Fades.parts s parts).trans hfades⟩
    · next parts _ =>
      obtain ⟨t, hreturns, ht, -⟩ := quarantine_filter_runtime_returns env.toResources
        ((Fades.parts s parts).sound hsound) x
      rw [hreturns]
      have hst := (Fades.parts s parts).trans ht
      obtain ⟨result, hresult, hfades⟩ := ih t (hst.sound hsound)
      exact ⟨result, hresult, hst.trans hfades⟩
    · next parts _ =>
      obtain ⟨result, hresult, hfades⟩ := ih _ ((Fades.parts s parts).sound hsound)
      exact ⟨result, hresult, (Fades.parts s parts).trans hfades⟩

theorem commit_permits_returns (hsound : s.Sound) (ids : List Int) :
    ∃ s', s.commit_permits env ids = some s' ∧ s.Fades s' :=
  foldlM_returns (P := Sound) .refl .trans (fun h hfades => hfades.sound h)
    (fun x _ _ ht => isolate_unless_returns env ht _ x) s hsound

variable (validated : ValidatedTsPacket) (mirror : Mirror κ ε)

/-- The permits of a write: what is written stays. -/
theorem keep_permits_returns (hsound : mirror.demux.Sound) (ids : List Int) :
    ∃ mirror', keep_permits env mirror ids = some mirror' ∧
      mirror.demux.Fades mirror'.demux ∧ mirror'.written = mirror.written := by
  refine foldlM_returns
    (R := fun m m' : Mirror κ ε => m.demux.Fades m'.demux ∧ m'.written = m.written)
    (fun m => ⟨.refl _, rfl⟩) (fun h h' => ⟨h.1.trans h'.1, h'.2.trans h.2⟩)
    (fun h hgoes => hgoes.1.sound h) (fun x _ m hm => ?_) mirror hsound
  split
  · exact ⟨_, rfl, .refl _, rfl⟩
  obtain ⟨t, hreturns, hfades⟩ := isolate_unless_returns env hm (env.commit_permit · x) x
  rw [hreturns]
  exact ⟨_, rfl, hfades, rfl⟩

theorem wrote_fades (d : Int) (write : RecordWrite × Parts ε) :
    s.Fades (s.wrote mirror d write).demux ∧ ((s.wrote mirror d write).written = mirror.written ∨
      (s.wrote mirror d write).written = mirror.written ++ [d]) := by
  unfold wrote
  dsimp only
  refine ⟨?_, ?_⟩
  · split
    · exact (Fades.parts s write.2).trans (mark_dvr_failed_fades _ d)
    · exact .parts s _
  · split
    · exact .inr rfl
    · exact .inl rfl

theorem mirror_dvr_returns (hsound : mirror.demux.Sound) (d : Int) (ids : List Int) :
    ∃ mirror', mirror_dvr env validated mirror d ids = some mirror' ∧
      mirror.demux.Fades mirror'.demux ∧
      (mirror'.written = mirror.written ∨ mirror'.written = mirror.written ++ [d]) := by
  unfold mirror_dvr
  split
  · obtain ⟨⟨admitted, t⟩, hadmitted, hfades⟩ := admit_filters_returns env ids _ hsound
    rw [hadmitted]
    cases admitted with
    | nil => exact ⟨_, rfl, hfades, .inl rfl⟩
    | cons first more =>
      dsimp only
      generalize env.try_write_record_dvr_packet t.parts validated d = write
      obtain ⟨hwrite, hwritten⟩ := wrote_fades mirror d write
      have hst := hfades.trans hwrite
      obtain ⟨m', hm', hgoes, hsame⟩ := keep_permits_returns env (t.wrote mirror d write)
        (hst.sound hsound) (first :: more)
      split
      · exact ⟨m', hm', hst.trans hgoes, hsame ▸ hwritten⟩
      · exact ⟨m', hm', hst.trans hgoes, hsame ▸ hwritten⟩
      obtain ⟨u, hreturns, hu⟩ := commit_permits_returns env (hst.sound hsound) (first :: more)
      rw [hreturns]
      exact ⟨_, rfl, hst.trans hu, hwritten⟩
  · exact ⟨_, rfl, .refl _, .inl rfl⟩

theorem mirror_dvrs_return (items : List (Int × List Int)) (mirror : Mirror κ ε)
    (hsound : mirror.demux.Sound) :
    ∃ mirror', items.foldlM (fun mirror item => mirror_dvr env validated mirror item.1 item.2)
        mirror = some mirror' ∧ mirror.demux.Fades mirror'.demux ∧
      ∃ written, mirror'.written = mirror.written ++ written ∧
        written.Sublist (items.map Prod.fst) := by
  induction items generalizing mirror with
  | nil => exact ⟨mirror, rfl, .refl _, [], (append_nil _).symm, .slnil⟩
  | cons item rest ih =>
    obtain ⟨m, hm, hfades, hwritten⟩ := mirror_dvr_returns env validated mirror hsound item.1 item.2
    obtain ⟨m', hm', hfades', written, heq, hsub⟩ := ih m (hfades.sound hsound)
    rw [foldlM_cons, hm]
    refine ⟨m', hm', hfades.trans hfades', ?_⟩
    rcases hwritten with hsame | hone
    · exact ⟨written, hsame ▸ heq, hsub.cons _⟩
    · exact ⟨item.1 :: written, by rw [heq, hone, append_assoc]; rfl, hsub.cons_cons _⟩

/-- The record DVRs of some filters, with those of one filter more. -/
theorem get_union_of_targets {targets : List Int} {union : OrdMap Int (List Int)} {d : Int} :
    ((targets.foldl (fun union d => union.insert d ((union.get d).getD [] ++ [x])) union).get
      d).isSome ↔ (union.get d).isSome ∨ d ∈ targets := by
  induction targets generalizing union with
  | nil => simp
  | cons e rest ih =>
    rw [foldl_cons, ih, OrdMap.get_insert]
    split
    · next heq => simp [heq]
    · next hne => simp [hne]

/-- A record DVR gets the packet for the filters with a gate that are attached to it. -/
theorem dvr_filter_union_targets {matched : List Int} {d : Int} :
    ((s.dvr_filter_union env matched).get d).isSome ↔
      ∃ x ∈ matched, env.has_gate s.parts x = true ∧ d ∈ s.record_dvr_target_ids_for_filter x := by
  suffices hfold : ∀ union : OrdMap Int (List Int),
      ((matched.foldl (s.unite env) union).get d).isSome ↔
        (union.get d).isSome ∨ ∃ x ∈ matched, env.has_gate s.parts x = true ∧
          d ∈ s.record_dvr_target_ids_for_filter x by
    rw [dvr_filter_union, hfold]
    simp [OrdMap.get]
  induction matched with
  | nil => simp
  | cons x rest ih =>
    intro union
    rw [foldl_cons, ih, exists_mem_cons_iff, ← or_assoc, unite]
    split
    · next hgate => rw [get_union_of_targets, and_iff_right hgate]
    · next hgate => simp [hgate]

end tuner_hal2_demux.DemuxRuntime

namespace tuner_hal2_demux

theorem IdSet.mem_ids {set : IdSet} {x : Int} : x ∈ set.ids ↔ (set.get x).isSome := by
  simp only [IdSet.ids, mem_map, Prod.exists, exists_and_right, exists_eq_right,
    Option.isSome_iff_exists, OrdMap.get_eq_some]

theorem IdSet.mem_ids_of {ids : List Int} {x : Int} : x ∈ (IdSet.of ids).ids ↔ x ∈ ids := by
  suffices hfold : ∀ set : IdSet, ((ids.foldl (fun set id => set.insert id ()) set).get x).isSome ↔
      x ∈ ids ∨ (set.get x).isSome by
    rw [IdSet.mem_ids, IdSet.of, hfold]
    simp [OrdMap.get]
  induction ids with
  | nil => simp
  | cons y rest ih =>
    intro set
    rw [foldl_cons, ih, OrdMap.get_insert]
    split
    · next heq => simp [heq]
    · next hne => simp [hne]

end tuner_hal2_demux

namespace tuner_hal2_demux.DemuxRuntime

open packet_pipeline

variable {κ ε : Type} {s : DemuxRuntime κ ε} (env : Delivery ε)

theorem mem_matched {actions : List PipelineDeliveryAction} {x : Int} :
    x ∈ (IdSet.of (actions.filterMap mirror_filter)).ids ↔ .DvrMirror x ∈ actions := by
  rw [IdSet.mem_ids_of, mem_filterMap]
  constructor
  · rintro ⟨action, haction, hmatch⟩
    cases action <;> cases hmatch
    exact haction
  · exact fun h => ⟨_, h, rfl⟩

/-- The packet at the record DVRs: each gets it at most once, and for a filter that matched. -/
theorem mirror_record_dvr_packets.spec (hsound : s.Sound) (validated : ValidatedTsPacket)
    (actions : List PipelineDeliveryAction) (mode : RecordIndexCommitMode) :
    ∃ written s', s.mirror_record_dvr_packets env validated actions mode = some (written, s') ∧
      s.Fades s' ∧ written.Nodup ∧
      ∀ d ∈ written, ∃ x, .DvrMirror x ∈ actions ∧ d ∈ s.record_dvr_target_ids_for_filter x := by
  unfold mirror_record_dvr_packets
  dsimp only
  obtain ⟨mirror, hmirror, hfades, written, hwritten, hsub⟩ := mirror_dvrs_return env validated
    (s.dvr_filter_union env (IdSet.of (actions.filterMap mirror_filter)).ids).items { demux := s }
    hsound
  obtain ⟨s', hs', hfades'⟩ := foldlM_returns (P := Sound) .refl .trans
    (fun h hfades => hfades.sound h)
    (fun x _ t ht => isolate_unless_returns env ht
      (env.commit_record_output · validated mode x) x) mirror.demux (hfades.sound hsound)
  rw [nil_append] at hwritten
  refine ⟨written, s', ?_, hfades.trans hfades', ?_, fun d hd => ?_⟩
  · rw [hmirror]
    dsimp only
    rw [hs', Option.map_some, hwritten]
  · exact hsub.nodup (OrdMap.nodup_keys _)
  · obtain ⟨item, hitem, rfl⟩ := mem_map.mp (hsub.subset hd)
    have hget := (OrdMap.get_eq_some _).mpr hitem
    obtain ⟨x, hx, -, htarget⟩ :=
      (dvr_filter_union_targets env).mp (Option.isSome_of_eq_some hget)
    exact ⟨x, mem_matched.mp hx, htarget⟩

end tuner_hal2_demux.DemuxRuntime
