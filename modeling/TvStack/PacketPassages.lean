-- The way of one packet through the filters: it comes to an end, no source
-- filter is turned away by the guard, and no filter gets the packet twice.
import TvStack.ForwardingSteps

open Forests Isolation List Loops Relation Words

namespace tuner_hal2_demux

open packet_pipeline PacketPipeline

/-- The filter a packet comes from, if it comes from one. -/
def TsInputOrigin.filter_id : TsInputOrigin → Option Int
  | .SourceFilter source_filter_id _ => some source_filter_id
  | _ => none

/-- The source of the filters that take packets of the origin. -/
def TsInputOrigin.source : TsInputOrigin → FilterSource
  | .SourceFilter source_filter_id source_filter_generation =>
    .SourceFilter source_filter_id source_filter_generation
  | _ => .DemuxInput

theorem TsInputOrigin.source_filter_id (origin : TsInputOrigin) :
    origin.source.source_filter_id = origin.filter_id := by
  cases origin <;> rfl

/-! ## The filters that take a packet -/

/-- The filter is started, and takes packets of the PID from the source. -/
structure FilterRuntime.Takes {κ : Type} (filter : FilterRuntime κ) (pid : PacketPid)
    (source : FilterSource) : Prop where
  started : filter.state = .Started
  tpid : matches_config_tpid pid filter.tpid
  source_eq : filter.source = source

theorem FilterRuntime.accepts_iff {κ : Type} (filter : FilterRuntime κ) (pid : PacketPid)
    (origin : TsInputOrigin) :
    filter.pipeline_view.accepts_packet_pid_from_origin pid origin ↔
      filter.Takes pid origin.source := by
  refine Iff.trans ?_ (⟨fun h => ⟨h.1, h.2.1, h.2.2⟩, fun h => ⟨h.started, h.tpid, h.source_eq⟩⟩ :
    (filter.state = .Started ∧ matches_config_tpid pid filter.tpid ∧
      filter.source = origin.source) ↔ filter.Takes pid origin.source)
  unfold PipelineFilterView.accepts_packet_pid_from_origin
  split
  · next hno =>
    simp only [FilterRuntime.pipeline_view, Bool.or_eq_true, Bool.not_eq_true',
      decide_eq_false_iff_not] at hno
    simp only [Bool.false_eq_true, false_iff, not_and]
    intro hstarted hpid
    rcases hno with hno | hno
    · exact absurd hstarted hno
    · rw [hpid] at hno
      cases hno
  · next hyes =>
    simp only [FilterRuntime.pipeline_view, Bool.or_eq_true, Bool.not_eq_true',
      decide_eq_false_iff_not, not_or, not_not, Bool.not_eq_false] at hyes
    rw [← and_assoc, and_iff_right hyes,
      show filter.pipeline_view.source_filter = filter.source.source_filter from rfl]
    cases origin <;> cases filter.source <;>
      simp [FilterSource.source_filter, TsInputOrigin.source]

/-- The raw filters that a plan sends the packet to, in the order of the filters. -/
theorem raw_filters_of_plan (pid : PacketPid) (origin : TsInputOrigin)
    (filters : List PipelineFilterView) :
    (plan_packet_delivery pid origin filters).filterMap raw_filter =
      ((filters.filter (·.accepts_packet_pid_from_origin pid origin)).filter
        (·.open_kind = .Raw)).map (·.filter_id) := by
  unfold plan_packet_delivery
  induction filters.filter (·.accepts_packet_pid_from_origin pid origin) with
  | nil => rfl
  | cons filter rest ih =>
    rw [flatMap_cons, filterMap_append, ih]
    cases hkind : filter.open_kind <;> simp [packet_actions, hkind, raw_filter]

theorem mirrored_of_plan {pid : PacketPid} {origin : TsInputOrigin}
    {filters : List PipelineFilterView} {x : Int} :
    .DvrMirror x ∈ plan_packet_delivery pid origin filters ↔
      ∃ filter ∈ filters, filter.accepts_packet_pid_from_origin pid origin ∧
        filter.open_kind = .Record ∧ filter.filter_id = x := by
  simp only [plan_packet_delivery, mem_flatMap, mem_filter, and_assoc]
  refine exists_congr fun filter => and_congr_right fun _ => and_congr_right fun _ => ?_
  unfold packet_actions
  cases filter.open_kind with
  | Record =>
    have hno : PipelineDeliveryAction.DvrMirror x ∉
        (if filter.wants_record_index then [PipelineDeliveryAction.RecordPacket filter.filter_id]
          else []) := by
      split <;> simp
    rw [mem_cons, or_iff_left hno, PipelineDeliveryAction.DvrMirror.injEq, eq_comm]
    exact (and_iff_right rfl).symm
  | _ => simp

/-- Only the actions for packets matter to what goes on from a report. -/
theorem filterMap_raw_filter (actions : List PipelineDeliveryAction) :
    actions.filterMap raw_filter = (actions.filter isPacketAction).filterMap raw_filter := by
  rw [filterMap_filter]
  refine filterMap_congr fun action _ => ?_
  cases action <;> rfl

theorem mem_mirrored {actions : List PipelineDeliveryAction} {x : Int} :
    .DvrMirror x ∈ actions ↔ .DvrMirror x ∈ actions.filter isPacketAction := by
  rw [mem_filter]
  exact (and_iff_left rfl).symm

namespace DemuxRuntime

variable {κ ε : Type} {s s' : DemuxRuntime κ ε} {x : Int} {validated : ValidatedTsPacket}
  {origin : TsInputOrigin}

theorem mem_filter_views (hsound : s.Sound) {view : PipelineFilterView} :
    view ∈ s.filter_views ↔
      ∃ filter, s.filters.get view.filter_id = some filter ∧ filter.pipeline_view = view := by
  simp only [filter_views, OrdMap.values, mem_map]
  constructor
  · rintro ⟨filter, ⟨item, hitem, rfl⟩, rfl⟩
    have hget := (OrdMap.get_eq_some _).mpr hitem
    refine ⟨item.2, ?_, rfl⟩
    rw [show item.2.pipeline_view.filter_id = item.2.filter_id from rfl, hsound.keyed hget]
    exact hget
  · rintro ⟨filter, hget, hview⟩
    exact ⟨filter, ⟨_, (OrdMap.get_eq_some _).mp hget, rfl⟩, hview⟩

theorem mem_offers (hsound : s.Sound) :
    x ∈ s.offers validated origin ↔
      ∃ filter, s.filters.get x = some filter ∧ filter.Takes validated.pid origin.source := by
  simp only [offers, mem_map, mem_filter, mem_filter_views hsound]
  constructor
  · rintro ⟨view, ⟨⟨filter, hget, rfl⟩, haccepts⟩, rfl⟩
    exact ⟨filter, hget, (filter.accepts_iff _ _).mp haccepts⟩
  · rintro ⟨filter, hget, haccepts⟩
    have hid : filter.pipeline_view.filter_id = x := hsound.keyed hget
    exact ⟨filter.pipeline_view, ⟨⟨filter, hid ▸ hget, rfl⟩, (filter.accepts_iff _ _).mpr haccepts⟩,
      hid⟩

theorem nodup_filter_views (hsound : s.Sound) : (s.filter_views.map (·.filter_id)).Nodup := by
  have hkeys : s.filter_views.map (·.filter_id) = s.filters.items.map Prod.fst := by
    rw [filter_views, OrdMap.values, List.map_map, List.map_map]
    refine List.map_congr_left fun item hitem => ?_
    exact hsound.keyed ((OrdMap.get_eq_some _).mpr hitem)
  rw [hkeys]
  exact s.filters.nodup_keys

theorem nodup_offers (hsound : s.Sound) : (s.offers validated origin).Nodup :=
  (nodup_filter_views hsound).sublist (filter_sublist.map _)

/-- The filter gets packets of the PID when it comes to them: it is started and of that PID, and
so are the raw filters before it, up to one that reads from the demux input. -/
inductive Fed (s : DemuxRuntime κ ε) (pid : PacketPid) : Int → Prop
  | input {x : Int} {filter : FilterRuntime κ} : s.filters.get x = some filter →
      filter.Takes pid .DemuxInput → Fed s pid x
  | sink {x y : Int} {filter source : FilterRuntime κ} : s.filters.get x = some filter →
      filter.Takes pid (.SourceFilter y source.generation) → s.filters.get y = some source →
      source.open_kind = .Raw → Fed s pid y → Fed s pid x

/-- The origin of a packet: the demux input, or a raw filter that got the packet. -/
def Feeds (s : DemuxRuntime κ ε) (pid : PacketPid) : TsInputOrigin → Prop
  | .SourceFilter y generation => ∃ source, s.filters.get y = some source ∧
      source.generation = generation ∧ source.open_kind = .Raw ∧ s.Fed pid y
  | _ => True

/-- A filter that takes the packet from an origin that got it gets it. -/
theorem Feeds.fed {pid : PacketPid} (h : s.Feeds pid origin) {filter : FilterRuntime κ}
    (hget : s.filters.get x = some filter) (htakes : filter.Takes pid origin.source) :
    s.Fed pid x := by
  cases origin with
  | SourceFilter y generation =>
    obtain ⟨source, hy, rfl, hkind, hfed⟩ := h
    exact .sink hget htakes hy hkind hfed
  | Frontend | PlaybackDvr => exact .input hget htakes

/-- A record filter that is attached to a started record DVR. -/
def Records (s : DemuxRuntime κ ε) (x d : Int) : Prop :=
  (∃ filter, s.filters.get x = some filter ∧ filter.open_kind = .Record) ∧
    d ∈ s.record_dvr_target_ids_for_filter x

/-- What a visit says of the filters as they were before the packet: those that took it read from
its origin, and each record DVR has it once, for one of them. If the sources are `known` to be raw
filters, the filters that took it are those that get it. -/
structure Fits (s : DemuxRuntime κ ε) (pid : PacketPid) (known : Prop) (visit : Visit) : Prop where
  offered_nodup : visit.offered.Nodup
  offered : ∀ x ∈ visit.offered, s.parent x = visit.origin.filter_id ∧ (known → s.Fed pid x)
  written_nodup : visit.written.Nodup
  written : ∀ d ∈ visit.written, ∃ x ∈ visit.offered, s.Records x d

/-- The filters that take the packet from an origin that got it, from the state before the packet
to the state when it comes there. -/
theorem offered_before {s₀ : DemuxRuntime κ ε} (hsound : s₀.Sound) (hfades : s₀.Fades s)
    (hspares : s.Spares s') {known : Prop} (hraw : known → s₀.RawSources)
    (hfeeds : known → s₀.Feeds validated.pid origin ∧ ∀ y, origin.filter_id = some y → s.Started y)
    (hx : x ∈ s'.offers validated origin) :
    s₀.parent x = origin.filter_id ∧ (known → s₀.Fed validated.pid x) := by
  have hfades' := hfades.trans hspares.fades
  obtain ⟨filter, hget, htakes⟩ := (mem_offers (hfades'.sound hsound)).mp hx
  have hparent : s₀.parent x = origin.filter_id := by
    rw [← hfades'.parent, parent_eq hget, htakes.source_eq, origin.source_filter_id]
  refine ⟨hparent, fun hknown => ?_⟩
  obtain ⟨hfeed, hup⟩ := hfeeds hknown
  obtain ⟨before, hbefore, hfixed⟩ := hfades'.get_back hget
  have hstarted : before.state = .Started := by
    obtain ⟨found, hfound, hstate⟩ := hfades'.started ⟨filter, hget, htakes.started⟩
    cases hbefore.symm.trans hfound
    exact hstate
  have hpid : matches_config_tpid validated.pid before.tpid := by
    rw [← show filter.tpid = before.tpid from congrArg (·.2.2.2.1) hfixed]
    exact htakes.tpid
  refine hfeed.fed hbefore ⟨hstarted, hpid, ?_⟩
  rcases hfades'.source x with hsame | ⟨y, hy, hstop⟩
  · rw [hget, hbefore] at hsame
    exact (Option.some.inj hsame).symm.trans htakes.source_eq
  · -- its source is the origin, and that is still started
    refine absurd ?_ hstop
    rw [hparent] at hy
    cases origin with
    | SourceFilter z generation =>
      obtain rfl := Option.some.inj hy
      obtain ⟨source, hz, -, hkind, -⟩ := hfeed
      obtain ⟨source', hz', hfixed'⟩ := hfades.get hz
      exact hspares.spares (hfades.prunes.raw_sources (hraw hknown)) hz'
        ((congrArg (·.2.1) hfixed').trans hkind) (hup z rfl)
    | Frontend | PlaybackDvr => cases hy

/-! ## A packet at an origin -/

theorem receive.spec (s : DemuxRuntime κ ε) (validated : ValidatedTsPacket)
    (origin : TsInputOrigin) :
    PlansNothing (s.receive validated origin).1 ∧
      (s.receive validated origin).1.accepted_packets ≠ 0 ∧
      s.Spares (s.receive validated origin).2 :=
  ⟨accept_validated_ts_packet_plans_nothing origin validated s.parts.pipeline,
    Nat.succ_ne_zero _, .of_filters rfl rfl⟩

theorem assemble.spec {report : PipelineReport} (hnothing : PlansNothing report)
    (s : DemuxRuntime κ ε) (validated : ValidatedTsPacket) (origin : TsInputOrigin) :
    Plans s.filter_views origin validated.pid (s.assemble validated origin report).1 ∧
      s.Fades (s.assemble validated origin report).2 := by
  have hplans := plan_and_assemble_plans origin s.filter_views validated
    report.assembly_suppression_reasons s.parts.pipeline
  refine ⟨⟨?_, fun action hmem => ?_, fun diagnostic hmem id hid => ?_⟩, ?_⟩
  · exact (congrArg (List.filter isPacketAction) (congrArg (· ++ _) hnothing.actions)).trans
      hplans.packets
  · refine hplans.assembled action ?_
    rcases mem_append.mp hmem with hmem | hmem
    · rw [hnothing.actions] at hmem
      cases hmem
    · exact hmem
  · rcases mem_append.mp hmem with hmem | hmem
    · rw [hnothing.overflowed diagnostic hmem] at hid
      cases hid
    · exact hplans.overflowed diagnostic hmem id hid
  · exact (Fades.parts s _).trans (mark_filters_failed_for_generation_overflow_fades _ _)

variable (env : Delivery ε)

theorem deliver.spec (hsound : s.Sound) (validated : ValidatedTsPacket) (origin : TsInputOrigin)
    (report : PipelineReport) :
    ∃ written s', s.deliver env validated origin report = some (written, s') ∧ s.Fades s' ∧
      written.Nodup ∧ ∀ d ∈ written, ∃ x, .DvrMirror x ∈ report.delivery_actions ∧
        d ∈ s.record_dvr_target_ids_for_filter x := by
  obtain ⟨t, ht, hst⟩ := suffer_all_returns env hsound
    (env.deliver_av_payloads s.parts validated origin report)
  obtain ⟨written, u, hu, htu, hnodup, hwritten⟩ := mirror_record_dvr_packets.spec env
    (hst.sound hsound) validated report.delivery_actions (record_index_commit_mode report)
  obtain ⟨s', hs', hus⟩ := suffer_all_returns env ((hst.trans htu).sound hsound)
    (env.commit_generated_filter_events u.parts validated origin report)
  refine ⟨written, s', ?_, hst.trans (htu.trans hus), hnodup, fun d hd => ?_⟩
  · unfold deliver
    rw [ht, Option.bind_some, hu, Option.bind_some]
    rw [hs', Option.map_some]
  · obtain ⟨x, hx, hd⟩ := hwritten d hd
    exact ⟨x, hx, hst.targets hd⟩

/-- A packet at an origin: it is one visit more, and the raw filters that took it are the next
origins. -/
theorem serve.spec {s₀ : DemuxRuntime κ ε} (hsound : s₀.Sound) {passage : Passage κ ε}
    (hfades : s₀.Fades passage.demux) {known : Prop} (hraw : known → s₀.RawSources)
    (hfeeds : known → s₀.Feeds validated.pid origin ∧
      ∀ y, origin.filter_id = some y → passage.demux.Started y) :
    ∃ report demux visit, serve env validated origin passage =
        some (report, { passage with demux, visits := passage.visits ++ [visit] }) ∧
      passage.demux.Fades demux ∧ visit.origin = origin ∧ s₀.Fits validated.pid known visit ∧
      (report.delivery_actions.filterMap raw_filter).Nodup ∧
      ∀ x ∈ report.delivery_actions.filterMap raw_filter, x ∈ visit.offered ∧
        ∃ filter, s₀.filters.get x = some filter ∧ filter.open_kind = .Raw := by
  obtain ⟨hnothing, hcounts, hreceived⟩ := receive.spec passage.demux validated origin
  obtain ⟨t, ht, hpcr⟩ := observe_pcr_clock_spares env
    ((hfades.trans hreceived.fades).sound hsound) validated origin
    (passage.demux.receive validated origin).1.assembly_suppression_reasons
  have hspares := hreceived.trans hpcr
  have hst := hfades.trans hspares.fades
  have htsound := hst.sound hsound
  obtain ⟨hplans, hassembled⟩ := assemble.spec hnothing t validated origin
  generalize hA : t.assemble validated origin (passage.demux.receive validated origin).1 = assembled
    at hplans hassembled
  obtain ⟨written, u, hu, hdelivered, hnodup, hwritten⟩ :=
    deliver.spec env (hassembled.sound htsound) validated origin assembled.1
  have hraws : assembled.1.delivery_actions.filterMap raw_filter =
      ((t.filter_views.filter (·.accepts_packet_pid_from_origin validated.pid origin)).filter
        (·.open_kind = .Raw)).map (·.filter_id) := by
    rw [filterMap_raw_filter, hplans.packets, raw_filters_of_plan]
  refine ⟨assembled.1, u, ⟨origin, t.offers validated origin, written⟩, ?_,
    hspares.fades.trans (hassembled.trans hdelivered), rfl,
    ⟨nodup_offers htsound, fun x hx => offered_before hsound hfades hspares hraw hfeeds hx, hnodup,
      fun d hd => ?_⟩, ?_, fun x hx => ?_⟩
  · unfold serve
    dsimp only
    rw [ht, Option.bind_some, hA, hu]
    rfl
  · obtain ⟨x, hx, htarget⟩ := hwritten d hd
    rw [mem_mirrored, hplans.packets, mirrored_of_plan] at hx
    obtain ⟨view, hview, haccepts, hkind, rfl⟩ := hx
    obtain ⟨filter, hget, rfl⟩ := (mem_filter_views htsound).mp hview
    obtain ⟨before, hbefore, hfixed⟩ := hst.get_back hget
    refine ⟨_, mem_map.mpr ⟨_, mem_filter.mpr ⟨hview, haccepts⟩, rfl⟩,
      ⟨before, hbefore, (congrArg (·.2.1) hfixed).symm.trans hkind⟩,
      hst.targets (hassembled.targets htarget)⟩
  · rw [hraws]
    exact (nodup_filter_views htsound).sublist
      ((filter_sublist.trans filter_sublist).map _)
  · rw [hraws] at hx
    obtain ⟨view, hview, rfl⟩ := mem_map.mp hx
    obtain ⟨hview, hkind⟩ := mem_filter.mp hview
    refine ⟨mem_map.mpr ⟨view, hview, rfl⟩, ?_⟩
    obtain ⟨filter, hget, rfl⟩ := (mem_filter_views htsound).mp (mem_of_mem_filter hview)
    obtain ⟨before, hbefore, hfixed⟩ := hst.get_back hget
    exact ⟨before, hbefore, (congrArg (·.2.1) hfixed).symm.trans (of_decide_eq_true hkind)⟩

/-! ## The whole way -/

/-- At one of the filters or behind it. -/
def From (s : DemuxRuntime κ ε) (xs : List Int) (o : Option Int) : Prop :=
  ∃ z, o = some z ∧ ∃ x ∈ xs, Within s.parent z x

/-- The packet has gone on: `visits` are its new visits, each at another origin, and all `Where`
it can have come. -/
structure Walked (s₀ : DemuxRuntime κ ε) (pid : PacketPid) (known : Prop)
    (Where : Option Int → Prop) (passage passage' : Passage κ ε) (visits : List Visit) : Prop where
  fades : passage.demux.Fades passage'.demux
  refused : passage'.refused = passage.refused
  visits_eq : passage'.visits = passage.visits ++ visits
  nodup : (visits.map (·.origin.filter_id)).Nodup
  fits : ∀ visit ∈ visits, s₀.Fits pid known visit
  place : ∀ visit ∈ visits, Where visit.origin.filter_id
  propagated : ∀ z, (passage'.propagated_source_filters.get z).isSome →
    (passage.propagated_source_filters.get z).isSome ∨ Where (some z)

section
variable {s₀ : DemuxRuntime κ ε} {pid : PacketPid} {known : Prop} {passage passage' : Passage κ ε}
  {visits : List Visit} {o : Option Int} {xs : List Int}

theorem Walked.stay (passage : Passage κ ε) {Where : Option Int → Prop} :
    Walked s₀ pid known Where passage passage [] :=
  ⟨.refl _, rfl, (append_nil _).symm, nodup_nil, nofun, nofun, fun _ h => .inl h⟩

/-- First from some filters, then from others with the same source: no origin comes twice. -/
theorem Walked.append (hacyclic : Acyclic s₀.parent) {passage'' : Passage κ ε}
    {visits' : List Visit} (hx : s₀.parent x = o) (hxs : ∀ y ∈ xs, s₀.parent y = o)
    (hnew : x ∉ xs) (h : Walked s₀ pid known (s₀.From [x]) passage passage' visits)
    (h' : Walked s₀ pid known (s₀.From xs) passage' passage'' visits') :
    Walked s₀ pid known (s₀.From (x :: xs)) passage passage'' (visits ++ visits') where
  fades := h.fades.trans h'.fades
  refused := h'.refused.trans h.refused
  visits_eq := by rw [h'.visits_eq, h.visits_eq, append_assoc]
  nodup := by
    rw [map_append, nodup_append]
    refine ⟨h.nodup, h'.nodup, fun a ha b hb heq => ?_⟩
    obtain ⟨v, hv, rfl⟩ := mem_map.mp ha
    obtain ⟨w, hw, rfl⟩ := mem_map.mp hb
    obtain ⟨z, hz, first, hfirst, hin⟩ := h.place v hv
    obtain ⟨z', hz', second, hsecond, hin'⟩ := h'.place w hw
    obtain rfl := mem_singleton.mp hfirst
    obtain rfl := Option.some.inj (hz.symm.trans (heq.trans hz'))
    have hne : first ≠ second := fun heq => hnew (heq ▸ hsecond)
    have hsame : s₀.parent first = s₀.parent second := hx.trans (hxs second hsecond).symm
    exact hacyclic.nothing_shared hsame hne hin hin'
  fits visit hvisit := by
    rcases mem_append.mp hvisit with hvisit | hvisit
    · exact h.fits visit hvisit
    · exact h'.fits visit hvisit
  place visit hvisit := by
    rcases mem_append.mp hvisit with hvisit | hvisit
    · obtain ⟨z, hz, first, hfirst, hin⟩ := h.place visit hvisit
      exact ⟨z, hz, first, mem_singleton.mp hfirst ▸ mem_cons_self, hin⟩
    · obtain ⟨z, hz, second, hsecond, hin⟩ := h'.place visit hvisit
      exact ⟨z, hz, second, mem_cons_of_mem _ hsecond, hin⟩
  propagated z hz := by
    rcases h'.propagated z hz with hz | ⟨w, hw, second, hsecond, hin⟩
    · rcases h.propagated z hz with hz | ⟨w, hw, first, hfirst, hin⟩
      · exact .inl hz
      · exact .inr ⟨w, hw, first, mem_singleton.mp hfirst ▸ mem_cons_self, hin⟩
    · exact .inr ⟨w, hw, second, mem_cons_of_mem _ hsecond, hin⟩

variable (s₀ pid known) in
/-- The filters are as before the packet, up to wear, and the origin got the packet. -/
def Ready (passage : Passage κ ε) (origin : TsInputOrigin) : Prop :=
  s₀.Fades passage.demux ∧
    (known → s₀.Feeds pid origin ∧ ∀ y, origin.filter_id = some y → passage.demux.Started y)

variable (s₀ pid known) in
/-- The packet goes on from `x` through all that is behind it, if the guard knows nothing there. -/
def Pushes (push : TsInputOrigin → Passage κ ε → Option (PipelineReport × Passage κ ε)) (x : Int) :
    Prop :=
  ∀ generation passage, Ready s₀ pid known passage (.SourceFilter x generation) →
    (∀ z, (passage.propagated_source_filters.get z).isSome → ¬ Below s₀.parent z x) →
    ∃ report passage' visits,
      push (.SourceFilter x generation) passage = some (report, passage') ∧
        Walked s₀ pid known (s₀.From [x]) passage passage' visits

/-- A filter that the packet can go on from. -/
structure Next (s₀ : DemuxRuntime κ ε) (pid : PacketPid) (known : Prop) (o : Option Int) (x : Int) :
    Prop where
  parent : s₀.parent x = o
  raw : ∃ filter, s₀.filters.get x = some filter ∧ filter.open_kind = .Raw
  fed : known → s₀.Fed pid x

variable {push : TsInputOrigin → Passage κ ε → Option (PipelineReport × Passage κ ε)}

/-- The packet goes on from one filter, or stays: the guard does not know the filter. -/
theorem propagate.spec (hsound : s₀.Sound) (hpush : Pushes s₀ pid known push x)
    (hnext : s₀.Next pid known o x) (hfades : s₀.Fades passage.demux)
    (hclear : ∀ z, (passage.propagated_source_filters.get z).isSome → ¬ Within s₀.parent z x)
    (report : PipelineReport) :
    ∃ report' passage' visits, propagate push (report, passage) x = some (report', passage') ∧
      Walked s₀ pid known (s₀.From [x]) passage passage' visits := by
  unfold propagate
  dsimp only
  split
  · exact ⟨report, passage, [], rfl, .stay passage⟩
  next source hget =>
  split
  · next hgoes =>
    split
    · next hknown => exact absurd .refl (hclear x (Option.isSome_of_eq_some hknown))
    obtain ⟨before, hbefore, hfixed⟩ := hfades.get_back hget
    obtain ⟨found, hfound, hkind⟩ := hnext.raw
    cases hbefore.symm.trans hfound
    have hgeneration : before.generation = source.generation :=
      (congrArg (·.2.2.1) hfixed).symm
    obtain ⟨report', passage', visits, hreturns, hwalked⟩ := hpush source.generation
      { passage with
        propagated_source_filters := passage.propagated_source_filters.insert x () }
      ⟨hfades, fun hknown => ⟨⟨before, hbefore, hgeneration, hkind, hnext.fed hknown⟩,
        fun y hy => Option.some.inj hy ▸ ⟨source, hget, hgoes.1⟩⟩⟩
      (fun z hz hbelow => by
        rw [OrdMap.get_insert] at hz
        split at hz
        · next heq => exact hsound.acyclic x (heq ▸ hbelow)
        · exact hclear z hz hbelow.to_reflTransGen)
    rw [hreturns]
    refine ⟨_, passage', visits, rfl, { hwalked with propagated := fun z hz => ?_ }⟩
    rcases hwalked.propagated z hz with hz | hz
    · rw [OrdMap.get_insert] at hz
      split at hz
      · next heq => exact .inr ⟨z, rfl, x, mem_singleton_self x, heq ▸ .refl⟩
      · exact .inl hz
    · exact .inr hz
  · exact ⟨report, passage, [], rfl, .stay passage⟩

theorem propagate_all (hsound : s₀.Sound) (hpush : ∀ x ∈ xs, Pushes s₀ pid known push x)
    (hnodup : xs.Nodup) (hnext : ∀ x ∈ xs, s₀.Next pid known o x) (passage : Passage κ ε)
    (hfades : s₀.Fades passage.demux)
    (hclear : ∀ z, (passage.propagated_source_filters.get z).isSome →
      ∀ x ∈ xs, ¬ Within s₀.parent z x) (report : PipelineReport) :
    ∃ report' passage' visits,
      xs.foldlM (propagate push) (report, passage) = some (report', passage') ∧
        Walked s₀ pid known (s₀.From xs) passage passage' visits := by
  induction xs generalizing passage report with
  | nil => exact ⟨report, passage, [], rfl, .stay passage⟩
  | cons x rest ih =>
    obtain ⟨hx, hrest⟩ := nodup_cons.mp hnodup
    obtain ⟨report₁, passage₁, visits₁, hfirst, hwalked₁⟩ := propagate.spec hsound
      (hpush x mem_cons_self) (hnext x mem_cons_self) hfades
      (fun z hz => hclear z hz x mem_cons_self) report
    have hparents : ∀ y ∈ rest, s₀.parent y = o := fun y hy =>
      (hnext y (mem_cons_of_mem _ hy)).parent
    have hxparent := (hnext x mem_cons_self).parent
    obtain ⟨report₂, passage₂, visits₂, hthen, hwalked₂⟩ :=
      ih (fun y hy => hpush y (mem_cons_of_mem _ hy)) hrest
        (fun y hy => hnext y (mem_cons_of_mem _ hy)) passage₁ (hfades.trans hwalked₁.fades)
        (fun z hz y hy hin => by
          rcases hwalked₁.propagated z hz with hz | ⟨w, hw, first, hfirst, hin'⟩
          · exact hclear z hz y (mem_cons_of_mem _ hy) hin
          · obtain rfl := Option.some.inj hw
            obtain rfl := mem_singleton.mp hfirst
            have hne : first ≠ y := fun heq => hx (heq ▸ hy)
            exact hsound.acyclic.nothing_shared (hxparent.trans (hparents y hy).symm) hne hin' hin)
        report₁
    refine ⟨report₂, passage₂, visits₁ ++ visits₂, ?_,
      hwalked₁.append hsound.acyclic hxparent hparents hx hwalked₂⟩
    rw [foldlM_cons, hfirst]
    exact hthen

/-- At the origin, or at a filter that reads from it or behind one. -/
def Beyond (s : DemuxRuntime κ ε) (o o' : Option Int) : Prop :=
  o' = o ∨ ∃ z, o' = some z ∧ ∃ x, s.parent x = o ∧ Within s.parent z x

/-- Fuel for the packet at an origin. -/
def RoomAt (s : DemuxRuntime κ ε) (fuel : Nat) : Option Int → Prop
  | none => s.ids.length < fuel
  | some y => Room s.parent s.ids fuel y

theorem RoomAt.down (hacyclic : Acyclic s₀.parent) {fuel : Nat} (h : s₀.RoomAt (fuel + 1) o)
    (hparent : s₀.parent x = o) (hnode : x ∈ s₀.ids) : Room s₀.parent s₀.ids fuel x := by
  cases o with
  | none => exact .start_node hnode (Nat.lt_succ_iff.mp h)
  | some y => exact Room.down hacyclic h hparent hnode

/-- One visit more, before all others: its origin is none of theirs. -/
theorem Walked.cons (hacyclic : Acyclic s₀.parent) {visit : Visit} {demux : DemuxRuntime κ ε}
    (hxs : ∀ x ∈ xs, s₀.parent x = visit.origin.filter_id)
    (hfades : passage.demux.Fades demux) (hfits : s₀.Fits pid known visit)
    (h : Walked s₀ pid known (s₀.From xs)
      { passage with demux, visits := passage.visits ++ [visit] } passage' visits) :
    Walked s₀ pid known (s₀.Beyond visit.origin.filter_id) passage passage' (visit :: visits) where
  fades := hfades.trans h.fades
  refused := h.refused
  visits_eq := h.visits_eq.trans (append_assoc ..)
  nodup := by
    rw [map_cons, nodup_cons]
    refine ⟨fun hmem => ?_, h.nodup⟩
    obtain ⟨w, hw, heq⟩ := mem_map.mp hmem
    obtain ⟨z, hz, x, hx, hin⟩ := h.place w hw
    exact hacyclic.not_within (.single ((hxs x hx).trans (heq.symm.trans hz))) hin
  fits w hw := by
    rcases mem_cons.mp hw with rfl | hw
    · exact hfits
    · exact h.fits w hw
  place w hw := by
    rcases mem_cons.mp hw with rfl | hw
    · exact .inl rfl
    · obtain ⟨z, hz, x, hx, hin⟩ := h.place w hw
      exact .inr ⟨z, hz, x, hxs x hx, hin⟩
  propagated z hz := by
    rcases h.propagated z hz with hz | ⟨w, hw, x, hx, hin⟩
    · exact .inl hz
    · exact .inr (.inr ⟨w, hw, x, hxs x hx, hin⟩)

theorem Walked.mono {Where Where' : Option Int → Prop}
    (h : Walked s₀ pid known Where passage passage' visits) (hsub : ∀ o, Where o → Where' o) :
    Walked s₀ pid known Where' passage passage' visits :=
  { h with
    place := fun v hv => hsub _ (h.place v hv)
    propagated := fun z hz => (h.propagated z hz).imp id (hsub _) }

theorem from_of_beyond (h : s₀.Beyond (some x) o) : s₀.From [x] o := by
  rcases h with rfl | ⟨z, rfl, w, hw, hin⟩
  · exact ⟨x, rfl, x, mem_singleton_self x, .refl⟩
  · exact ⟨z, rfl, x, mem_singleton_self x, hin.tail hw⟩

/-- The packet comes to an end: each filter is an origin at most once, and the guard turns none
away. -/
theorem push_within.spec (hsound : s₀.Sound) (hraw : known → s₀.RawSources) (fuel : Nat)
    (origin : TsInputOrigin) (passage : Passage κ ε) (hroom : s₀.RoomAt fuel origin.filter_id)
    (hready : Ready s₀ validated.pid known passage origin)
    (hclear : ∀ z, (passage.propagated_source_filters.get z).isSome →
      ∀ x, s₀.parent x = origin.filter_id → ¬ Within s₀.parent z x) :
    ∃ report passage' visits, push_within env validated fuel origin passage =
        some (report, passage') ∧
      Walked s₀ validated.pid known (s₀.Beyond origin.filter_id) passage passage' visits := by
  induction fuel generalizing origin passage with
  | zero =>
    cases hid : origin.filter_id with
    | none =>
      rw [hid] at hroom
      exact absurd hroom (Nat.not_lt_zero _)
    | some y =>
      rw [hid] at hroom
      exact absurd hroom.fuel_pos (lt_irrefl 0)
  | succ fuel ih =>
    obtain ⟨hfades, hfeeds⟩ := hready
    obtain ⟨report, demux, visit, hserve, hdemux, horigin, hfits, hnodup, hraws⟩ :=
      serve.spec env hsound hfades hraw hfeeds
    subst horigin
    have hnext : ∀ x ∈ report.delivery_actions.filterMap raw_filter,
        s₀.Next validated.pid known visit.origin.filter_id x := by
      intro x hx
      obtain ⟨hoffered, hkind⟩ := hraws x hx
      exact ⟨(hfits.offered x hoffered).1, hkind, (hfits.offered x hoffered).2⟩
    have hpush : ∀ x ∈ report.delivery_actions.filterMap raw_filter,
        Pushes s₀ validated.pid known (push_within env validated fuel) x := by
      intro x hx generation passage₁ hready₁ hclear₁
      obtain ⟨filter, hget, -⟩ := (hnext x hx).raw
      obtain ⟨report', passage', visits, hreturns, hwalked⟩ := ih (.SourceFilter x generation)
        passage₁ (hroom.down hsound.acyclic (hnext x hx).parent (mem_ids.mpr ⟨filter, hget⟩))
        hready₁ fun z hz w hw hin => hclear₁ z hz (TransGen.tail' hin hw)
      exact ⟨report', passage', visits, hreturns, hwalked.mono fun _ => from_of_beyond⟩
    obtain ⟨report', passage', visits, hreturns, hwalked⟩ := propagate_all hsound hpush hnodup
      hnext { passage with demux, visits := passage.visits ++ [visit] }
      (hfades.trans hdemux)
      (fun z hz x hx => hclear z hz x (hnext x hx).parent) report
    refine ⟨report', passage', visit :: visits, ?_,
      .cons hsound.acyclic (fun x hx => (hnext x hx).parent) hdemux hfits hwalked⟩
    unfold push_within
    rw [hserve]
    exact hreturns

theorem Walked.offered_nodup {Where : Option Int → Prop}
    (h : Walked s₀ pid known Where passage passage' visits) :
    (visits.flatMap (·.offered)).Nodup := by
  refine nodup_flatMap.mpr ⟨fun v hv => (h.fits v hv).offered_nodup, ?_⟩
  refine (pairwise_map.mp h.nodup).imp_of_mem fun {v w} hv hw hne x hx hx' => hne ?_
  exact ((h.fits v hv).offered x hx).1.symm.trans ((h.fits w hw).offered x hx').1

theorem push_ingress (known : Prop) (hsound : s.Sound) (hraw : known → s.RawSources)
    (validated : ValidatedTsPacket) (origin : TsInputOrigin)
    (hfeeds : known → s.Feeds validated.pid origin ∧ ∀ y, origin.filter_id = some y → s.Started y) :
    ∃ report passage, push_within env validated (s.filters.size + 1) origin { demux := s } =
        some (report, passage) ∧
      Walked s validated.pid known (s.Beyond origin.filter_id) { demux := s } passage
        passage.visits := by
  have hfuel : s.ids.length < s.filters.size + 1 := by
    rw [length_ids]
    exact Nat.lt_succ_self _
  have hroom : s.RoomAt (s.filters.size + 1) origin.filter_id := by
    cases origin.filter_id with
    | none => exact hfuel
    | some y => exact .start hfuel
  obtain ⟨report, passage, visits, hreturns, hwalked⟩ := push_within.spec env hsound hraw
    (s.filters.size + 1) origin { demux := s } hroom ⟨.refl s, hfeeds⟩
    nofun
  have hvisits : passage.visits = visits := hwalked.visits_eq.trans (nil_append _)
  exact ⟨report, passage, hreturns, hvisits ▸ hwalked⟩

end

/-! ## Runs -/

end DemuxRuntime

inductive DemuxInput (κ : Type)
  | Call (call : DemuxCall κ)
  | Packet (validated : ValidatedTsPacket) (origin : TsInputOrigin)
  /-- Any change to the DVRs: they are opened and closed, started and stopped, and record filters
  attached to them. -/
  | Dvrs (dvrs : OrdMap Int DvrRuntime)

namespace DemuxRuntime

variable {κ ε : Type} (env : Delivery ε)

def new (generation : Nat) (parts : Parts ε) : DemuxRuntime κ ε where
  generation
  parts

theorem new_sound (generation : Nat) (parts : Parts ε) :
    (new generation parts : DemuxRuntime κ ε).Sound where
  keyed h := nomatch h
  acyclic _ hcycle := by
    obtain ⟨b, hedge, -⟩ := TransGen.head'_iff.mp hcycle
    cases hedge

variable [DecidableEq κ]

/-- One input. There is nothing after one that does not return. -/
def input (self : DemuxRuntime κ ε) : DemuxInput κ → Option (DemuxRuntime κ ε)
  | .Call c => (self.call env.toResources c).map Prod.snd
  | .Packet validated origin =>
    (self.push_validated_ts_packet_from_origin env validated origin).map (·.2.demux)
  | .Dvrs dvrs => some { self with dvrs }

/-- The runtime after a list of inputs. -/
def run (inputs : List (DemuxInput κ)) (self : DemuxRuntime κ ε) : Option (DemuxRuntime κ ε) :=
  inputs.foldlM (input env) self

theorem input_keeps {s : DemuxRuntime κ ε} (hsound : s.Sound) (i : DemuxInput κ) :
    ∃ s', s.input env i = some s' ∧ s'.Sound := by
  cases i with
  | Call c =>
    obtain ⟨out, hout, hkept, -⟩ := call_keeps env.toResources hsound c
    exact ⟨out.2, by rw [input, hout]; rfl, hkept⟩
  | Packet validated origin =>
    obtain ⟨report, passage, hreturns, hwalked⟩ :=
      push_ingress env False hsound (fun h => h.elim) validated origin fun h => h.elim
    refine ⟨passage.demux, ?_, hwalked.fades.sound hsound⟩
    rw [input, push_validated_ts_packet_from_origin, hreturns]
    rfl
  | Dvrs dvrs =>
    have hprunes : s.Prunes { s with dvrs } := .of_filters rfl
    exact ⟨_, rfl, hprunes.sound hsound⟩

theorem run_returns (inputs : List (DemuxInput κ)) {s : DemuxRuntime κ ε} (hsound : s.Sound) :
    ∃ s', run env inputs s = some s' ∧ s'.Sound := by
  obtain ⟨s', hrun, hkept⟩ := foldlM_returns (R := fun s t => s.Sound → t.Sound) (f := input env)
    (l := inputs) (fun _ h => h) (fun h h' hs => h' (h hs)) (fun hs h => h hs)
    (fun i _ s hs => (input_keeps env hs i).imp fun t ht => ⟨ht.1, fun _ => ht.2⟩) s hsound
  exact ⟨s', hrun, hkept hsound⟩

/-- Whatever is registered, connected, configured, flushed and removed, the sources of the filters
go in no circle. A packet goes on from at most as many filters, one behind the other, as there are;
the guard against a second round turns no filter away, and no filter gets the packet twice. -/
theorem sources_go_in_no_circle (generation : Nat) (parts : Parts ε)
    (inputs : List (DemuxInput κ)) :
    ∃ s, run env inputs (new generation parts) = some s ∧ Acyclic s.parent ∧
      ∀ validated origin, ∃ report passage,
        push_within env validated (s.filters.size + 1) origin { demux := s } =
          some (report, passage) ∧
        passage.refused = [] ∧ (passage.visits.flatMap (·.offered)).Nodup := by
  obtain ⟨s, hrun, hsound⟩ := run_returns env inputs (new_sound (κ := κ) generation parts)
  refine ⟨s, hrun, hsound.acyclic, fun validated origin => ?_⟩
  obtain ⟨report, passage, hreturns, hwalked⟩ :=
    push_ingress env False hsound (fun h => h.elim) validated origin fun h => h.elim
  exact ⟨report, passage, hreturns, hwalked.refused, hwalked.offered_nodup⟩

end DemuxRuntime

end tuner_hal2_demux
