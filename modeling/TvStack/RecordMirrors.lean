-- How often one packet is written to one record DVR. Each visit writes it at
-- most once, but the visits do not know of each other: record filters behind
-- different sources that share a record DVR each have the packet written, when
-- nothing goes wrong behind the filters.
import Mathlib.Data.List.Pairwise
import TvStack.ForwardingSteps
import TvStack.PacketPassages

open Words List

namespace tuner_hal2_demux

open packet_pipeline

variable {κ ε : Type}

/-- Where all is well behind the filters, the step has this outcome, and all stays well. -/
def Succeeds {α : Type} (Ok : ε → Prop) (step : Parts ε → α × Parts ε) (outcome : α) : Prop :=
  ∀ parts, Ok parts.rest → ∃ parts', step parts = (outcome, parts') ∧ Ok parts'.rest

/-- From the demux on, every step of a delivery to its filters and DVRs succeeds. -/
structure Delivery.Calm (env : Delivery ε) (s : DemuxRuntime κ ε) (Ok : ε → Prop) : Prop where
  ok : Ok s.parts.rest
  invalidate_pcr_clock_anchor : ∀ parts x, Ok parts.rest →
    Ok (env.invalidate_pcr_clock_anchor parts x).rest
  observe_pcr : ∀ pcr x generation, (s.filters.get x).isSome →
    Succeeds Ok (env.observe_pcr · pcr x generation) true
  deliver_av_payloads : ∀ validated origin report,
    Succeeds Ok (env.deliver_av_payloads · validated origin report) []
  has_gate : ∀ parts x, Ok parts.rest → (s.filters.get x).isSome → env.has_gate parts x = true
  can_reserve : ∀ parts d, Ok parts.rest → (s.dvrs.get d).isSome → env.can_reserve parts d = true
  begin_producer : ∀ x, (s.filters.get x).isSome → Succeeds Ok (env.begin_producer · x) .Admitted
  try_write_record_dvr_packet : ∀ validated d, (s.dvrs.get d).isSome →
    Succeeds Ok (env.try_write_record_dvr_packet · validated d) ⟨true, .ok .Written, false⟩
  commit_permit : ∀ x, (s.filters.get x).isSome → Succeeds Ok (env.commit_permit · x) true
  commit_record_output : ∀ validated mode x, (s.filters.get x).isSome →
    Succeeds Ok (env.commit_record_output · validated mode x) true
  commit_generated_filter_events : ∀ validated origin report,
    Succeeds Ok (env.commit_generated_filter_events · validated origin report) []

namespace DemuxRuntime

variable {s t t' t'' : DemuxRuntime κ ε} {x d : Int} {env : Delivery ε} {Ok : ε → Prop}
  {ids : List Int} {mirror : Mirror κ ε}

/-! ## Steps that change nothing but what is behind the filters -/

/-- The filters and DVRs stay as they are, and all stays well behind them. -/
def Rests (Ok : ε → Prop) (t t' : DemuxRuntime κ ε) : Prop :=
  ∃ parts, (Ok t.parts.rest → Ok parts.rest) ∧ t' = { t with parts }

theorem Rests.refl (t : DemuxRuntime κ ε) : t.Rests Ok t := ⟨t.parts, id, rfl⟩

theorem Rests.parts {parts : Parts ε} (h : Ok t.parts.rest → Ok parts.rest) :
    t.Rests Ok { t with parts } := ⟨parts, h, rfl⟩

theorem Rests.trans (h : t.Rests Ok t') (h' : t'.Rests Ok t'') : t.Rests Ok t'' := by
  obtain ⟨parts, hok, rfl⟩ := h
  obtain ⟨parts', hok', rfl⟩ := h'
  exact ⟨parts', hok' ∘ hok, rfl⟩

theorem Rests.ok (hok : Ok t.parts.rest) (h : t.Rests Ok t') : Ok t'.parts.rest := by
  obtain ⟨parts, hkept, rfl⟩ := h
  exact hkept hok

theorem isolate_unless_calm {step : Parts ε → Bool × Parts ε} (h : Succeeds Ok step true)
    (hok : Ok t.parts.rest) (x : Int) :
    ∃ t', t.isolate_unless env step x = some t' ∧ t.Rests Ok t' := by
  obtain ⟨parts, hyes, hkept⟩ := h t.parts hok
  rw [isolate_unless, hyes]
  exact ⟨_, rfl, .parts fun _ => hkept⟩

theorem foldlM_rests {α : Type} {f : DemuxRuntime κ ε → α → Option (DemuxRuntime κ ε)}
    {l : List α} (h : ∀ a ∈ l, ∀ t, Ok t.parts.rest → ∃ t', f t a = some t' ∧ t.Rests Ok t')
    (hok : Ok t.parts.rest) : ∃ t', l.foldlM f t = some t' ∧ t.Rests Ok t' :=
  Loops.foldlM_returns .refl .trans Rests.ok h t hok

theorem suffer_all_calm {mishaps : Parts ε → List Mishap × Parts ε} (h : Succeeds Ok mishaps [])
    (hok : Ok t.parts.rest) :
    ∃ t', t.suffer_all env (mishaps t.parts) = some t' ∧ t.Rests Ok t' := by
  obtain ⟨parts, hnone, hkept⟩ := h t.parts hok
  rw [hnone]
  exact ⟨_, rfl, .parts fun _ => hkept⟩

/-! ## What a calm packet leaves as it is -/

/-- A raw or record filter: packets go to it as they are. -/
def Carrier (filter : FilterRuntime κ) : Prop :=
  filter.open_kind = .Raw ∨ filter.open_kind = .Record

/-- Raw and record filters are as before, and so are the DVRs. No filter is new. -/
structure Carries (Ok : ε → Prop) (s t : DemuxRuntime κ ε) : Prop where
  filters : ∀ {x filter}, s.filters.get x = some filter → Carrier filter →
    t.filters.get x = some filter
  known : ∀ {x filter}, t.filters.get x = some filter → (s.filters.get x).isSome
  dvrs : t.dvrs = s.dvrs
  ok : Ok s.parts.rest → Ok t.parts.rest

theorem Carries.refl (t : DemuxRuntime κ ε) : t.Carries Ok t :=
  ⟨fun h _ => h, Option.isSome_of_eq_some, rfl, id⟩

theorem Carries.trans (h : s.Carries Ok t) (h' : t.Carries Ok t') : s.Carries Ok t' where
  filters hget hcarrier := h'.filters (h.filters hget hcarrier) hcarrier
  known hget := by
    obtain ⟨filter, hfilter⟩ := Option.isSome_iff_exists.mp (h'.known hget)
    exact h.known hfilter
  dvrs := h'.dvrs.trans h.dvrs
  ok := h'.ok ∘ h.ok

theorem Rests.carries (h : t.Rests Ok t') : t.Carries Ok t' := by
  obtain ⟨parts, hok, rfl⟩ := h
  exact ⟨fun hget _ => hget, Option.isSome_of_eq_some, rfl, hok⟩

theorem Rests.sound (h : t.Rests Ok t') (hsound : t.Sound) : t'.Sound := by
  obtain ⟨parts, -, rfl⟩ := h
  exact (Fades.parts t parts).sound hsound

section

variable (hcalm : env.Calm s Ok)
include hcalm

theorem observe_pcr_clock_calm (hsound : t.Sound) (hst : s.Carries Ok t)
    (validated : ValidatedTsPacket) (origin : TsInputOrigin)
    (reasons : List PipelineAssemblySuppressionReason) :
    ∃ t', t.observe_pcr_clock env validated origin reasons = some t' ∧ t.Rests Ok t' := by
  unfold observe_pcr_clock
  split
  · refine ⟨_, rfl, .parts ?_⟩
    exact fun hok => foldlRecOn (motive := fun parts : Parts ε => Ok parts.rest) _ _ hok
      fun parts hparts target _ => hcalm.invalidate_pcr_clock_anchor parts target.1 hparts
  split
  · exact ⟨t, rfl, .refl t⟩
  split
  · exact ⟨t, rfl, .refl t⟩
  · refine foldlM_rests (fun target hmem u hok => ?_) (hst.ok hcalm.ok)
    obtain ⟨filter, hget, -⟩ := mem_pcr_targets hsound hmem
    exact isolate_unless_calm (hcalm.observe_pcr _ _ target.2 (hst.known hget)) hok target.1

/-! ## Record DVRs -/

theorem admit_filters_calm (hids : ∀ x ∈ ids, (s.filters.get x).isSome) (hok : Ok t.parts.rest) :
    ∃ t', admit_filters env ids t = some (ids, t') ∧ t.Rests Ok t' := by
  induction ids generalizing t with
  | nil => exact ⟨t, rfl, .refl t⟩
  | cons x rest ih =>
    obtain ⟨parts, hadmitted, hkept⟩ := hcalm.begin_producer x (hids x mem_cons_self) t.parts hok
    obtain ⟨t', hreturns, hrests⟩ :=
      ih (t := { t with parts }) (fun y hy => hids y (mem_cons_of_mem _ hy)) hkept
    dsimp only at hadmitted
    rw [admit_filters, hadmitted]
    dsimp only
    rw [hreturns]
    exact ⟨t', rfl, (Rests.parts fun _ => hkept).trans hrests⟩

end

/-- A mirror goes on: the packet is written to these record DVRs, and permits of filters of the
demux wait. -/
structure Mirrored (Ok : ε → Prop) (s : DemuxRuntime κ ε) (ds : List Int)
    (mirror mirror' : Mirror κ ε) : Prop where
  rests : mirror.demux.Rests Ok mirror'.demux
  written : mirror'.written = mirror.written ++ ds
  waits : ∀ x, (mirror'.committed_permits.get x).isSome →
    (mirror.committed_permits.get x).isSome ∨ (s.filters.get x).isSome

theorem Mirrored.refl (mirror : Mirror κ ε) : Mirrored Ok s [] mirror mirror :=
  ⟨.refl _, (append_nil _).symm, fun _ => .inl⟩

theorem Mirrored.trans {ds es : List Int} {mirror' mirror'' : Mirror κ ε}
    (h : Mirrored Ok s ds mirror mirror') (h' : Mirrored Ok s es mirror' mirror'') :
    Mirrored Ok s (ds ++ es) mirror mirror'' where
  rests := h.rests.trans h'.rests
  written := by rw [h'.written, h.written, append_assoc]
  waits x hx := by
    rcases h'.waits x hx with hx | hx
    · exact h.waits x hx
    · exact .inr hx

section

variable (hcalm : env.Calm s Ok)
include hcalm

theorem keep_permits_calm (hids : ∀ x ∈ ids, (s.filters.get x).isSome)
    (hok : Ok mirror.demux.parts.rest) :
    ∃ mirror', keep_permits env mirror ids = some mirror' ∧ Mirrored Ok s [] mirror mirror' := by
  refine Loops.foldlM_returns (P := fun m : Mirror κ ε => Ok m.demux.parts.rest) .refl .trans
    (fun hok h => h.rests.ok hok) (fun x hx m hok => ?_) mirror hok
  split
  · refine ⟨_, rfl, .refl _, (append_nil _).symm, fun y hy => ?_⟩
    rw [OrdMap.get_insert] at hy
    split at hy
    · next heq => exact .inr (heq ▸ hids x hx)
    · exact .inl hy
  · obtain ⟨t, hreturns, hrests⟩ := isolate_unless_calm (hcalm.commit_permit x (hids x hx)) hok x
    rw [hreturns]
    exact ⟨_, rfl, hrests, (append_nil _).symm, fun _ => .inl⟩

/-- A record DVR with a filter to record for gets the packet. -/
theorem mirror_dvr_calm (validated : ValidatedTsPacket) (hd : (s.dvrs.get d).isSome)
    (hne : ids ≠ []) (hids : ∀ x ∈ ids, (s.filters.get x).isSome)
    (hok : Ok mirror.demux.parts.rest) :
    ∃ mirror', mirror_dvr env validated mirror d ids = some mirror' ∧
      Mirrored Ok s [d] mirror mirror' := by
  obtain ⟨t, hadmitted, hrests⟩ := admit_filters_calm hcalm hids hok
  obtain ⟨parts, hwrite, hkept⟩ :=
    hcalm.try_write_record_dvr_packet validated d hd t.parts (hrests.ok hok)
  dsimp only at hwrite
  rw [mirror_dvr, if_pos (hcalm.can_reserve _ d hok hd), hadmitted]
  cases ids with
  | nil => exact absurd rfl hne
  | cons first more =>
    dsimp only
    rw [hwrite]
    have hwrote :
        Mirrored Ok s [d] mirror (t.wrote mirror d (⟨true, .ok .Written, false⟩, parts)) :=
      ⟨hrests.trans (.parts fun _ => hkept), rfl, fun _ => .inl⟩
    obtain ⟨m', hreturns, hmirrored⟩ := keep_permits_calm hcalm hids (hwrote.rests.ok hok)
    exact ⟨m', hreturns, hwrote.trans hmirrored⟩

theorem mirror_dvrs_calm (mirror : Mirror κ ε) (validated : ValidatedTsPacket)
    {items : List (Int × List Int)}
    (hitems : ∀ item ∈ items, (s.dvrs.get item.1).isSome ∧ item.2 ≠ [] ∧
      ∀ x ∈ item.2, (s.filters.get x).isSome) (hok : Ok mirror.demux.parts.rest) :
    ∃ mirror', items.foldlM (fun mirror item => mirror_dvr env validated mirror item.1 item.2)
        mirror = some mirror' ∧ Mirrored Ok s (items.map Prod.fst) mirror mirror' := by
  induction items generalizing mirror with
  | nil => exact ⟨mirror, rfl, .refl _⟩
  | cons item rest ih =>
    obtain ⟨hd, hne, hids⟩ := hitems item mem_cons_self
    obtain ⟨m, hm, hfirst⟩ := mirror_dvr_calm hcalm validated hd hne hids hok
    obtain ⟨m', hm', hrest⟩ :=
      ih m (fun i hi => hitems i (mem_cons_of_mem _ hi)) (hfirst.rests.ok hok)
    rw [foldlM_cons, hm]
    exact ⟨m', hm', hfirst.trans hrest⟩

end

/-- Each record DVR of the union gets the packet for filters that matched. -/
def Serves (matched : List Int) (union : OrdMap Int (List Int)) : Prop :=
  ∀ d ids, union.get d = some ids → ids ≠ [] ∧ ids ⊆ matched

theorem Serves.unite {matched : List Int} {union : OrdMap Int (List Int)} (h : Serves matched union)
    (hx : x ∈ matched) : Serves matched (t.unite env union x) := by
  unfold DemuxRuntime.unite
  split
  · refine foldlRecOn _ _ h fun union h e _ d ids hget => ?_
    rcases OrdMap.get_of_insert hget with ⟨-, rfl⟩ | hget
    · refine ⟨by simp, append_subset.mpr ⟨?_, by simpa using hx⟩⟩
      cases hold : union.get e with
      | none => exact nil_subset _
      | some old => exact (h e old hold).2
    · exact h d ids hget
  · exact h

theorem dvr_filter_union_serves (matched : List Int) :
    Serves matched (t.dvr_filter_union env matched) :=
  foldlRecOn _ _ (fun _ _ h => by simp [OrdMap.get] at h) fun _ h _ hx => h.unite hx

section

variable (hcalm : env.Calm s Ok) (hst : s.Carries Ok t)
include hcalm hst

/-- The packet goes to every record DVR that a matching filter is attached to. -/
theorem mirror_record_dvr_packets_calm (validated : ValidatedTsPacket)
    {actions : List PipelineDeliveryAction}
    (hactions : ∀ x, .DvrMirror x ∈ actions → (s.filters.get x).isSome)
    (mode : RecordIndexCommitMode) :
    ∃ written t', t.mirror_record_dvr_packets env validated actions mode = some (written, t') ∧
      t.Rests Ok t' ∧ ∀ x, .DvrMirror x ∈ actions →
        ∀ d ∈ t.record_dvr_target_ids_for_filter x, d ∈ written := by
  unfold mirror_record_dvr_packets
  dsimp only
  generalize hunion :
    t.dvr_filter_union env (IdSet.of (actions.filterMap mirror_filter)).ids = union
  have hserves : Serves _ union := hunion ▸ dvr_filter_union_serves _
  have htargets (d : Int) : (union.get d).isSome ↔ _ := hunion ▸ dvr_filter_union_targets env
  have hitems : ∀ item ∈ union.items, (s.dvrs.get item.1).isSome ∧ item.2 ≠ [] ∧
      ∀ x ∈ item.2, (s.filters.get x).isSome := by
    intro item hitem
    have hget := (OrdMap.get_eq_some _).mpr hitem
    obtain ⟨hne, hsub⟩ := hserves _ _ hget
    obtain ⟨x, -, -, htarget⟩ := (htargets _).mp (Option.isSome_of_eq_some hget)
    obtain ⟨dvr, hdvr, -⟩ := mem_record_dvr_target_ids_for_filter.mp htarget
    exact ⟨hst.dvrs ▸ Option.isSome_of_eq_some hdvr, hne,
      fun x hx => hactions x (mem_matched.mp (hsub hx))⟩
  have hok := hst.ok hcalm.ok
  obtain ⟨mirror, hmirror, hmirrored⟩ :=
    mirror_dvrs_calm hcalm { demux := t } validated hitems hok
  obtain ⟨t', ht', hrests⟩ := foldlM_rests (f := fun u x => u.isolate_unless env
      (env.commit_record_output · validated mode x) x) (l := mirror.committed_permits.ids)
    (fun x hx u hu => by
      rcases hmirrored.waits x (IdSet.mem_ids.mp hx) with hnone | hknown
      · simp [OrdMap.get] at hnone
      · exact isolate_unless_calm (hcalm.commit_record_output validated mode x hknown) hu x)
    (hmirrored.rests.ok hok)
  rw [hmirror]
  dsimp only
  rw [ht']
  refine ⟨_, t', rfl, hmirrored.rests.trans hrests, fun x hx d hd => ?_⟩
  obtain ⟨ids, hids⟩ := Option.isSome_iff_exists.mp ((htargets d).mpr
    ⟨x, mem_matched.mpr hx, hcalm.has_gate _ x hok (hactions x hx), hd⟩)
  rw [hmirrored.written]
  exact mem_map.mpr ⟨(d, ids), (OrdMap.get_eq_some _).mp hids, rfl⟩

theorem deliver_calm (validated : ValidatedTsPacket) (origin : TsInputOrigin)
    (report : PipelineReport)
    (hactions : ∀ x, .DvrMirror x ∈ report.delivery_actions → (s.filters.get x).isSome) :
    ∃ written t', t.deliver env validated origin report = some (written, t') ∧ t.Rests Ok t' ∧
      ∀ x, .DvrMirror x ∈ report.delivery_actions →
        ∀ d ∈ t.record_dvr_target_ids_for_filter x, d ∈ written := by
  obtain ⟨t₁, hav, hrests₁⟩ :=
    suffer_all_calm (hcalm.deliver_av_payloads validated origin report) (hst.ok hcalm.ok)
  have hst₁ := hst.trans hrests₁.carries
  obtain ⟨written, t₂, hmirror, hrests₂, hwritten⟩ := mirror_record_dvr_packets_calm hcalm hst₁
    validated hactions (record_index_commit_mode report)
  obtain ⟨t₃, hevents, hrests₃⟩ :=
    suffer_all_calm (hcalm.commit_generated_filter_events validated origin report)
      ((hst₁.trans hrests₂.carries).ok hcalm.ok)
  refine ⟨written, t₃, ?_, (hrests₁.trans hrests₂).trans hrests₃, fun x hx d hd => ?_⟩
  · rw [deliver, hav, Option.bind_some, hmirror, Option.bind_some, hevents, Option.map_some]
  · obtain ⟨parts, -, rfl⟩ := hrests₁
    exact hwritten x hx d hd

end

end DemuxRuntime

open Forests Loops

namespace DemuxRuntime

variable {s s' s'' : DemuxRuntime κ ε} {x y d : Int} {validated : ValidatedTsPacket}
  {origin : TsInputOrigin} {pid : PacketPid} {passage passage' passage'' : Passage κ ε}
  {Ok : ε → Prop}

/-! ## A calm packet at one origin -/

theorem mark_filter_failed_carries
    (h : ∀ filter, s.filters.get x = some filter → ¬ Carrier filter) :
    s.Carries Ok (s.mark_filter_failed x) := by
  unfold mark_filter_failed
  split
  · next found hfound =>
    refine ⟨fun {y filter} hget hcarrier => ?_, fun hget => ?_, rfl, id⟩
    · have hne : y ≠ x := by
        rintro rfl
        exact h filter hget hcarrier
      rw [OrdMap.get_insert, if_neg hne]
      exact hget
    · rcases OrdMap.get_of_insert hget with ⟨rfl, -⟩ | hget
      · exact Option.isSome_of_eq_some hfound
      · exact Option.isSome_of_eq_some hget
  · exact .refl s

/-- Only filters with an assembly fail by its generation. -/
theorem mark_filters_failed_carries (hsound : s.Sound) {diagnostics : List PipelineDiagnostic}
    (h : ∀ diagnostic ∈ diagnostics, ∀ id ∈ overflowed diagnostic, Assembles s.filter_views id) :
    s.Carries Ok (s.mark_filters_failed_for_generation_overflow diagnostics) := by
  have hids : ∀ id ∈ diagnostics.flatMap overflowed, ∃ filter, s.filters.get id = some filter ∧
      ¬ Carrier filter := by
    intro id hid
    obtain ⟨diagnostic, hmem, hid⟩ := mem_flatMap.mp hid
    obtain ⟨view, hview, rfl, hkind⟩ := h diagnostic hmem id hid
    obtain ⟨filter, hget, rfl⟩ := (mem_filter_views hsound).mp hview
    refine ⟨filter, hget, fun hcarrier => ?_⟩
    have hkind' : filter.open_kind = .Section ∨ filter.open_kind = .Pes ∨
      filter.open_kind = .Av := hkind
    rcases hcarrier with hk | hk <;> simp [hk] at hkind'
  unfold mark_filters_failed_for_generation_overflow
  generalize diagnostics.flatMap overflowed = ids at hids
  clear h hsound
  induction ids generalizing s with
  | nil => exact .refl s
  | cons id rest ih =>
    obtain ⟨filter, hget, hno⟩ := hids id mem_cons_self
    have hfirst : s.Carries Ok (s.mark_filter_failed id) :=
      mark_filter_failed_carries fun found hfound => Option.some.inj (hget.symm.trans hfound) ▸ hno
    refine hfirst.trans (ih fun id' hid' => ?_)
    obtain ⟨filter', hget', hno'⟩ := hids id' (mem_cons_of_mem _ hid')
    obtain ⟨after, hafter, hfixed⟩ := (mark_filter_failed_fades s id).get hget'
    refine ⟨after, hafter, fun hcarrier => hno' ?_⟩
    rwa [Carrier, show after.open_kind = filter'.open_kind from congrArg (·.2.1) hfixed] at hcarrier

theorem assemble_carries (hsound : s.Sound) {report : PipelineReport}
    (hplans : Plans s.filter_views origin validated.pid (s.assemble validated origin report).1) :
    s.Carries Ok (s.assemble validated origin report).2 := by
  have hparts : s.Rests Ok { s with parts := { s.parts with
    pipeline := ((PacketPipeline.plan_and_assemble_ts_packet_report_after_preflight origin
      s.filter_views validated report.assembly_suppression_reasons).run s.parts.pipeline).2 } } :=
    .parts id
  exact hparts.carries.trans (mark_filters_failed_carries (hparts.sound hsound) hplans.overflowed)

/-- A carrier that takes the packet is planned for. -/
theorem Carries.planned (h : s.Carries Ok s') (hsound : s'.Sound) {filter : FilterRuntime κ}
    (hget : s.filters.get x = some filter) (htakes : filter.Takes pid origin.source)
    (hcarrier : Carrier filter) :
    filter.pipeline_view ∈ s'.filter_views ∧
      filter.pipeline_view.accepts_packet_pid_from_origin pid origin ∧
      filter.pipeline_view.filter_id = x := by
  have hget' := h.filters hget hcarrier
  have hid : filter.pipeline_view.filter_id = x := hsound.keyed hget'
  exact ⟨(mem_filter_views hsound).mpr ⟨filter, hid ▸ hget', rfl⟩,
    (filter.accepts_iff _ _).mpr htakes, hid⟩

variable {env : Delivery ε}

/-- A packet at an origin: it goes on from each raw filter that takes it there, and is written to
the record DVRs of each record filter that does. -/
theorem serve_calm (hcalm : env.Calm s Ok) (hsound : passage.demux.Sound)
    (hcarries : s.Carries Ok passage.demux) (validated : ValidatedTsPacket)
    (origin : TsInputOrigin) :
    ∃ report demux visit, serve env validated origin passage =
        some (report, { passage with demux, visits := passage.visits ++ [visit] }) ∧
      demux.Sound ∧ s.Carries Ok demux ∧ visit.origin = origin ∧
      (∀ x filter, s.filters.get x = some filter → filter.Takes validated.pid origin.source →
        filter.open_kind = .Raw → x ∈ report.delivery_actions.filterMap raw_filter) ∧
      ∀ x filter, s.filters.get x = some filter → filter.Takes validated.pid origin.source →
        filter.open_kind = .Record → ∀ d ∈ s.record_dvr_target_ids_for_filter x,
          d ∈ visit.written := by
  obtain ⟨hnothing, hcounts, -⟩ := receive.spec passage.demux validated origin
  have hreceived : passage.demux.Rests Ok (passage.demux.receive validated origin).2 := .parts id
  obtain ⟨t, ht, hpcr⟩ := observe_pcr_clock_calm hcalm (hreceived.sound hsound)
    (hcarries.trans hreceived.carries) validated origin
    (passage.demux.receive validated origin).1.assembly_suppression_reasons
  have hst := hreceived.trans hpcr
  have htsound := hst.sound hsound
  have htcarries := hcarries.trans hst.carries
  obtain ⟨hplans, hfades⟩ := assemble.spec hnothing t validated origin
  have hassembled := htcarries.trans (assemble_carries htsound hplans)
  generalize hA : t.assemble validated origin (passage.demux.receive validated origin).1 = assembled
    at hplans hfades hassembled
  obtain ⟨written, u, hu, hdelivered, hwritten⟩ :=
    deliver_calm hcalm hassembled validated origin assembled.1 fun x hx => by
      rw [mem_mirrored, hplans.packets, mirrored_of_plan] at hx
      obtain ⟨view, hview, -, -, rfl⟩ := hx
      obtain ⟨filter, hget, -⟩ := (mem_filter_views htsound).mp hview
      exact htcarries.known hget
  refine ⟨assembled.1, u, ⟨origin, t.offers validated origin, written⟩, ?_,
    hdelivered.sound (hfades.sound htsound), hassembled.trans hdelivered.carries, rfl,
    fun x filter hget htakes hkind => ?_, fun x filter hget htakes hkind d hd => ?_⟩
  · unfold serve
    dsimp only
    rw [ht, Option.bind_some, hA, hu]
    rfl
  · obtain ⟨hview, haccepts, hid⟩ := htcarries.planned htsound hget htakes (.inl hkind)
    rw [filterMap_raw_filter, hplans.packets, raw_filters_of_plan]
    exact mem_map.mpr ⟨_, mem_filter.mpr ⟨mem_filter.mpr ⟨hview, haccepts⟩,
      decide_eq_true hkind⟩, hid⟩
  · obtain ⟨hview, haccepts, hid⟩ := htcarries.planned htsound hget htakes (.inr hkind)
    refine hwritten x ?_ d ?_
    · rw [mem_mirrored, hplans.packets, mirrored_of_plan]
      exact ⟨_, hview, haccepts, hkind, hid⟩
    · rwa [targets_of_dvrs hassembled.dvrs]

/-! ## Where a calm packet comes -/

/-- A record filter that takes the packet from the origin, or from raw filters behind it. -/
inductive Reached (s : DemuxRuntime κ ε) (pid : PacketPid) : TsInputOrigin → Int → Prop
  | here {origin : TsInputOrigin} {x : Int} {filter : FilterRuntime κ} :
      s.filters.get x = some filter → filter.Takes pid origin.source → filter.open_kind = .Record →
      Reached s pid origin x
  | there {origin : TsInputOrigin} {x y : Int} {source : FilterRuntime κ} :
      s.filters.get y = some source → source.Takes pid origin.source → source.open_kind = .Raw →
      Reached s pid (.SourceFilter y source.generation) x → Reached s pid origin x

/-- What is behind a raw filter that gets packets of the demux input is reached from there. -/
theorem Fed.reached (h : s.Fed pid y) (horigin : origin.source = .DemuxInput)
    {source : FilterRuntime κ} (hget : s.filters.get y = some source)
    (hkind : source.open_kind = .Raw) (hx : s.Reached pid (.SourceFilter y source.generation) x) :
    s.Reached pid origin x := by
  induction h generalizing source with
  | input hfound htakes =>
    cases hget.symm.trans hfound
    exact .there hget (horigin ▸ htakes) hkind hx
  | sink hfound htakes hbefore hraw _ ih =>
    cases hget.symm.trans hfound
    exact ih hbefore hraw (.there hget htakes hkind hx)

/-- A record filter that gets packets of the demux input is reached from there. -/
theorem Fed.reached_record (h : s.Fed pid x) (horigin : origin.source = .DemuxInput)
    {filter : FilterRuntime κ} (hget : s.filters.get x = some filter)
    (hkind : filter.open_kind = .Record) : s.Reached pid origin x := by
  cases h with
  | input hfound htakes =>
    cases hget.symm.trans hfound
    exact .here hget (horigin ▸ htakes) hkind
  | sink hfound htakes hbefore hraw hfed =>
    cases hget.symm.trans hfound
    exact hfed.reached horigin hbefore hraw (.here hget htakes hkind)

/-- A visit at the source of the filter wrote the packet to its record DVRs. -/
def Covered (s : DemuxRuntime κ ε) (visits : List Visit) (x : Int) : Prop :=
  ∃ visit ∈ visits, visit.origin.filter_id = s.parent x ∧
    ∀ d ∈ s.record_dvr_target_ids_for_filter x, d ∈ visit.written

/-- The packet has gone on, and if the guard turned nothing away, all filters of the goal are
covered. -/
structure Brings (Ok : ε → Prop) (s : DemuxRuntime κ ε) (Goal : Int → Prop)
    (passage passage' : Passage κ ε) : Prop where
  sound : passage'.demux.Sound
  carries : s.Carries Ok passage'.demux
  visits : passage.visits ⊆ passage'.visits
  refused : passage'.refused = [] → passage.refused = []
  covers : passage'.refused = [] → ∀ x, Goal x → s.Covered passage'.visits x

theorem Brings.trans {Goal Goal' Both : Int → Prop} (h : s.Brings Ok Goal passage passage')
    (h' : s.Brings Ok Goal' passage' passage'') (hboth : ∀ x, Both x → Goal x ∨ Goal' x) :
    s.Brings Ok Both passage passage'' where
  sound := h'.sound
  carries := h'.carries
  visits := List.Subset.trans h.visits h'.visits
  refused hnone := h.refused (h'.refused hnone)
  covers hnone x hx := by
    rcases hboth x hx with hx | hx
    · obtain ⟨visit, hvisit, hrest⟩ := h.covers (h'.refused hnone) x hx
      exact ⟨visit, h'.visits hvisit, hrest⟩
    · exact h'.covers hnone x hx

/-- What is reached behind a raw filter that took the packet. -/
def Behind (s : DemuxRuntime κ ε) (pid : PacketPid) (y x : Int) : Prop :=
  ∃ source, s.filters.get y = some source ∧ source.open_kind = .Raw ∧ source.state = .Started ∧
    s.Reached pid (.SourceFilter y source.generation) x

/-- Something is reached behind a filter only if a started filter reads from it. -/
theorem Reached.has_started_downstream {generation : Nat}
    (h : s.Reached pid (.SourceFilter y generation) x) (hcarries : s.Carries Ok s') :
    s'.has_started_downstream y generation = true := by
  obtain ⟨z, filter, hget, htakes, hcarrier⟩ : ∃ z filter, s.filters.get z = some filter ∧
      filter.Takes pid (.SourceFilter y generation) ∧ Carrier filter := by
    cases h with
    | here hget htakes hkind => exact ⟨_, _, hget, htakes, .inr hkind⟩
    | there hget htakes hkind _ => exact ⟨_, _, hget, htakes, .inl hkind⟩
  refine any_eq_true.mpr ⟨filter, mem_map.mpr
    ⟨_, (OrdMap.get_eq_some _).mp (hcarries.filters hget hcarrier), rfl⟩, ?_⟩
  have hstarted : filter.pipeline_view.started = true := decide_eq_true htakes.started
  have hsource : filter.pipeline_view.source_filter = some (y, generation) := by
    change filter.source.source_filter = _
    rw [htakes.source_eq]
    rfl
  rw [hstarted, hsource]
  simp

section
variable {push : TsInputOrigin → Passage κ ε → Option (PipelineReport × Passage κ ε)}

theorem propagate_calm {report report' : PipelineReport} (hsound : passage.demux.Sound)
    (hcarries : s.Carries Ok passage.demux)
    (hpush : ∀ generation p p' r, push (.SourceFilter y generation) p = some (r, p') →
      p.demux.Sound → s.Carries Ok p.demux →
      s.Brings Ok (s.Reached pid (.SourceFilter y generation)) p p')
    (h : propagate push (report, passage) y = some (report', passage')) :
    s.Brings Ok (s.Behind pid y) passage passage' := by
  unfold propagate at h
  dsimp only at h
  split at h
  · next hnone =>
    cases h
    refine ⟨hsound, hcarries, List.Subset.refl _, id, fun _ x hx => ?_⟩
    obtain ⟨source, hget, hkind, -⟩ := hx
    cases hnone.symm.trans (hcarries.filters hget (.inl hkind))
  next found hfound =>
  have hsame : ∀ {x}, s.Behind pid y x → found.state = .Started ∧
      s.Reached pid (.SourceFilter y found.generation) x := by
    rintro x ⟨source, hget, hkind, hstate, hreached⟩
    cases hfound.symm.trans (hcarries.filters hget (.inl hkind))
    exact ⟨hstate, hreached⟩
  split at h
  · split at h
    · cases h
      exact ⟨hsound, hcarries, List.Subset.refl _, fun hnil => by simp at hnil,
        fun hnil => by simp at hnil⟩
    · obtain ⟨⟨r, p'⟩, hreturns, heq⟩ := Option.map_eq_some_iff.mp h
      cases heq
      have hbrings := hpush _ _ _ _ hreturns hsound hcarries
      exact ⟨hbrings.sound, hbrings.carries, hbrings.visits, hbrings.refused,
        fun hnone x hx => hbrings.covers hnone x (hsame hx).2⟩
  · next hstays =>
    cases h
    refine ⟨hsound, hcarries, List.Subset.refl _, id, fun _ x hx => absurd ?_ hstays⟩
    exact ⟨(hsame hx).1, (hsame hx).2.has_started_downstream hcarries⟩

theorem propagate_all_calm {xs : List Int} {report report' : PipelineReport}
    (hsound : passage.demux.Sound) (hcarries : s.Carries Ok passage.demux)
    (hpush : ∀ y generation p p' r, push (.SourceFilter y generation) p = some (r, p') →
      p.demux.Sound → s.Carries Ok p.demux →
      s.Brings Ok (s.Reached pid (.SourceFilter y generation)) p p')
    (h : xs.foldlM (propagate push) (report, passage) = some (report', passage')) :
    s.Brings Ok (fun x => ∃ y ∈ xs, s.Behind pid y x) passage passage' := by
  induction xs generalizing passage report with
  | nil =>
    cases h
    exact ⟨hsound, hcarries, List.Subset.refl _, id, fun _ x hx => by simp at hx⟩
  | cons y rest ih =>
    obtain ⟨⟨report₁, passage₁⟩, hfirst, hrest⟩ := Option.bind_eq_some_iff.mp h
    have hbrings := propagate_calm hsound hcarries (hpush y) hfirst
    refine hbrings.trans (ih hbrings.sound hbrings.carries hrest) fun x hx => ?_
    obtain ⟨z, hz, hbehind⟩ := hx
    rcases mem_cons.mp hz with rfl | hz
    · exact .inl hbehind
    · exact .inr ⟨z, hz, hbehind⟩

end

/-- The packet comes to all that is reached from its origin. -/
theorem push_within_calm (hcalm : env.Calm s Ok) {fuel : Nat} {report : PipelineReport}
    (hsound : passage.demux.Sound) (hcarries : s.Carries Ok passage.demux)
    (h : push_within env validated fuel origin passage = some (report, passage')) :
    s.Brings Ok (s.Reached validated.pid origin) passage passage' := by
  induction fuel generalizing origin passage passage' report with
  | zero => cases h
  | succ fuel ih =>
    obtain ⟨report₁, demux, visit, hserve, hdemux, hkept, rfl, hraw, hwritten⟩ :=
      serve_calm hcalm hsound hcarries validated origin
    unfold push_within at h
    rw [hserve] at h
    have hbrings := propagate_all_calm hdemux hkept
      (fun _ _ _ _ _ hreturns hp hkept => ih hp hkept hreturns) h
    refine ⟨hbrings.sound, hbrings.carries,
      List.Subset.trans (subset_append_left _ _) hbrings.visits, hbrings.refused,
      fun hnone x hx => ?_⟩
    cases hx with
    | here hget htakes hkind =>
      refine ⟨visit, hbrings.visits (mem_append_right _ (mem_singleton_self _)), ?_,
        hwritten x _ hget htakes hkind⟩
      rw [parent_eq hget, htakes.source_eq, visit.origin.source_filter_id]
    | there hget htakes hkind hx =>
      exact hbrings.covers hnone x
        ⟨_, hraw _ _ hget htakes hkind, _, hget, hkind, htakes.started, hx⟩

/-! ## The writes of one packet -/

/-- Of the record filters that get packets of the PID, those attached to one started record DVR
all read from the same source. -/
def OneSource (s : DemuxRuntime κ ε) (pid : PacketPid) : Prop :=
  ∀ x x' d, s.Fed pid x → s.Fed pid x' → s.Records x d → s.Records x' d → s.parent x = s.parent x'

/-- Two visits are at different origins, so with one source for each record DVR only one of them
writes to it. -/
theorem Walked.written_nodup {Where : Option Int → Prop} {visits : List Visit}
    (h : Walked s pid True Where passage passage' visits) (hone : s.OneSource pid) :
    (visits.flatMap (·.written)).Nodup := by
  refine nodup_flatMap.mpr ⟨fun v hv => (h.fits v hv).written_nodup, ?_⟩
  refine (pairwise_map.mp h.nodup).imp_of_mem fun {v w} hv hw hne d hd hd' => hne ?_
  obtain ⟨x, hx, hrecords⟩ := (h.fits v hv).written d hd
  obtain ⟨x', hx', hrecords'⟩ := (h.fits w hw).written d hd'
  obtain ⟨hparent, hfed⟩ := (h.fits v hv).offered x hx
  obtain ⟨hparent', hfed'⟩ := (h.fits w hw).offered x' hx'
  rw [← hparent, ← hparent']
  exact hone x x' d (hfed trivial) (hfed' trivial) hrecords hrecords'

/-- Two record filters that are covered and share a record DVR read from the same source, or the
packet was written to it twice. -/
theorem one_source_of_written_nodup {visits : List Visit}
    (hcovers : ∀ x d, s.Fed pid x → s.Records x d → s.Covered visits x)
    (hnodup : (visits.flatMap (·.written)).Nodup) : s.OneSource pid := by
  intro x x' d hfed hfed' hrecords hrecords'
  obtain ⟨v, hv, horigin, hwritten⟩ := hcovers x d hfed hrecords
  obtain ⟨w, hw, horigin', hwritten'⟩ := hcovers x' d hfed' hrecords'
  by_contra hne
  have hvw : v ≠ w := by
    rintro rfl
    exact hne (horigin.symm.trans horigin')
  have hsymm : Std.Symm (Function.onFun List.Disjoint Visit.written) :=
    ⟨fun _ _ h d hd hd' => h hd' hd⟩
  have hapart : List.Disjoint v.written w.written :=
    (nodup_flatMap.mp hnodup).2.forall hv hw hvw
  exact hapart (hwritten d hrecords.2) (hwritten' d hrecords'.2)

/-! ## Runs with new ids -/

section
variable [DecidableEq κ]

/-- An input registers no filter under an id that is taken. -/
def FreshInput (self : DemuxRuntime κ ε) : DemuxInput κ → Prop
  | .Call c => self.Fresh c
  | _ => True

instance (self : DemuxRuntime κ ε) (i : DemuxInput κ) : Decidable (self.FreshInput i) :=
  match i with
  | .Call (.Register filter_id _) => inferInstanceAs (Decidable (self.filters.get filter_id = none))
  | .Call (.Remove _) | .Call (.Connect _ _) | .Call (.Disconnect _) | .Call (.Configure ..)
  | .Call (.Flush _) | .Call (.Start _) | .Call (.Stop _) | .Packet _ _ | .Dvrs _ =>
    inferInstanceAs (Decidable True)

/-- So does no input of a run. -/
def FreshRun (env : Delivery ε) : List (DemuxInput κ) → DemuxRuntime κ ε → Prop
  | [], _ => True
  | i :: rest, self => self.FreshInput i ∧ ∀ s' ∈ self.input env i, FreshRun env rest s'

def decideFreshRun (env : Delivery ε) : (inputs : List (DemuxInput κ)) →
    (self : DemuxRuntime κ ε) → Decidable (FreshRun env inputs self)
  | [], _ => inferInstanceAs (Decidable True)
  | i :: rest, self =>
    have := decideFreshRun env rest
    inferInstanceAs (Decidable (self.FreshInput i ∧ ∀ s' ∈ self.input env i, FreshRun env rest s'))

instance (env : Delivery ε) (inputs : List (DemuxInput κ)) (self : DemuxRuntime κ ε) :
    Decidable (FreshRun env inputs self) := decideFreshRun env inputs self

theorem input_keeps_raw_sources (hsound : s.Sound) (hraw : s.RawSources) {i : DemuxInput κ}
    (hfresh : s.FreshInput i) (h : s.input env i = some s') : s'.RawSources := by
  cases i with
  | Call c =>
    obtain ⟨out, hout, -, hkeeps⟩ := call_keeps env.toResources hsound c
    rw [input, hout] at h
    cases h
    exact hkeeps hfresh hraw
  | Packet validated origin =>
    obtain ⟨report, passage, hreturns, hwalked⟩ :=
      push_ingress env False hsound (fun h => h.elim) validated origin fun h => h.elim
    rw [input, push_validated_ts_packet_from_origin, hreturns] at h
    cases h
    exact hwalked.fades.prunes.raw_sources hraw
  | Dvrs dvrs =>
    cases h
    exact (Prunes.of_filters rfl).raw_sources hraw

theorem run_keeps {inputs : List (DemuxInput κ)} (hsound : s.Sound) (hraw : s.RawSources)
    (hfresh : FreshRun env inputs s) (hrun : run env inputs s = some s') :
    s'.Sound ∧ s'.RawSources := by
  induction inputs generalizing s with
  | nil =>
    cases hrun
    exact ⟨hsound, hraw⟩
  | cons i rest ih =>
    obtain ⟨t, hinput, hrest⟩ := Option.bind_eq_some_iff.mp hrun
    have htsound : t.Sound := by
      obtain ⟨t', ht', hkept⟩ := input_keeps env hsound i
      cases hinput.symm.trans ht'
      exact hkept
    exact ih htsound (input_keeps_raw_sources hsound hraw hfresh.1 hinput) (hfresh.2 t hinput) hrest

end

theorem feeds_of_input (s : DemuxRuntime κ ε) (pid : PacketPid) (h : origin.filter_id = none) :
    s.Feeds pid origin ∧ origin.source = .DemuxInput := by
  cases origin with
  | SourceFilter y generation => cases h
  | Frontend | PlaybackDvr => exact ⟨trivial, rfl⟩

end DemuxRuntime

/-- How often a packet was written to the queue of a record DVR. -/
def Passage.writes (passage : Passage κ ε) (dvr_id : Int) : Nat :=
  (passage.visits.flatMap (·.written)).count dvr_id

namespace DemuxRuntime

variable [DecidableEq κ]

/-- A packet of the demux input is written to a record DVR at most once if the record filters of
that DVR which get the packet all read from the same source. When nothing fails behind the filters
of the demux, it is so only then: two sources, two writes. -/
theorem one_source_one_write (env : Delivery ε) (generation : Nat) (parts : Parts ε)
    (inputs : List (DemuxInput κ)) (hfresh : FreshRun env inputs (new generation parts))
    (s : DemuxRuntime κ ε) (hrun : run env inputs (new generation parts) = some s)
    (validated : ValidatedTsPacket) (origin : TsInputOrigin) (horigin : origin.filter_id = none) :
    ∃ report passage,
      s.push_validated_ts_packet_from_origin env validated origin = some (report, passage) ∧
      (s.OneSource validated.pid → ∀ d, passage.writes d ≤ 1) ∧
      ∀ Ok, env.Calm s Ok → (∀ d, passage.writes d ≤ 1) → s.OneSource validated.pid := by
  obtain ⟨hsound, hraw⟩ :=
    run_keeps (new_sound generation parts) nofun hfresh hrun
  obtain ⟨hfeeds, hsource⟩ := feeds_of_input s validated.pid horigin
  obtain ⟨report, passage, hreturns, hwalked⟩ := push_ingress env True hsound (fun _ => hraw)
    validated origin fun _ => ⟨hfeeds, fun y hy => by rw [horigin] at hy; cases hy⟩
  refine ⟨report, passage, hreturns, fun hone => ?_, fun Ok hcalm hwrites => ?_⟩
  · exact nodup_iff_count_le_one.mp (hwalked.written_nodup hone)
  · have hbrings : s.Brings Ok (s.Reached validated.pid origin) { demux := s } passage :=
      push_within_calm hcalm hsound (.refl s) hreturns
    refine one_source_of_written_nodup (fun x d hfed hrecords => ?_)
      (nodup_iff_count_le_one.mpr hwrites)
    obtain ⟨⟨filter, hget, hkind⟩, -⟩ := hrecords
    exact hbrings.covers hwalked.refused x (hfed.reached_record hsource hget hkind)

end DemuxRuntime

/-- All goes well behind the filters. -/
def Delivery.undisturbed : Delivery Unit where
  open_gate parts _ := (.ok (), parts)
  open_queue parts _ := (.ok (), parts)
  close_filter parts _ := (.ok (), parts)
  consume_filter_source_boundary parts _ := (.ok (), parts)
  validate_filter_delivery_boundary _ _ := .ok ()
  drain_existing_queue parts _ := (.ok (), parts)
  drain_downstream parts _ := (.ok (), parts)
  commit_downstream parts _ := (.ok (), parts)
  isolate parts _ := parts
  queue_ready _ _ := .ok ()
  av_backing_ready _ _ := .ok ()
  gate_ready _ _ := .ok ()
  drain_for_reconfigure parts _ := (.ok (), parts)
  commit_reconfigure parts _ := (.ok (), parts)
  register_av_sync parts _ := (.ok (), parts)
  schedule_start_id parts _ := (.ok (), parts)
  begin_flush parts _ := (.ok (), parts)
  clear_for_flush parts _ := (.ok (), parts)
  commit_flush parts _ := (.ok (), parts)
  stopped parts _ := parts
  invalidate_pcr_clock_anchor parts _ := parts
  observe_pcr parts _ _ _ := (true, parts)
  deliver_av_payloads parts _ _ _ := ([], parts)
  has_gate _ _ := true
  can_reserve _ _ := true
  begin_producer parts _ := (.Admitted, parts)
  try_write_record_dvr_packet parts _ _ := (⟨true, .ok .Written, false⟩, parts)
  commit_permit parts _ := (true, parts)
  commit_record_output parts _ _ _ := (true, parts)
  commit_generated_filter_events parts _ _ _ := ([], parts)

/-- Two record filters of one record DVR, at the demux input or the second behind a raw filter. -/
def sharedDvr (behind : Bool) : List (DemuxInput Unit) :=
  let config : FilterPipelineConfig Unit := ⟨some 0x0100, false, none⟩
  [.Call (.Register 1 .Raw), .Call (.Register 2 .Record), .Call (.Register 3 .Record),
    .Call (.Configure 1 .Raw config none none), .Call (.Configure 2 .Record config none none),
    .Call (.Configure 3 .Record config none none)] ++
  (if behind then [.Call (.Connect 3 1)] else []) ++
  [.Call (.Start 1), .Call (.Start 2), .Call (.Start 3),
    .Dvrs (OrdMap.insert .empty 7 ⟨.Record, .Started, [2, 3], .Healthy⟩)]

namespace DemuxRuntime

open Delivery TwoStreams

theorem written_sharedDvr (behind : Bool) :
    ((run undisturbed (sharedDvr behind) (new 1 ⟨{}, ()⟩)).bind fun s =>
      (s.push_validated_ts_packet_from_origin undisturbed firstPacket (.Frontend 1)).map
        (·.2.visits.flatMap (·.written))) = some (if behind then [7, 7] else [7]) := by
  cases behind <;> decide +kernel

theorem shared_dvr_gets_packet_twice : ∃ s report passage,
    run undisturbed (sharedDvr true) (new 1 ⟨{}, ()⟩) = some s ∧
      s.push_validated_ts_packet_from_origin undisturbed firstPacket (.Frontend 1) =
        some (report, passage) ∧ passage.writes 7 = 2 := by
  obtain ⟨s, hrun, hpush⟩ := Option.bind_eq_some_iff.mp (written_sharedDvr true)
  obtain ⟨⟨report, passage⟩, hreturns, htwo⟩ := Option.map_eq_some_iff.mp hpush
  exact ⟨s, report, passage, hrun, hreturns, congrArg (List.count 7) htwo⟩

theorem undisturbed_calm (s : DemuxRuntime Unit Unit) : undisturbed.Calm s fun _ => True where
  ok := trivial
  invalidate_pcr_clock_anchor _ _ _ := trivial
  observe_pcr _ _ _ _ parts _ := ⟨parts, rfl, trivial⟩
  deliver_av_payloads _ _ _ parts _ := ⟨parts, rfl, trivial⟩
  has_gate _ _ _ _ := rfl
  can_reserve _ _ _ _ := rfl
  begin_producer _ _ parts _ := ⟨parts, rfl, trivial⟩
  try_write_record_dvr_packet _ _ _ parts _ := ⟨parts, rfl, trivial⟩
  commit_permit _ _ parts _ := ⟨parts, rfl, trivial⟩
  commit_record_output _ _ _ _ parts _ := ⟨parts, rfl, trivial⟩
  commit_generated_filter_events _ _ _ parts _ := ⟨parts, rfl, trivial⟩

/-- Behind a raw filter the second record filter is a second source. Beside the first it is none,
and the record DVR gets the packet once. -/
theorem sources_of_the_shared_dvr :
    (∃ s, run undisturbed (sharedDvr true) (new 1 ⟨{}, ()⟩) = some s ∧
      ¬ s.OneSource firstPacket.pid) ∧
    ∃ s report passage, run undisturbed (sharedDvr false) (new 1 ⟨{}, ()⟩) = some s ∧
      s.push_validated_ts_packet_from_origin undisturbed firstPacket (.Frontend 1) =
        some (report, passage) ∧ s.OneSource firstPacket.pid ∧ passage.writes 7 = 1 := by
  constructor
  · obtain ⟨s, hrun, hpush⟩ := Option.bind_eq_some_iff.mp (written_sharedDvr true)
    obtain ⟨report, passage, hreturns, hone, -⟩ := one_source_one_write undisturbed 1 ⟨{}, ()⟩
      (sharedDvr true) (by decide +kernel) s hrun firstPacket (.Frontend 1) rfl
    rw [hreturns, Option.map_some, Option.some.injEq] at hpush
    have htwo : passage.writes 7 = 2 := congrArg (List.count 7) hpush
    refine ⟨s, hrun, fun hsource => ?_⟩
    have hle := hone hsource 7
    omega
  · obtain ⟨s, hrun, hpush⟩ := Option.bind_eq_some_iff.mp (written_sharedDvr false)
    obtain ⟨report, passage, hreturns, -, hcalm⟩ := one_source_one_write undisturbed 1 ⟨{}, ()⟩
      (sharedDvr false) (by decide +kernel) s hrun firstPacket (.Frontend 1) rfl
    rw [hreturns, Option.map_some, Option.some.injEq] at hpush
    refine ⟨s, report, passage, hrun, hreturns, hcalm _ (undisturbed_calm s) fun d => ?_,
      congrArg (List.count 7) hpush⟩
    exact nodup_iff_count_le_one.mp (hpush ▸ by decide) d

end DemuxRuntime

end tuner_hal2_demux
