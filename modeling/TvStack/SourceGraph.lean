-- The graph that the sources of the filters make: no call closes a cycle in
-- it, and so every quarantine that goes down it comes to an end.
import TvStack.DemuxSources

open Forests Loops Relation Words List

namespace tuner_hal2_demux

open packet_pipeline

/-- What no packet and no quarantine changes of a filter. -/
def FilterRuntime.fixed {κ : Type} (filter : FilterRuntime κ) :
    Int × PipelineOpenKind × Nat × Option Int × Option Int :=
  (filter.filter_id, filter.open_kind, filter.generation, filter.tpid,
    filter.source.source_filter_id)

namespace DemuxRuntime

variable {κ ε : Type} {s s' s'' : DemuxRuntime κ ε} {x y : Int}
  {filter filter' : FilterRuntime κ} {next : Nat} {source : FilterSource}
  {out : Outcome × DemuxRuntime κ ε}

variable (self : DemuxRuntime κ ε)

/-- The filter that `x` reads from. -/
def parent (x : Int) : Option Int :=
  (self.filters.get x).bind (·.source.source_filter_id)

def Started (x : Int) : Prop :=
  ∃ filter, self.filters.get x = some filter ∧ filter.state = .Started

/-- Filters stand under their own ids, and reading from filters goes in no circle. -/
structure Sound (demux : DemuxRuntime κ ε) : Prop where
  keyed : ∀ {x filter}, demux.filters.get x = some filter → filter.filter_id = x
  acyclic : Acyclic demux.parent

theorem parent_eq (h : s.filters.get x = some filter) :
    s.parent x = filter.source.source_filter_id := by
  rw [parent, h, Option.bind_some]

theorem of_parent (h : s.parent x = some y) :
    ∃ filter, s.filters.get x = some filter ∧ filter.source.source_filter_id = some y :=
  Option.bind_eq_some_iff.mp h

theorem mem_source_filter_downstream_ids (h : s.Sound) :
    x ∈ s.source_filter_downstream_ids y ↔ s.parent x = some y := by
  simp only [source_filter_downstream_ids, OrdMap.values, mem_map, mem_filter,
    decide_eq_true_eq]
  constructor
  · rintro ⟨filter, ⟨⟨item, hitem, rfl⟩, hsource⟩, rfl⟩
    have hget := (OrdMap.get_eq_some _).mpr hitem
    rw [h.keyed hget, parent_eq hget, hsource]
  · intro hparent
    obtain ⟨filter, hget, hsource⟩ := of_parent hparent
    exact ⟨filter, ⟨⟨(x, filter), (OrdMap.get_eq_some _).mp hget, rfl⟩, hsource⟩, h.keyed hget⟩

/-- The ids of the filters in the table. -/
def ids : List Int := self.filters.items.map Prod.fst

theorem mem_ids : x ∈ s.ids ↔ ∃ filter, s.filters.get x = some filter := by
  simp only [ids, mem_map, Prod.exists, exists_and_right, exists_eq_right]
  exact exists_congr fun filter => (OrdMap.get_eq_some _).symm

theorem mem_ids_of_parent (h : s.parent x = some y) : x ∈ s.ids := by
  obtain ⟨filter, hget, -⟩ := of_parent h
  exact mem_ids.mpr ⟨filter, hget⟩

theorem length_ids (s : DemuxRuntime κ ε) : s.ids.length = s.filters.size := length_map _

/-! ## What delivery and quarantine do to the filters -/

/-- The filters only wear out: none comes or goes or reads from another filter, none starts, and
a generation of a source moves on only where that source has stopped. Record DVRs only fail. -/
structure Fades (s s' : DemuxRuntime κ ε) : Prop where
  fixed : ∀ x, (s'.filters.get x).map (·.fixed) = (s.filters.get x).map (·.fixed)
  started : ∀ {x}, s'.Started x → s.Started x
  source : ∀ x, (s'.filters.get x).map (·.source) = (s.filters.get x).map (·.source) ∨
    ∃ y, s.parent x = some y ∧ ¬ s'.Started y
  targets : ∀ {x d}, d ∈ s'.record_dvr_target_ids_for_filter x →
    d ∈ s.record_dvr_target_ids_for_filter x

theorem targets_of_dvrs (h : s'.dvrs = s.dvrs) :
    s'.record_dvr_target_ids_for_filter x = s.record_dvr_target_ids_for_filter x := by
  rw [record_dvr_target_ids_for_filter, h, record_dvr_target_ids_for_filter]

theorem Fades.refl (s : DemuxRuntime κ ε) : s.Fades s :=
  ⟨fun _ => rfl, id, fun _ => .inl rfl, id⟩

theorem Fades.of_filters (h : s'.filters = s.filters) (hdvrs : s'.dvrs = s.dvrs) : s.Fades s' := by
  refine ⟨fun _ => by rw [h], fun {x} hx => ?_, fun _ => .inl (by rw [h]), fun {x d} hd => ?_⟩
  · rwa [Started, h] at hx
  · rwa [targets_of_dvrs hdvrs] at hd

theorem Fades.parent (h : s.Fades s') : s'.parent = s.parent := by
  funext x
  have hx := h.fixed x
  cases hget : s.filters.get x with
  | none =>
    rw [hget, Option.map_none, Option.map_eq_none_iff] at hx
    rw [DemuxRuntime.parent, DemuxRuntime.parent, hget, hx]
  | some filter =>
    rw [hget, Option.map_some, Option.map_eq_some_iff] at hx
    obtain ⟨filter', hget', hfixed⟩ := hx
    rw [parent_eq hget, parent_eq hget']
    exact congrArg (·.2.2.2.2) hfixed

theorem Fades.trans (h : s.Fades s') (h' : s'.Fades s'') : s.Fades s'' where
  fixed x := (h'.fixed x).trans (h.fixed x)
  started hx := h.started (h'.started hx)
  source x := by
    rcases h'.source x with hsame | ⟨y, hy, hstop⟩
    · rcases h.source x with hsame' | ⟨y, hy, hstop⟩
      · exact .inl (hsame.trans hsame')
      · exact .inr ⟨y, hy, fun hstart => hstop (h'.started hstart)⟩
    · exact .inr ⟨y, h.parent ▸ hy, hstop⟩
  targets hd := h.targets (h'.targets hd)

/-- A filter that is there is still there, with what is fixed of it. -/
theorem Fades.get (h : s.Fades s') (hget : s.filters.get x = some filter) :
    ∃ filter', s'.filters.get x = some filter' ∧ filter'.fixed = filter.fixed := by
  have hx := h.fixed x
  rwa [hget, Option.map_some, Option.map_eq_some_iff] at hx

theorem Fades.get_back (h : s.Fades s') (hget : s'.filters.get x = some filter') :
    ∃ filter, s.filters.get x = some filter ∧ filter'.fixed = filter.fixed := by
  have hx := h.fixed x
  rw [hget, Option.map_some, eq_comm, Option.map_eq_some_iff] at hx
  obtain ⟨filter, hget, heq⟩ := hx
  exact ⟨filter, hget, heq.symm⟩

theorem Fades.sound (h : s.Fades s') (hsound : s.Sound) : s'.Sound where
  keyed hget := by
    obtain ⟨filter, hold, heq⟩ := h.get_back hget
    exact (congrArg (·.1) heq).trans (hsound.keyed hold)
  acyclic := h.parent ▸ hsound.acyclic

/-- One filter is written again, with the same fixed part. -/
theorem Fades.insert (hget : s.filters.get x = some filter)
    (hfilters : s'.filters = s.filters.insert x filter') (hdvrs : s'.dvrs = s.dvrs)
    (hfixed : filter'.fixed = filter.fixed)
    (hstate : filter'.state = .Started → filter.state = .Started)
    (hsource : filter'.source = filter.source ∨ ∃ y, s.parent x = some y ∧ ¬ s'.Started y) :
    s.Fades s' where
  fixed y := by
    rw [hfilters, OrdMap.get_insert]
    split
    · next heq => rw [heq, hget, Option.map_some, Option.map_some, hfixed]
    · rfl
  started {y} := by
    rintro ⟨found, hfound, hstarted⟩
    rw [hfilters] at hfound
    rcases OrdMap.get_of_insert hfound with ⟨rfl, rfl⟩ | hfound
    · exact ⟨filter, hget, hstate hstarted⟩
    · exact ⟨found, hfound, hstarted⟩
  source y := by
    by_cases heq : y = x
    · subst heq
      refine hsource.imp (fun hsame => ?_) id
      rw [hfilters, OrdMap.get_insert, if_pos rfl, hget, Option.map_some, Option.map_some, hsame]
    · exact .inl (by rw [hfilters, OrdMap.get_insert, if_neg heq])
  targets hd := by rwa [targets_of_dvrs hdvrs] at hd

theorem mark_filter_failed_fades (s : DemuxRuntime κ ε) (x : Int) :
    s.Fades (s.mark_filter_failed x) := by
  unfold mark_filter_failed
  split
  · next filter hget => exact .insert hget rfl rfl rfl nofun (.inl rfl)
  · exact .refl s

theorem not_started_of_failed (s : DemuxRuntime κ ε) (x : Int) :
    ¬ (s.mark_filter_failed x).Started x := by
  rintro ⟨filter, hget, hstarted⟩
  unfold mark_filter_failed at hget
  split at hget
  · rw [OrdMap.get_insert, if_pos rfl] at hget
    cases hget
    cases hstarted
  · next hnone => simp [hnone] at hget

/-! ## Sinks that start over -/

theorem commit_source.spec {expected : Nat}
    (h : filter.commit_source expected next source = some filter') :
    filter' = { filter with source, source_relation_generation := next } := by
  unfold FilterRuntime.commit_source at h
  split at h
  · cases h
  · exact (Option.some.inj h).symm

variable (env : Resources ε)

/-- A sink starts over: nothing happens to the filters, and if all went well it does not read
from that source; or it does read from it, and now has the new source. -/
theorem reset_connected_downstream_source_boundary.cases (s : DemuxRuntime κ ε) (x y : Int)
    (next : Option Nat) (h : s.reset_connected_downstream_source_boundary env x y next = out) :
    out.2.dvrs = s.dvrs ∧
    ((out.2.filters = s.filters ∧ (out.1 = .ok () → s.parent x ≠ some y)) ∨
      ∃ filter generation, s.filters.get x = some filter ∧
        filter.source.source_filter_id = some y ∧
        out.2.filters = s.filters.insert x
          { filter with
            source := .restarted y next, source_relation_generation := generation }) := by
  unfold reset_connected_downstream_source_boundary at h
  split at h
  · subst h
    exact ⟨rfl, .inl ⟨rfl, nofun⟩⟩
  next filter hget =>
  split at h
  · next hne =>
    subst h
    exact ⟨rfl, .inl ⟨rfl, fun _ => parent_eq hget ▸ hne⟩⟩
  next heq =>
  iterate 3
    split at h
    · subst h
      exact ⟨rfl, .inl ⟨rfl, nofun⟩⟩
  next hcommit =>
  obtain rfl := commit_source.spec hcommit
  subst h
  exact ⟨rfl, .inr ⟨filter, _, hget, not_not.mp heq, rfl⟩⟩

/-- A sink that starts over at a source that has stopped only wears out. -/
theorem reset_fades (h : s.reset_connected_downstream_source_boundary env x y (some next) = out)
    (hstop : ¬ s.Started y) : s.Fades out.2 := by
  obtain ⟨hdvrs, ⟨hsame, -⟩ | ⟨filter, generation, hget, hsource, hfilters⟩⟩ :=
    reset_connected_downstream_source_boundary.cases env s x y (some next) h
  · exact .of_filters hsame hdvrs
  · have hparent : s.parent x = some y := (parent_eq hget).trans hsource
    refine .insert hget hfilters hdvrs ?_ id (.inr ⟨y, hparent, ?_⟩)
    · rw [FilterRuntime.fixed, FilterRuntime.fixed, hsource]
      rfl
    · rintro ⟨found, hfound, hstarted⟩
      rw [hfilters] at hfound
      rcases OrdMap.get_of_insert hfound with ⟨rfl, rfl⟩ | hfound
      · exact hstop ⟨filter, hget, hstarted⟩
      · exact hstop ⟨found, hfound, hstarted⟩

/-- Quarantine comes to an end, and the filters only wear out. -/
theorem quarantine_within_returns (fuel : Nat) (x : Int) (s : DemuxRuntime κ ε) (hsound : s.Sound)
    {nodes : List Int} (hnodes : ∀ a b, s.parent a = some b → a ∈ nodes)
    (hroom : Room s.parent nodes fuel x) :
    ∃ s', quarantine_within env fuel x s = some s' ∧ s.Fades s' ∧ ¬ s'.Started x := by
  induction fuel generalizing x s with
  | zero => exact absurd hroom.fuel_pos (lt_irrefl 0)
  | succ fuel ih =>
    let isolated : DemuxRuntime κ ε :=
      { s.mark_filter_failed x with parts := env.isolate s.parts x }
    have hfades : s.Fades isolated :=
      (mark_filter_failed_fades s x).trans (.of_filters rfl rfl)
    have hstop : ¬ isolated.Started x := not_started_of_failed s x
    unfold quarantine_within
    split
    · exact ⟨isolated, rfl, hfades, hstop⟩
    next filter hget =>
    -- a turn of the loop over the sinks: the filter has stopped, so they only wear out
    refine (foldlM_returns (P := fun t => s.Fades t ∧ ¬ t.Started x) .refl .trans
      (fun h ht => ⟨h.1.trans ht, fun hstart => h.2 (ht.started hstart)⟩) ?_ isolated
      ⟨hfades, hstop⟩).imp fun s' h =>
        ⟨h.1, hfades.trans h.2, fun hstart => hstop (h.2.started hstart)⟩
    rintro sink hsink t ⟨hst, htx⟩
    have hparent := (mem_source_filter_downstream_ids hsound).mp hsink
    cases hreset : t.reset_connected_downstream_source_boundary env sink x
      (some filter.generation) with
    | mk outcome t' =>
      have htt : t.Fades t' := reset_fades env hreset htx
      cases outcome with
      | ok _ => exact ⟨t', rfl, htt⟩
      | error _ =>
        have hst' := hst.trans htt
        obtain ⟨u, hu, htu, -⟩ := ih sink t' (hst'.sound hsound) (hst'.parent ▸ hnodes)
          (hst'.parent ▸ hroom.down hsound.acyclic hparent (hnodes _ _ hparent))
        exact ⟨u, hu, htt.trans htu⟩

theorem quarantine_filter_runtime_returns (hsound : s.Sound) (x : Int) :
    ∃ s', s.quarantine_filter_runtime env x = some s' ∧ s.Fades s' ∧ ¬ s'.Started x :=
  quarantine_within_returns env _ x s hsound (fun _ _ => mem_ids_of_parent)
    (.start (by rw [length_ids]; exact Nat.lt_succ_self _))

/-! ## Edits that connect nothing -/

/-- No filter comes or goes or changes its kind, and each reads from the filter it read from, or
from none. -/
structure Prunes (s s' : DemuxRuntime κ ε) : Prop where
  shape : ∀ x, (s'.filters.get x).map (fun f => (f.filter_id, f.open_kind)) =
    (s.filters.get x).map fun f => (f.filter_id, f.open_kind)
  parent : ∀ {x y}, s'.parent x = some y → s.parent x = some y

theorem Prunes.refl (s : DemuxRuntime κ ε) : s.Prunes s := ⟨fun _ => rfl, id⟩

theorem Prunes.trans (h : s.Prunes s') (h' : s'.Prunes s'') : s.Prunes s'' :=
  ⟨fun x => (h'.shape x).trans (h.shape x), fun hx => h.parent (h'.parent hx)⟩

theorem Prunes.of_filters (h : s'.filters = s.filters) : s.Prunes s' := by
  refine ⟨fun _ => by rw [h], fun {x y} hx => ?_⟩
  rwa [DemuxRuntime.parent, h] at hx

theorem Prunes.parts (s : DemuxRuntime κ ε) (parts : Parts ε) : s.Prunes { s with parts } :=
  .of_filters rfl

theorem Fades.prunes (h : s.Fades s') : s.Prunes s' := by
  refine ⟨fun x => ?_, fun {x y} hx => h.parent ▸ hx⟩
  have hx := congrArg (Option.map fun fixed => (fixed.1, fixed.2.1)) (h.fixed x)
  rwa [Option.map_map, Option.map_map] at hx

theorem Prunes.insert (hget : s.filters.get x = some filter)
    (hfilters : s'.filters = s.filters.insert x filter')
    (hid : filter'.filter_id = filter.filter_id) (hkind : filter'.open_kind = filter.open_kind)
    (hsource : filter'.source.source_filter_id = none ∨
      filter'.source.source_filter_id = filter.source.source_filter_id) :
    s.Prunes s' := by
  refine ⟨fun y => ?_, fun {y z} hy => ?_⟩
  · rw [hfilters, OrdMap.get_insert]
    split
    · next heq => rw [heq, hget, Option.map_some, Option.map_some, hid, hkind]
    · rfl
  · rw [DemuxRuntime.parent, hfilters, OrdMap.get_insert] at hy
    split at hy
    · next heq =>
      rw [Option.bind_some] at hy
      rw [heq, parent_eq hget]
      rcases hsource with hsource | hsource
      · rw [hsource] at hy
        cases hy
      · rwa [← hsource]
    · exact hy

theorem Prunes.get_back (h : s.Prunes s') (hget : s'.filters.get x = some filter') :
    ∃ filter, s.filters.get x = some filter ∧ filter'.filter_id = filter.filter_id := by
  have hx := h.shape x
  rw [hget, Option.map_some, eq_comm, Option.map_eq_some_iff] at hx
  obtain ⟨filter, hget, heq⟩ := hx
  exact ⟨filter, hget, (congrArg Prod.fst heq).symm⟩

theorem Prunes.sound (h : s.Prunes s') (hsound : s.Sound) : s'.Sound where
  keyed hget := by
    obtain ⟨filter, hold, heq⟩ := h.get_back hget
    exact heq.trans (hsound.keyed hold)
  acyclic := hsound.acyclic.mono fun _ _ => h.parent

/-- The call returns, and it only prunes. -/
def Goes (s : DemuxRuntime κ ε) (m : DemuxAnswer κ ε) : Prop :=
  ∃ out, m = some out ∧ s.Prunes out.2

theorem Goes.stay (h : s.Prunes s') (outcome : Outcome) : s.Goes (some (outcome, s')) :=
  ⟨_, rfl, h⟩

theorem Goes.after {m : DemuxAnswer κ ε} (h : s.Prunes s') (hm : s'.Goes m) : s.Goes m := by
  obtain ⟨out, hout, hprunes⟩ := hm
  exact ⟨out, hout, h.trans hprunes⟩

theorem fail_isolated_goes (hsound : s.Sound) (x : Int) (error : DemuxRuntimeError) :
    s.Goes (s.fail_isolated env x error) := by
  obtain ⟨s', hreturns, hfades, -⟩ := quarantine_filter_runtime_returns env hsound x
  rw [fail_isolated, hreturns]
  exact .stay hfades.prunes _

/-- Some step behind the filters went wrong, and the call ends with the filter in quarantine. -/
theorem fail_isolated_goes_with (hsound : s.Sound) (parts : Parts ε) (x : Int)
    (error : DemuxRuntimeError) : s.Goes ({ s with parts }.fail_isolated env x error) := by
  have hprunes := Prunes.parts s parts
  exact .after hprunes (fail_isolated_goes env (hprunes.sound hsound) x error)

theorem reset_prunes {next : Option Nat}
    (h : s.reset_connected_downstream_source_boundary env x y next = out) : s.Prunes out.2 := by
  obtain ⟨-, ⟨hsame, -⟩ | ⟨filter, generation, hget, hsource, hfilters⟩⟩ :=
    reset_connected_downstream_source_boundary.cases env s x y next h
  · exact .of_filters hsame
  · refine .insert hget hfilters rfl rfl ?_
    cases next with
    | none => exact .inl rfl
    | some next => exact .inr hsource.symm

theorem reset_source_filter_downstreams_goes (y : Int) (next : Option Nat) (sinks : List Int)
    (s : DemuxRuntime κ ε) (hsound : s.Sound) :
    s.Goes (reset_source_filter_downstreams env y next sinks s) := by
  induction sinks generalizing s with
  | nil => exact .stay (.refl s) _
  | cons x rest ih =>
    unfold reset_source_filter_downstreams
    split
    · next hreset =>
      have hprunes := reset_prunes env hreset
      exact .after hprunes (ih _ (hprunes.sound hsound))
    · next hreset =>
      have hprunes := reset_prunes env hreset
      exact .after hprunes (fail_isolated_goes env (hprunes.sound hsound) x _)

/-- Sinks that have all started over without a source do not read from it. -/
theorem reset_source_filter_downstreams_leaves {sinks : List Int} {s s' : DemuxRuntime κ ε}
    (hsound : s.Sound)
    (h : reset_source_filter_downstreams env y none sinks s = some (.ok (), s')) :
    ∀ x ∈ sinks, s'.parent x ≠ some y := by
  induction sinks generalizing s with
  | nil => exact nofun
  | cons x rest ih =>
    unfold reset_source_filter_downstreams at h
    split at h
    · next t hreset =>
      have hprunes := reset_prunes env hreset
      have hrest := ih (hprunes.sound hsound) h
      obtain ⟨out, hout, hpruned⟩ :=
        reset_source_filter_downstreams_goes env y none rest t (hprunes.sound hsound)
      cases h.symm.trans hout
      intro z hz
      rcases mem_cons.mp hz with rfl | hz
      · refine fun hparent => ?_
        have hafter := hpruned.parent hparent
        obtain ⟨-, ⟨hsame, hok⟩ | ⟨filter, generation, -, -, hfilters⟩⟩ :=
          reset_connected_downstream_source_boundary.cases env s z y none hreset
        · exact hok rfl (hprunes.parent hafter)
        · rw [DemuxRuntime.parent, hfilters, OrdMap.get_insert, if_pos rfl] at hafter
          cases hafter
      · exact hrest z hz
    · obtain ⟨t, -, hout⟩ := Option.map_eq_some_iff.mp h
      cases hout

theorem Prunes.rewrite (hget : s.filters.get x = some filter) (parts : Parts ε)
    (hid : filter'.filter_id = filter.filter_id) (hkind : filter'.open_kind = filter.open_kind)
    (hsource : filter'.source = filter.source) :
    s.Prunes { s with filters := s.filters.insert x filter', parts } :=
  .insert hget rfl hid hkind (.inr (congrArg _ hsource))

theorem configure_filter_runtime_with_full_config_goes (hsound : s.Sound) (x : Int)
    (config : FilterPipelineConfig κ) (pes_stream_id : Option Int) (section_config : Option κ) :
    s.Goes (s.configure_filter_runtime_with_full_config env x config pes_stream_id
      section_config) := by
  unfold configure_filter_runtime_with_full_config
  split
  · exact .stay (.refl s) _
  next filter hget =>
  split
  · exact .stay (.refl s) _
  split
  · exact fail_isolated_goes env hsound x _
  next next _ =>
  split
  · exact fail_isolated_goes env hsound x _
  split
  · exact .stay (.refl s) _
  split
  · exact fail_isolated_goes_with env hsound _ x _
  dsimp only
  have hconfigured (parts : Parts ε) :
      s.Prunes { s with
        filters := s.filters.insert x
          (filter.configure_with_generation next config pes_stream_id section_config)
        parts } := .rewrite hget parts rfl rfl rfl
  split
  · exact .stay ((hconfigured _).trans (mark_filter_failed_fades _ x).prunes) _
  next parts _ =>
  have hprunes := hconfigured parts
  obtain ⟨out, hout, hrefreshed⟩ := reset_source_filter_downstreams_goes env x (some next)
    (source_filter_downstream_ids _ x) _ (hprunes.sound hsound)
  rw [refresh_source_filter_downstreams, hout]
  obtain ⟨outcome, t⟩ := out
  cases outcome with
  | error error => exact .stay (hprunes.trans hrefreshed) _
  | ok _ => exact .stay (hprunes.trans (hrefreshed.trans (.parts t _))) _

theorem configure_filter_runtime_goes [DecidableEq κ] (hsound : s.Sound) (x : Int)
    (open_kind : PipelineOpenKind) (config : FilterPipelineConfig κ) (pes_stream_id : Option Int)
    (section_config : Option κ) :
    s.Goes (s.configure_filter_runtime env x open_kind config pes_stream_id section_config) := by
  unfold configure_filter_runtime
  iterate 3
    split
    · exact .stay (.refl s) _
  split
  · exact .stay (.parts s _) _
  obtain ⟨out, hout, hprunes⟩ := configure_filter_runtime_with_full_config_goes env hsound x config
    pes_stream_id section_config
  rw [hout]
  obtain ⟨outcome, t⟩ := out
  have ht := hprunes.sound hsound
  cases outcome with
  | error error =>
    dsimp only
    split
    · exact .stay hprunes _
    · exact .after hprunes (fail_isolated_goes env ht x _)
  | ok _ =>
    dsimp only
    split
    · exact .after hprunes (fail_isolated_goes_with env ht _ x _)
    · exact .stay (hprunes.trans (.parts t _)) _

theorem refresh_filter_source_generation_goes (hsound : s.Sound) (x : Int) (next : Nat) :
    s.Goes (s.refresh_filter_source_generation_for_queue_cleanup env x next) := by
  unfold refresh_filter_source_generation_for_queue_cleanup
  split
  · exact .stay (.refl s) _
  next filter hget =>
  have hprunes : s.Prunes { s with
      filters := s.filters.insert x { filter with generation := next } } :=
    .rewrite hget s.parts rfl rfl rfl
  have ht := hprunes.sound hsound
  obtain ⟨out, hout, hrefreshed⟩ := reset_source_filter_downstreams_goes env x (some next)
    (source_filter_downstream_ids _ x) _ ht
  dsimp only
  rw [refresh_source_filter_downstreams, hout]
  obtain ⟨outcome, t⟩ := out
  cases outcome with
  | error error =>
    exact .after (hprunes.trans hrefreshed) (fail_isolated_goes env (hrefreshed.sound ht) x _)
  | ok _ => exact .stay (hprunes.trans hrefreshed) _

theorem flush_filter_queue_goes (hsound : s.Sound) (x : Int) (next : Option Nat) :
    s.Goes (s.flush_filter_queue env x next) := by
  unfold flush_filter_queue
  split
  · exact .stay (.refl s) _
  iterate 3
    split
    · exact fail_isolated_goes_with env hsound _ x _
  next parts _ =>
  have hparts := Prunes.parts s parts
  cases next with
  | none => exact .stay hparts _
  | some next =>
    exact .after hparts (refresh_filter_source_generation_goes env (hparts.sound hsound) x next)

theorem flush_filter_runtime_goes (hsound : s.Sound) (x : Int) :
    s.Goes (s.flush_filter_runtime env x) := by
  unfold flush_filter_runtime
  iterate 3
    split
    · exact .stay (.refl s) _
  split
  · exact flush_filter_queue_goes env hsound x none
  split
  · exact fail_isolated_goes env hsound x _
  · exact flush_filter_queue_goes env hsound x _

theorem set_filter_state_prunes (hget : s.filters.get x = some filter)
    (state : FilterRuntimeState) :
    s.Prunes (s.set_filter_state x filter state) :=
  .rewrite hget s.parts rfl rfl rfl

theorem start_filter_runtime_prunes (s : DemuxRuntime κ ε) (x : Int) :
    s.Prunes (s.start_filter_runtime env x).2 := by
  unfold start_filter_runtime
  split
  · exact .refl s
  next hget =>
  split
  · split
    · exact .refl s
    · exact set_filter_state_prunes hget _
  · split
    · exact .refl s
    · exact set_filter_state_prunes hget _
  all_goals exact .refl s

theorem stop_filter_runtime_prunes (s : DemuxRuntime κ ε) (x : Int) :
    s.Prunes (s.stop_filter_runtime env x).2 := by
  unfold stop_filter_runtime
  split
  · exact .refl s
  next hget =>
  split
  · exact (set_filter_state_prunes hget _).trans (.parts _ _)
  all_goals exact .refl s

/-! ## The check for a cycle -/

/-- A walk that ends without a find has no way to the sink. -/
theorem source_connection_walk_false {fuel : Nat} {current : Int} {visited : List Int}
    (h : s.source_connection_walk x fuel current visited = some false) :
    ¬ Within s.parent current x := by
  induction fuel generalizing current visited with
  | zero => cases h
  | succ fuel ih =>
    unfold source_connection_walk at h
    split at h
    · cases h
    next hnew =>
    have hne : current ≠ x := fun heq => hnew (.inl heq)
    intro hpath
    rcases ReflTransGen.cases_head hpath with heq | ⟨y, hedge, hrest⟩
    · exact hne heq
    obtain ⟨filter, hget, hsource⟩ := of_parent hedge
    rw [hget] at h
    dsimp only at h
    cases hcase : filter.source with
    | DemuxInput =>
      rw [hcase] at hsource
      cases hsource
    | SourceFilter source_filter_id _ =>
      rw [hcase] at h hsource
      obtain rfl := Option.some.inj hsource
      exact ih h hrest

theorem source_connection_walk_returns {fuel : Nat} {current : Int} {visited : List Int}
    (hnodup : visited.Nodup) (hsub : visited ⊆ s.ids)
    (hfuel : s.ids.length < fuel + visited.length) :
    (s.source_connection_walk x fuel current visited).isSome := by
  induction fuel generalizing current visited with
  | zero =>
    have hle : visited.length ≤ s.ids.length := (subperm_of_subset hnodup hsub).length_le
    omega
  | succ fuel ih =>
    unfold source_connection_walk
    split
    · rfl
    next hnew =>
    split
    · rfl
    next hget =>
    split
    · rfl
    refine ih (nodup_cons.mpr ⟨fun hmem => hnew (.inr hmem), hnodup⟩)
      (cons_subset.mpr ⟨mem_ids.mpr ⟨_, hget⟩, hsub⟩) ?_
    rw [length_cons]
    omega

theorem source_connection_would_cycle_returns (s : DemuxRuntime κ ε) (x y : Int) :
    (s.source_connection_would_cycle x y).isSome :=
  source_connection_walk_returns nodup_nil (nil_subset _)
    (by rw [length_ids]; exact Nat.lt_succ_self _)

/-- A source that passes is a raw filter that does not read from the sink, however far up. -/
theorem validate_next_source.spec (s : DemuxRuntime κ ε) (x : Int) (sink : FilterRuntime κ)
    (y : Int) :
    ∃ result, s.validate_next_source x sink y = some result ∧
      ∀ source, result = .ok source → source.source_filter_id = some y ∧
        ¬ Within s.parent y x ∧
        ∃ filter, s.filters.get y = some filter ∧ filter.open_kind = .Raw := by
  unfold validate_next_source
  split
  · exact ⟨_, rfl, nofun⟩
  obtain ⟨cycle, hcycle⟩ :=
    Option.isSome_iff_exists.mp (s.source_connection_would_cycle_returns x y)
  rw [hcycle]
  cases cycle with
  | true => exact ⟨_, rfl, nofun⟩
  | false =>
    refine ⟨_, rfl, fun source h => ?_⟩
    split at h
    · cases h
    next filter hget =>
    split at h
    · cases h
    split at h
    · cases h
    next hraw =>
    split at h
    · cases h
    split at h
    · cases h
    cases h
    exact ⟨rfl, source_connection_walk_false hcycle, filter, hget, not_not.mp hraw⟩

/-! ## Registering, removing and connecting -/

/-- Every filter that another one reads from is there, and is a raw filter. -/
def RawSources : Prop :=
  ∀ x y, self.parent x = some y →
    ∃ filter, self.filters.get y = some filter ∧ filter.open_kind = .Raw

theorem Prunes.raw_sources (h : s.Prunes s') (hraw : s.RawSources) : s'.RawSources := by
  intro x y hparent
  obtain ⟨filter, hget, hkind⟩ := hraw x y (h.parent hparent)
  have hy := h.shape y
  rw [hget, Option.map_some, Option.map_eq_some_iff] at hy
  obtain ⟨filter', hget', hshape⟩ := hy
  exact ⟨filter', hget', (congrArg Prod.snd hshape).trans hkind⟩

theorem apply_filter_source_stream_boundary.spec (hsound : s.Sound) (x : Int) :
    ∃ out, s.apply_filter_source_stream_boundary env x = some out ∧ s.Prunes out.2 ∧
      (out.1 = .ok () → out.2.filters = s.filters) := by
  unfold apply_filter_source_stream_boundary
  split
  · exact ⟨_, rfl, .parts s _, fun _ => rfl⟩
  next parts _ =>
  have hparts := Prunes.parts s parts
  unfold clear_existing_filter_queue
  split
  · exact ⟨_, rfl, hparts, fun _ => rfl⟩
  split
  · next error parts' _ =>
    obtain ⟨t, hreturns, hfades, -⟩ :=
      quarantine_filter_runtime_returns env ((Prunes.parts s parts').sound hsound) x
    refine ⟨(.error error, t), ?_, (Prunes.parts s parts').trans hfades.prunes,
      nofun⟩
    rw [fail_isolated, hreturns]
    rfl
  · exact ⟨_, rfl, .parts s _, fun _ => rfl⟩

/-- The new source of a sink is committed, or the call only prunes. -/
theorem commit_source_boundary.spec (hsound : s.Sound) (x : Int) (sink : FilterRuntime κ)
    (next : Nat) (source : FilterSource) :
    ∃ out, s.commit_source_boundary env x sink next source = some out ∧
      (s.Prunes out.2 ∨ ∃ filter, s.filters.get x = some filter ∧
        out.2.filters = s.filters.insert x
          { filter with source, source_relation_generation := next }) := by
  unfold commit_source_boundary
  split
  · exact ⟨_, rfl, .inl (.refl s)⟩
  obtain ⟨⟨outcome, t⟩, hout, hprunes, hok⟩ :=
    apply_filter_source_stream_boundary.spec env hsound x
  rw [hout]
  have ht := hprunes.sound hsound
  cases outcome with
  | error error =>
    obtain ⟨out, hfail, hisolated⟩ := fail_isolated_goes env ht x error
    exact ⟨out, hfail, .inl (hprunes.trans hisolated)⟩
  | ok _ =>
    have hsame : t.filters = s.filters := hok rfl
    dsimp only
    split
    · next error _ =>
      obtain ⟨out, hfail, hisolated⟩ := fail_isolated_goes env ht x error
      exact ⟨out, hfail, .inl (hprunes.trans hisolated)⟩
    next hcommit =>
    refine ⟨_, rfl, .inr ?_⟩
    unfold commit_filter_source_after_boundary at hcommit
    split at hcommit
    · cases hcommit
    next filter hget =>
    split at hcommit
    · cases hcommit
    next hcommitted =>
    obtain rfl := commit_source.spec hcommitted
    cases hcommit
    exact ⟨filter, hsame ▸ hget, by rw [hsame]⟩

/-- The filters with a new source for one of them. -/
theorem parent_insert (h : s'.filters = s.filters.insert x filter) (y : Int) :
    s'.parent y = if y = x then filter.source.source_filter_id else s.parent y := by
  rw [DemuxRuntime.parent, h, OrdMap.get_insert]
  split <;> rfl

/-- A sink is connected to a source from which there is no way up to it. -/
theorem connected_sound (hsound : s.Sound) (hget : s.filters.get x = some filter)
    (h : s'.filters = s.filters.insert x { filter with source, source_relation_generation := next })
    (hsource : source.source_filter_id = some y) (hfree : ¬ Within s.parent y x) : s'.Sound where
  keyed {z found} hfound := by
    rw [h] at hfound
    rcases OrdMap.get_of_insert hfound with ⟨rfl, rfl⟩ | hfound
    · exact (hsound.keyed hget :)
    · exact hsound.keyed hfound
  acyclic := by
    have hsub : ∀ a b, a ≠ x → s'.parent a = some b → s.parent a = some b := by
      intro a b ha hab
      rwa [parent_insert h, if_neg ha] at hab
    refine hsound.acyclic.graft hsub fun b hb hback => hfree ?_
    rw [parent_insert h, if_pos rfl, hsource] at hb
    obtain rfl := Option.some.inj hb
    exact Within.of_graft hsub hback

theorem connected_raw_sources (hraw : s.RawSources) {source_filter : FilterRuntime κ}
    (h : s'.filters = s.filters.insert x { filter with source, source_relation_generation := next })
    (hsource : source.source_filter_id = some y) (hget : s.filters.get x = some filter)
    (hy : s.filters.get y = some source_filter) (hkind : source_filter.open_kind = .Raw) :
    s'.RawSources := by
  -- the sink keeps its kind, also where it is the source of others
  have hkeep : ∀ w, (∃ f, s.filters.get w = some f ∧ f.open_kind = .Raw) →
      ∃ f, s'.filters.get w = some f ∧ f.open_kind = .Raw := by
    rintro w ⟨f, hf, hfraw⟩
    rw [h, OrdMap.get_insert]
    split
    · next heq =>
      subst heq
      cases hget.symm.trans hf
      exact ⟨_, rfl, hfraw⟩
    · exact ⟨f, hf, hfraw⟩
  intro z w hparent
  rw [parent_insert h] at hparent
  split at hparent
  · cases hsource.symm.trans hparent
    exact hkeep y ⟨source_filter, hy, hkind⟩
  · exact hkeep w (hraw z w hparent)

/-- A call on filters that are sound returns, and leaves them sound. -/
def Keeps (s : DemuxRuntime κ ε) (fresh : Prop) (m : DemuxAnswer κ ε) : Prop :=
  ∃ out, m = some out ∧ out.2.Sound ∧ (fresh → s.RawSources → out.2.RawSources)

theorem Goes.keeps {m : DemuxAnswer κ ε} (h : s.Goes m) (hsound : s.Sound)
    (fresh : Prop) : s.Keeps fresh m := by
  obtain ⟨out, hout, hprunes⟩ := h
  exact ⟨out, hout, hprunes.sound hsound, fun _ => hprunes.raw_sources⟩

section

variable (hsound : s.Sound)
include hsound

theorem apply_filter_source_boundary_change_keeps (x : Int) (next_source : Option Int) :
    s.Keeps True (s.apply_filter_source_boundary_change env x next_source) := by
  unfold apply_filter_source_boundary_change
  split
  · exact (Goes.stay (.refl s) _).keeps hsound _
  next sink _ =>
  split
  · exact (Goes.stay (.refl s) _).keeps hsound _
  split
  · exact (fail_isolated_goes env hsound x _).keeps hsound _
  next next _ =>
  cases next_source with
  | none =>
    obtain ⟨out, hout, hprunes | ⟨filter, hget, hfilters⟩⟩ :=
      commit_source_boundary.spec env hsound x sink next .DemuxInput
    · exact Goes.keeps ⟨out, hout, hprunes⟩ hsound _
    · exact Goes.keeps ⟨out, hout, .insert hget hfilters rfl rfl (.inl rfl)⟩ hsound _
  | some y =>
    obtain ⟨result, hresult, hvalid⟩ := validate_next_source.spec s x sink y
    dsimp only
    rw [hresult]
    cases result with
    | error error => exact (Goes.stay (.refl s) _).keeps hsound _
    | ok source =>
      obtain ⟨hsource, hfree, source_filter, hy, hkind⟩ := hvalid source rfl
      obtain ⟨out, hout, hprunes | ⟨filter, hget, hfilters⟩⟩ :=
        commit_source_boundary.spec env hsound x sink next source
      · exact Goes.keeps ⟨out, hout, hprunes⟩ hsound _
      · exact ⟨out, hout, connected_sound hsound hget hfilters hsource hfree,
          fun _ hraw => connected_raw_sources hraw hfilters hsource hget hy hkind⟩

theorem registered_sound {open_kind : PipelineOpenKind}
    (h : s'.filters = s.filters.insert x (.new_open_request x s.generation open_kind)) :
    s'.Sound ∧ (s.filters.get x = none → s.RawSources → s'.RawSources) := by
  have hparent : ∀ {a b}, s'.parent a = some b → s.parent a = some b := by
    intro a b hab
    rw [parent_insert h] at hab
    split at hab
    · cases hab
    · exact hab
  refine ⟨⟨fun {z found} hfound => ?_, hsound.acyclic.mono fun a b hab => hparent hab⟩,
    fun hfresh hraw a b hab => ?_⟩
  · rw [h] at hfound
    rcases OrdMap.get_of_insert hfound with ⟨rfl, rfl⟩ | hfound
    · rfl
    · exact hsound.keyed hfound
  · obtain ⟨filter, hget, hkind⟩ := hraw a b (hparent hab)
    refine ⟨filter, ?_, hkind⟩
    rw [h, OrdMap.get_insert, if_neg]
    · exact hget
    · rintro rfl
      rw [hfresh] at hget
      cases hget

theorem register_filter_keeps (x : Int) (open_kind : PipelineOpenKind) :
    s.Keeps (s.filters.get x = none)
      (some (s.register_filter_from_typed_request env x open_kind)) := by
  refine ⟨_, rfl, ?_⟩
  unfold register_filter_from_typed_request register_filter
  rw [if_neg (by simp [FilterRuntime.new_open_request, FilterRuntimeState.is_closed_or_failed])]
  split
  · next parts _ =>
    exact ⟨(Prunes.parts s parts).sound hsound, fun _ => (Prunes.parts s parts).raw_sources⟩
  · exact registered_sound hsound rfl

theorem removed_sound (h : s'.filters = s.filters.erase x) :
    s'.Sound ∧ ((∀ z, s.parent z ≠ some x) → s.RawSources → s'.RawSources) := by
  have hget : ∀ {z filter}, s'.filters.get z = some filter → s.filters.get z = some filter := by
    intro z filter hz
    rw [h] at hz
    exact (OrdMap.get_of_erase hz).2
  have hparent : ∀ {a b}, s'.parent a = some b → s.parent a = some b := by
    intro a b hab
    obtain ⟨filter, ha, hsource⟩ := of_parent hab
    exact (parent_eq (hget ha)).trans hsource
  refine ⟨⟨fun hfound => hsound.keyed (hget hfound),
    hsound.acyclic.mono fun a b hab => hparent hab⟩, fun hleft hraw a b hab => ?_⟩
  obtain ⟨filter, hb, hkind⟩ := hraw a b (hparent hab)
  refine ⟨filter, ?_, hkind⟩
  rw [h, OrdMap.get_erase, if_neg]
  · exact hb
  · rintro rfl
    exact hleft a (hparent hab)

theorem remove_filter_keeps (x : Int) : s.Keeps True (s.remove_filter env x) := by
  unfold remove_filter
  split
  · exact (Goes.stay (.refl s) _).keeps hsound _
  obtain ⟨⟨outcome, t⟩, hout, hprunes⟩ := reset_source_filter_downstreams_goes env x none
    (s.source_filter_downstream_ids x) s hsound
  rw [disconnect_source_filter_downstreams, hout]
  cases outcome with
  | error error => exact (Goes.stay hprunes _).keeps hsound _
  | ok _ =>
    dsimp only
    split
    · exact (Goes.stay (hprunes.trans (.parts t _)) _).keeps hsound _
    next parts _ =>
    have hleft : ∀ z, t.parent z ≠ some x := fun z hz =>
      reset_source_filter_downstreams_leaves env hsound hout z
        ((mem_source_filter_downstream_ids hsound).mpr (hprunes.parent hz)) hz
    have hremoved := removed_sound (hprunes.sound hsound)
      (rfl : ({ t with filters := t.filters.erase x, parts } : DemuxRuntime κ ε).filters =
        t.filters.erase x)
    exact ⟨_, rfl, hremoved.1, fun _ hraw => hremoved.2 hleft (hprunes.raw_sources hraw)⟩

end

/-- The id of a filter to register is not taken. -/
def Fresh : DemuxCall κ → Prop
  | .Register filter_id _ => self.filters.get filter_id = none
  | _ => True

/-- No call runs on for ever, and none closes a cycle. -/
theorem call_keeps [DecidableEq κ] (hsound : s.Sound) (c : DemuxCall κ) :
    s.Keeps (s.Fresh c) (s.call env c) := by
  cases c with
  | Register x open_kind => exact register_filter_keeps env hsound x open_kind
  | Remove x => exact remove_filter_keeps env hsound x
  | Connect x y => exact apply_filter_source_boundary_change_keeps env hsound x (some y)
  | Disconnect x => exact apply_filter_source_boundary_change_keeps env hsound x none
  | Configure x open_kind config pes_stream_id section_config =>
    exact (configure_filter_runtime_goes env hsound x open_kind config pes_stream_id
      section_config).keeps hsound _
  | Flush x => exact (flush_filter_runtime_goes env hsound x).keeps hsound _
  | Start x => exact (Goes.stay (start_filter_runtime_prunes env s x) _).keeps hsound _
  | Stop x => exact (Goes.stay (stop_filter_runtime_prunes env s x) _).keeps hsound _

end DemuxRuntime

end tuner_hal2_demux
