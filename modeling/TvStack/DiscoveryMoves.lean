-- What the sections of a table do to the book of the PMTs: the engine reads a
-- section as a list of moves, and the collector adds the moves of a version that
-- is over.
import TvStack.DiscoveryBook
import TvStack.ServiceDiscovery

open Words List

namespace arib_si_engine_rs.service_discovery

open arib_si_engine_rs.sections

/-! ## The moves of a section -/

inductive Move
  | touch (tsid onid n : Nat)
  | announce (tsid n pid : Nat)
  | deliver (pid n : Nat) (info : PendingPmtInfo)
  | forget
  | retire (pid n : Nat)

noncomputable def PmtBook.play (b : PmtBook) : Move → PmtBook
  | .touch tsid onid n => b.touch tsid onid n
  | .announce tsid n pid => b.announce tsid n pid
  | .deliver pid n info => b.deliver pid n info
  | .forget => b.forget
  | .retire pid n => b.retire pid n

variable (pid : Nat) (bytes : List UInt8)

/-- The services that the transports of a NIT or a BAT list. -/
def transport_services : List (Nat × Nat × Nat) :=
  match transport_loop bytes with
  | none => []
  | some loop => loop.entries.flatMap fun entry =>
    (parse_service_ids_from_descriptors entry.descriptors).map fun n => (entry.tsid, entry.onid, n)

/-- The services that an SDT lists. -/
def sdt_services : List (Nat × Nat × Nat) :=
  (sdt_entries bytes).map fun entry => (extension_of bytes, sdt_onid bytes, entry.service_id)

/-- The services that a section names. -/
def named_services : List (Nat × Nat × Nat) :=
  let table_id := byte bytes 0
  if ((table_id = 0x40 ∨ table_id = 0x41) ∧ pid = 0x0010) ∨ (table_id = 0x4a ∧ pid = 0x0011) then
    transport_services bytes
  else if (table_id = 0x42 ∨ table_id = 0x46) ∧ pid = 0x0011 then sdt_services bytes
  else []

/-- What a section does to the book. -/
def section_moves : List Move :=
  if byte bytes 0 = 0x00 ∧ pid = 0x0000 then
    (pat_entries bytes).map fun entry => .announce (extension_of bytes) entry.1 entry.2
  else if byte bytes 0 = 0x02 then
    (ServiceDiscoveryEngine.read_pmt pid bytes).toList.map fun read =>
      .deliver pid (extension_of bytes) read.pending
  else (named_services pid bytes).map fun key => .touch key.1 key.2.1 key.2.2

namespace ServiceDiscoveryEngine

variable {e e' e'' : ServiceDiscoveryEngine} {tsid onid n pid : Nat} {decode : AribStringDecoder}
  {α : Type} {f : ServiceDiscoveryEngine → α → ServiceDiscoveryEngine}

/-- The engine goes on as the book does with these moves. -/
def Plays (e e' : ServiceDiscoveryEngine) (moves : List Move) : Prop :=
  e.Keyed → e'.book = moves.foldl PmtBook.play e.book ∧ e'.Keyed

theorem Plays.trans {moves more : List Move} (h : Plays e e' moves) (h' : Plays e' e'' more) :
    Plays e e'' (moves ++ more) := by
  intro he
  obtain ⟨hbook, hkeyed⟩ := h he
  obtain ⟨hbook', hkeyed'⟩ := h' hkeyed
  rw [foldl_append, ← hbook]
  exact ⟨hbook', hkeyed'⟩

theorem Plays.foldl (moves : α → List Move) (h : ∀ e x, Plays e (f e x) (moves x))
    (l : List α) (e : ServiceDiscoveryEngine) : Plays e (l.foldl f e) (l.flatMap moves) := by
  induction l generalizing e with
  | nil => exact fun he => ⟨rfl, he⟩
  | cons x rest ih => exact (h e x).trans (ih (f e x))

theorem Plays.foldl_one (move : α → Move) (h : ∀ e x, Plays e (f e x) [move x])
    (l : List α) (e : ServiceDiscoveryEngine) : Plays e (l.foldl f e) (l.map move) := by
  rw [map_eq_flatMap]
  exact Plays.foldl (fun x => [move x]) h l e

section

variable (e)

theorem plays_update_transport (tsid onid : Nat)
    (change : DiscoveredTransport → DiscoveredTransport) :
    Plays e (e.update_transport tsid onid change) [] :=
  fun he => ⟨rfl, he.of_services rfl⟩

theorem plays_change_services (chosen : DiscoveredService → Bool)
    {change : DiscoveredService → DiscoveredService} (h : ∀ s, (change s).pmt = s.pmt)
    (hkey : KeepsKey change) : Plays e (e.change_services chosen change) [] :=
  fun he => ⟨book_change_services chosen h, he.change_services chosen hkey⟩

theorem plays_touch (tsid onid n : Nat) {change : DiscoveredService → DiscoveredService}
    (h : ∀ s, (change s).pmt = s.pmt) (hkey : KeepsKey change) :
    Plays e ((e.update_service tsid onid n change).apply_pending_pmt_to_service tsid onid n)
      [.touch tsid onid n] := by
  refine fun he => ⟨?_, (he.update_service hkey).apply_pending⟩
  rw [book_apply_pending, book_name_service h]
  rfl

variable (bytes : List UInt8)

theorem plays_parse_cat : Plays e (e.parse_cat bytes) [] := by
  unfold parse_cat
  split
  · exact fun he => ⟨rfl, he⟩
  · exact fun he => ⟨rfl, he.of_services rfl⟩

theorem plays_add_listed_service (tsid onid : Nat) (service : Nat × UInt8) :
    Plays e (e.add_listed_service tsid onid service) [.touch tsid onid service.1] := by
  let change (s : DiscoveredService) := { s with service_type := some service.2 }
  have hpmt : ∀ s, (change s).pmt = s.pmt := fun _ => rfl
  have hkey : KeepsKey change := fun _ => ⟨rfl, rfl, rfl⟩
  refine fun he => ⟨?_, ?_⟩
  · have hname : (e.update_service tsid onid service.1 change).book =
      e.book.name tsid onid service.1 := book_name_service hpmt
    unfold add_listed_service
    rw [book_apply_pending]
    exact congrArg (PmtBook.settle · tsid onid service.1) hname
  · apply Keyed.apply_pending
    exact (he.update_service hkey).of_services rfl

theorem plays_propagate (tsid onid : Nat) :
    Plays e (e.propagate_transport_metadata_to_services tsid onid) [] := by
  unfold propagate_transport_metadata_to_services
  split
  · exact fun he => ⟨rfl, he⟩
  · exact plays_change_services e _ (fun _ => rfl) fun _ => ⟨rfl, rfl, rfl⟩

end

/-- The services of one transport of a NIT or a BAT. -/
def entry_moves (entry : TransportEntry) : List Move :=
  (parse_service_ids_from_descriptors entry.descriptors).map fun n => .touch entry.tsid entry.onid n

theorem plays_parse_nit_entry (decode : AribStringDecoder) (e : ServiceDiscoveryEngine)
    (descriptors : List UInt8) (entry : TransportEntry) :
    Plays e (e.parse_nit_entry decode descriptors entry) (entry_moves entry) := by
  have hlist := fun e => Plays.foldl_one (f := fun e service =>
    add_listed_service e entry.tsid entry.onid service)
    (fun service => .touch entry.tsid entry.onid service.1)
    (fun e service => plays_add_listed_service e entry.tsid entry.onid service)
    (parse_service_list entry.descriptors) e
  have hmoves : entry_moves entry =
      [] ++ (parse_service_list entry.descriptors).map (fun service =>
        Move.touch entry.tsid entry.onid service.1) ++ [] ++ [] := by
    simp [entry_moves, parse_service_ids_from_descriptors]
  rw [hmoves]
  exact (((plays_update_transport _ _ _ _).trans (hlist _)).trans
    (plays_update_transport _ _ _ _)).trans (plays_propagate _ _ _)

theorem plays_transport_loop {f : ServiceDiscoveryEngine → TransportEntry → ServiceDiscoveryEngine}
    {bytes : List UInt8} {loop : TransportLoop} (hloop : transport_loop bytes = some loop)
    (h : ∀ e entry, Plays e (f e entry) (entry_moves entry)) :
    Plays e (loop.entries.foldl f e)
      ((transport_services bytes).map fun key => .touch key.1 key.2.1 key.2.2) := by
  have hmoves : (transport_services bytes).map (fun key => Move.touch key.1 key.2.1 key.2.2) =
      loop.entries.flatMap entry_moves := by
    unfold transport_services
    rw [hloop, map_flatMap]
    simp only [map_map]
    rfl
  rw [hmoves]
  exact Plays.foldl entry_moves h _ e

section

variable (decode)

theorem plays_parse_nit (e : ServiceDiscoveryEngine) (bytes : List UInt8) :
    Plays e (e.parse_nit decode bytes)
      ((transport_services bytes).map fun key => .touch key.1 key.2.1 key.2.2) := by
  unfold parse_nit
  split
  · rename_i hnone
    rw [transport_services, hnone]
    exact fun he => ⟨rfl, he⟩
  · rename_i loop hloop
    exact plays_transport_loop hloop fun e entry => plays_parse_nit_entry decode e _ entry

theorem plays_parse_bat (e : ServiceDiscoveryEngine) (bytes : List UInt8) :
    Plays e (e.parse_bat decode bytes)
      ((transport_services bytes).map fun key => .touch key.1 key.2.1 key.2.2) := by
  unfold parse_bat
  split
  · rename_i hnone
    rw [transport_services, hnone]
    exact fun he => ⟨rfl, he⟩
  · rename_i loop hloop
    refine plays_transport_loop hloop fun e entry => Plays.foldl_one _ (fun e n => ?_) _ e
    exact plays_touch e entry.tsid entry.onid n (fun _ => rfl) fun _ => ⟨rfl, rfl, rfl⟩

/-- The names of an SDT are none of the PMT's facts. -/
theorem apply_sdt_descriptors_frame (items : List (UInt8 × List UInt8)) (s : DiscoveredService) :
    (apply_sdt_descriptors decode s items).pmt = s.pmt ∧
      (apply_sdt_descriptors decode s items).transport_stream_id = s.transport_stream_id ∧
      (apply_sdt_descriptors decode s items).original_network_id = s.original_network_id ∧
      (apply_sdt_descriptors decode s items).service_id = s.service_id := by
  unfold apply_sdt_descriptors
  induction items generalizing s with
  | nil => exact ⟨rfl, rfl, rfl, rfl⟩
  | cons item items ih =>
    unfold Items.follow sdt_step
    dsimp only
    split_ifs
    · exact ⟨rfl, rfl, rfl, rfl⟩
    · exact ih _
    · exact ⟨rfl, rfl, rfl, rfl⟩
    · exact ih _
    · exact ih s

theorem plays_parse_sdt (e : ServiceDiscoveryEngine) (bytes : List UInt8) :
    Plays e (e.parse_sdt decode bytes)
      ((sdt_services bytes).map fun key => .touch key.1 key.2.1 key.2.2) := by
  rw [sdt_services, map_map]
  refine Plays.foldl_one _ (fun e entry => ?_) _ e
  refine (plays_update_transport e _ _ _).trans (plays_touch _ _ _ _ ?_ ?_)
  · exact fun s => (apply_sdt_descriptors_frame decode _ _).1
  · exact fun s => (apply_sdt_descriptors_frame decode _ _).2

end

/-- The facts of a PMT that no PAT has announced change nothing. -/
theorem deliver_unannounced {b : PmtBook} (h : ∀ t, b.programs t n ≠ some pid)
    (info : PendingPmtInfo) : b.deliver pid n info = b := by
  refine PmtBook.ext rfl ?_ ?_ ?_
  · simp only [PmtBook.deliver, h, and_false, if_false]
  · simp only [PmtBook.deliver, h, false_and, and_false, if_false]
  · simp only [PmtBook.deliver, h, false_and, and_false, if_false]

theorem plays_parse_pmt (e : ServiceDiscoveryEngine) (pid : Nat) (bytes : List UInt8) :
    Plays e (e.parse_pmt pid bytes) ((read_pmt pid bytes).toList.map fun read =>
      .deliver pid (extension_of bytes) read.pending) := by
  intro he
  cases hread : read_pmt pid bytes with
  | none =>
    rw [parse_pmt, hread]
    exact ⟨rfl, he⟩
  | some read => exact book_parse_pmt he hread

/-- A PMT on a PID that no PAT has announced is not read, and would change nothing. -/
theorem plays_unknown_pmt {pid : Nat} (h : ¬ e.is_known_pmt_pid pid) (bytes : List UInt8) :
    Plays e e ((read_pmt pid bytes).toList.map fun read =>
      .deliver pid (extension_of bytes) read.pending) := by
  intro he
  refine ⟨?_, he⟩
  cases read_pmt pid bytes with
  | none => rfl
  | some read =>
    refine (deliver_unannounced (fun t ht => h ?_) read.pending).symm
    exact contains_iff_mem.mpr (FinMap.mem_values.mpr ⟨(t, _), ht⟩)

/-- The engine does with a section what the book does with its moves. -/
theorem plays_push_section (decode : AribStringDecoder) (e : ServiceDiscoveryEngine) {pid : Nat}
    {bytes : List UInt8} (h : valid_current_section bytes) :
    Plays e (e.push_section decode pid bytes) (section_moves pid bytes) := by
  unfold push_section section_moves
  rw [if_neg (not_not_intro h)]
  dsimp only
  split
  · exact Plays.foldl_one _ (fun _ _ he => ⟨book_parse_pat_entry, he.parse_pat_entry⟩) _ e
  by_cases hpmt : byte bytes 0 = 0x02
  · split
    · exact plays_parse_pmt e pid bytes
    rename_i hunknown
    simp only [hpmt, true_and] at hunknown
    simp only [hpmt]
    exact plays_unknown_pmt hunknown bytes
  rw [if_neg fun hboth => hpmt hboth.1]
  unfold named_services
  simp only [ite_or]
  split
  · rename_i hcat
    simp only [hcat]
    exact plays_parse_cat e bytes
  split
  · exact plays_parse_nit decode e bytes
  split
  · exact plays_parse_bat decode e bytes
  split
  · exact plays_parse_sdt decode e bytes
  · exact fun he => ⟨rfl, he⟩

/-! ## What a new version takes away -/

theorem plays_foldl_nothing (h : ∀ e x, Plays e (f e x) []) (l : List α)
    (e : ServiceDiscoveryEngine) : Plays e (l.foldl f e) [] := by
  have hfold := Plays.foldl (fun _ => []) h l e
  rwa [flatMap_eq_nil_iff.mpr fun _ _ => rfl] at hfold

variable (scopes : List (Nat × Nat))

theorem plays_invalidate_nit (e : ServiceDiscoveryEngine) :
    Plays e (e.invalidate_nit_transport_metadata scopes) [] := by
  refine plays_foldl_nothing (fun e scope => ?_) scopes e
  refine (?_ : Plays e _ []).trans
    (plays_change_services _ _ (fun _ => rfl) fun _ => ⟨rfl, rfl, rfl⟩)
  split
  · exact fun he => ⟨rfl, he⟩
  · exact plays_update_transport _ _ _ _

theorem plays_invalidate_bat (e : ServiceDiscoveryEngine) :
    Plays e (e.invalidate_bat_transport_membership scopes) [] := by
  refine plays_foldl_nothing (fun e _ => ?_) scopes e
  exact plays_change_services e _ (fun _ => rfl) fun _ => ⟨rfl, rfl, rfl⟩

end ServiceDiscoveryEngine

/-- What a new version of a table takes away from the book. -/
def change_moves (header : TrackedHeader) : List Move :=
  if pid = 0x0000 ∧ header.table_id = 0x00 then [.forget]
  else if header.table_id = 0x02 then [.retire pid header.extension]
  else []

namespace ServiceDiscoveryCollector

open ServiceDiscoveryEngine

variable (c : ServiceDiscoveryCollector) (decode : AribStringDecoder) {pid : Nat}
  {header : TrackedHeader} {bytes : List UInt8}

theorem plays_invalidate_table (e : ServiceDiscoveryEngine) :
    Plays e (e.invalidate_table pid header.table_id header.extension)
      (change_moves pid header) := by
  unfold invalidate_table change_moves
  split
  · rename_i hcat
    simp only [hcat]
    exact fun he => ⟨rfl, he.of_services rfl⟩
  split
  · exact fun he => ⟨book_invalidate_pat, he.invalidate_pat⟩
  split
  · exact fun he => ⟨book_invalidate_pmt he, he.invalidate_pmt⟩
  · exact fun he => ⟨rfl, he⟩

theorem plays_invalidate_scopes :
    Plays c.engine (c.invalidate_scopes pid header bytes).engine [] := by
  unfold invalidate_scopes
  split
  · exact plays_invalidate_nit _ _
  split
  · unfold invalidate_sdt_scope
    split
    · exact fun he => ⟨rfl, he⟩
    rename_i scope _
    have hsdt : Plays c.engine (c.engine.invalidate_sdt_service_metadata scope.1 scope.2) [] :=
      plays_change_services _ _ (fun _ => rfl) fun _ => ⟨rfl, rfl, rfl⟩
    unfold drop_sdt_scope
    split <;> exact hsdt
  split
  · exact plays_invalidate_bat _ _
  · exact fun he => ⟨rfl, he⟩

theorem invalidate_scopes_trackers :
    (c.invalidate_scopes pid header bytes).section_trackers = c.section_trackers := by
  unfold invalidate_scopes
  split
  · rfl
  split
  · unfold invalidate_sdt_scope
    split
    · rfl
    · unfold drop_sdt_scope
      split <;> rfl
  split <;> rfl

theorem plays_invalidate_changed_table :
    Plays c.engine (c.invalidate_changed_table pid header bytes).engine (change_moves pid header) :=
  (plays_invalidate_scopes { c with
    section_trackers := c.section_trackers.erase (header.key pid) }).trans
      (plays_invalidate_table _)

theorem track_transport_scopes_frame (header : TrackedHeader) (bytes : List UInt8) :
    (c.track_transport_scopes header bytes).engine = c.engine ∧
      (c.track_transport_scopes header bytes).section_trackers = c.section_trackers := by
  unfold track_transport_scopes
  split
  · split <;> exact ⟨rfl, rfl⟩
  split
  · split <;> exact ⟨rfl, rfl⟩
  split
  · split
    · exact ⟨rfl, rfl⟩
    · unfold add_sdt_scope
      split <;> exact ⟨rfl, rfl⟩
  · exact ⟨rfl, rfl⟩

/-- The tracker that observes a section: a new version starts with an empty one. -/
def observer (pid : Nat) (header : TrackedHeader) : SectionTracker :=
  if c.section_version_changed pid header then {} else (c.tracker pid header).getD {}

/-- What the tracker of a section is after it, and whether the section is new. -/
def observed (pid : Nat) (header : TrackedHeader) (bytes : List UInt8) : SectionTracker × Bool :=
  (c.observer pid header).observe header.version header.number header.last bytes

/-- What a section that its tracker accepts does to the book. -/
def moves (pid : Nat) (header : TrackedHeader) (bytes : List UInt8) : List Move :=
  (if c.section_version_changed pid header then change_moves pid header else []) ++
    if (c.observed pid header bytes).2 then section_moves pid bytes
    else if header.table_id = 0x02 ∧ (c.observed pid header bytes).1.inconsistent then
      [.retire pid header.extension]
    else []

/-- The collector before it observes a section: the facts of an older version are gone. -/
def renewed (pid : Nat) (header : TrackedHeader) (bytes : List UInt8) : ServiceDiscoveryCollector :=
  if c.section_version_changed pid header then c.invalidate_changed_table pid header bytes else c

theorem plays_renewed : Plays c.engine (c.renewed pid header bytes).engine
    (if c.section_version_changed pid header then change_moves pid header else []) := by
  unfold renewed
  split
  · exact plays_invalidate_changed_table c
  · exact fun he => ⟨rfl, he⟩

theorem invalidate_changed_table_trackers :
    (c.invalidate_changed_table pid header bytes).section_trackers =
      c.section_trackers.erase (header.key pid) :=
  invalidate_scopes_trackers
    { c with section_trackers := c.section_trackers.erase (header.key pid) }

variable (k : Nat × UInt8 × Nat × Nat)

theorem renewed_trackers (h : k ≠ header.key pid) :
    (c.renewed pid header bytes).section_trackers.get k = c.section_trackers.get k := by
  unfold renewed
  split
  · rw [invalidate_changed_table_trackers, FinMap.get_erase, if_neg h]
  · rfl

/-- The collector after it observed a section. -/
def tracked (pid : Nat) (header : TrackedHeader) (bytes : List UInt8) : ServiceDiscoveryCollector :=
  { c.renewed pid header bytes with
    section_trackers := (c.renewed pid header bytes).section_trackers.insert (header.key pid)
      (c.observed pid header bytes).1 }

theorem track_renewed : (c.renewed pid header bytes).track_section pid header bytes =
    (c.tracked pid header bytes, (c.observed pid header bytes).2) := by
  have hobserver :
      ((c.renewed pid header bytes).tracker pid header).getD {} = c.observer pid header := by
    unfold renewed observer tracker
    split
    · rw [invalidate_changed_table_trackers, FinMap.get_erase, if_pos rfl]
      rfl
    · rfl
  unfold track_section
  rw [hobserver]
  rfl

theorem tracked_trackers :
    (c.tracked pid header bytes).section_trackers.get k =
      if k = header.key pid then some (c.observed pid header bytes).1
      else c.section_trackers.get k := by
  refine (FinMap.get_insert _ _ _).trans ?_
  split
  · rfl
  · rename_i hk
    exact renewed_trackers c k hk

theorem push_tracked_eq : c.push_tracked decode pid header bytes =
    if (c.observed pid header bytes).2 then
      { (c.tracked pid header bytes).track_transport_scopes header bytes with
        engine := ((c.tracked pid header bytes).track_transport_scopes header
          bytes).engine.push_section decode pid bytes }
    else (c.tracked pid header bytes).refuse_section pid header := by
  have htrack : (c.renewed pid header bytes).track_section pid header bytes =
      (c.tracked pid header bytes, (c.observed pid header bytes).2) := track_renewed c
  unfold renewed at htrack
  unfold push_tracked
  dsimp only
  rw [htrack]
  cases (c.observed pid header bytes).2 <;> rfl

/-- A tracker of a PMT has the scope of all tables but the SDT. -/
theorem pmt_scope (h : tracked_header bytes = some header) (hpmt : header.table_id = 0x02) :
    header.key pid = (pid, 0x02, header.extension, TRACKER_GLOBAL_SCOPE) := by
  unfold tracked_header at h
  split at h
  · contradiction
  rename_i fields hfields
  split at h
  · cases h
    dsimp only at hpmt
    have hscope : tracker_scope_extension bytes = some TRACKER_GLOBAL_SCOPE := by
      unfold tracker_scope_extension
      rw [hfields]
      dsimp only
      rw [hpmt]
      rfl
    simp only [TrackedHeader.key, hpmt, hscope, Option.getD_some]
  · contradiction

/-- A section that is not new is refused, and a PMT that contradicts takes its facts away. -/
theorem plays_refuse_section (h : tracked_header bytes = some header) (t : SectionTracker)
    (ht : c.section_trackers.get (header.key pid) = some t) :
    Plays c.engine (c.refuse_section pid header).engine
        (if header.table_id = 0x02 ∧ t.inconsistent then [.retire pid header.extension] else []) ∧
      (c.refuse_section pid header).section_trackers = c.section_trackers := by
  unfold refuse_section
  by_cases hpmt : header.table_id = 0x02
  · rw [pmt_scope h hpmt] at ht
    simp only [ht, Option.any_some]
    split
    · refine ⟨?_, rfl⟩
      have hretire : c.engine.invalidate_table pid 0x02 header.extension =
          c.engine.invalidate_pmt pid header.extension := by
        simp [invalidate_table]
      rw [hretire]
      exact fun he => ⟨book_invalidate_pmt he, he.invalidate_pmt⟩
    · exact ⟨fun he => ⟨rfl, he⟩, rfl⟩
  · simp only [hpmt, false_and, if_false]
    exact ⟨fun he => ⟨rfl, he⟩, trivial⟩

/-- One section, as the trackers and the book see it. -/
theorem push_section.spec (hvalid : valid_current_section bytes)
    (hheader : tracked_header bytes = some header)
    (haccepts : c.accepts_section_version pid header) :
    (∀ k, (c.push_section decode pid bytes).section_trackers.get k =
        if k = header.key pid then some (c.observed pid header bytes).1
        else c.section_trackers.get k) ∧
      Plays c.engine (c.push_section decode pid bytes).engine (c.moves pid header bytes) := by
  have hpush : c.push_section decode pid bytes = c.push_tracked decode pid header bytes := by
    unfold push_section
    rw [if_neg (not_not_intro hvalid), hheader]
    exact if_neg (not_not_intro haccepts)
  rw [hpush, push_tracked_eq]
  unfold moves
  split
  · obtain ⟨hengine, htrackers⟩ :=
      track_transport_scopes_frame (c.tracked pid header bytes) header bytes
    refine ⟨fun k => ?_, ?_⟩
    · exact (congrArg (FinMap.get · k) htrackers).trans (tracked_trackers c k)
    · rw [hengine]
      exact (plays_renewed c).trans (plays_push_section decode _ hvalid)
  · obtain ⟨hplays, htrackers⟩ := plays_refuse_section (c.tracked pid header bytes) hheader _
      ((tracked_trackers c (header.key pid)).trans (if_pos rfl))
    refine ⟨fun k => ?_, (plays_renewed c).trans hplays⟩
    rw [htrackers]
    exact tracked_trackers c k

end ServiceDiscoveryCollector

end arib_si_engine_rs.service_discovery
