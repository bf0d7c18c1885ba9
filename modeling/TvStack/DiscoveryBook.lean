-- The book of the PMTs: which programs are announced, which facts came for
-- them, and which services are known with which facts. It is all of the engine
-- that decides what is reported of a PMT. Each operation of the engine is a
-- move of the book.
import Mathlib.Data.List.Dedup
import TvStack.ServiceDiscovery

open Items Words List

namespace arib_si_engine_rs.service_discovery

open arib_si_engine_rs.sections arib_si_engine_rs.ca_descriptor

/-! ## The book -/

/-- The facts of a PMT as they are reported with a service. -/
structure PmtFacts where
  pmt_pid : Option Nat := none
  pmt_parsed : Bool := false
  pcr_pid : Option Nat := none
  streams : List DiscoveredElementaryStream := []
  program_ca_descriptors : List CaDescriptor := []
  es_ca_descriptors : List EsCaMetadata := []

def DiscoveredService.pmt (s : DiscoveredService) : PmtFacts :=
  ⟨s.pmt_pid, s.pmt_parsed, s.pcr_pid, s.streams, s.program_ca_descriptors, s.es_ca_descriptors⟩

def PendingPmtInfo.facts (p : PendingPmtInfo) : PmtFacts :=
  ⟨some p.pmt_pid, p.pmt_parsed, p.pcr_pid, p.streams, p.program_ca_descriptors,
    p.es_ca_descriptors⟩

/-- `services` has the facts of each service that is known, by transport stream, network and
service. -/
@[ext]
structure PmtBook where
  programs : Nat → Nat → Option Nat
  unresolved : Nat → Nat → Nat → Option PendingPmtInfo
  pending : Nat → Nat → Nat → Nat → Option PendingPmtInfo
  services : Nat → Nat → Nat → Option PmtFacts

namespace PmtBook

open Classical in
/-- The service of the transport stream is known under this network and under no other. -/
def Resolved (b : PmtBook) (tsid onid n : Nat) : Prop :=
  ∀ o, (b.services tsid o n).isSome ↔ o = onid

variable (b : PmtBook)

/-- A service gets these facts. -/
def report (tsid onid n : Nat) (facts : PmtFacts) : PmtBook :=
  { b with services := fun t o k =>
      if t = tsid ∧ o = onid ∧ k = n then some facts else b.services t o k }

/-- A service becomes known. -/
def name (tsid onid n : Nat) : PmtBook :=
  b.report tsid onid n ((b.services tsid onid n).getD {})

/-- Facts are pending for a service. -/
def await (tsid onid n pid : Nat) (info : PendingPmtInfo) : PmtBook :=
  { b with pending := fun o t k p =>
      if o = onid ∧ t = tsid ∧ k = n ∧ p = pid then some info else b.pending o t k p }

open Classical in
/-- The facts that came for a service are reported with it, once its network is resolved. -/
noncomputable def settle (tsid onid n : Nat) : PmtBook :=
  match b.programs tsid n with
  | none => b
  | some pid =>
    if b.Resolved tsid onid n then
      match (b.pending onid tsid n pid).or (b.unresolved tsid n pid) with
      | none => b
      | some info => (b.await tsid onid n pid info).report tsid onid n info.facts
    else b

/-- A table names a service. -/
noncomputable def touch (tsid onid n : Nat) : PmtBook := (b.name tsid onid n).settle tsid onid n

open Classical in
/-- A PAT announces a program. -/
noncomputable def announce (tsid n pid : Nat) : PmtBook :=
  let b := { b with programs := fun t k => if t = tsid ∧ k = n then some pid else b.programs t k
    : PmtBook }
  if h : ∃ onid, b.Resolved tsid onid n then
    (b.report tsid h.choose n { pmt_pid := some pid }).settle tsid h.choose n
  else b

open Classical in
/-- A PMT delivers the facts of a program, to each transport stream that announced it there. -/
noncomputable def deliver (pid n : Nat) (info : PendingPmtInfo) : PmtBook where
  programs := b.programs
  unresolved t k p :=
    if k = n ∧ p = pid ∧ b.programs t n = some pid then some info else b.unresolved t k p
  pending o t k p :=
    if k = n ∧ p = pid ∧ b.programs t n = some pid ∧ b.Resolved t o n then some info
    else b.pending o t k p
  services t o k :=
    if k = n ∧ b.programs t n = some pid ∧ b.Resolved t o n then some info.facts
    else b.services t o k

/-- A new version of a PAT takes all programs and all facts away. -/
def forget : PmtBook where
  programs _ _ := none
  unresolved _ _ _ := none
  pending _ _ _ _ := none
  services t o k := (b.services t o k).map fun _ => {}

/-- A new version of a PMT takes the facts of the program away. -/
def retire (pid n : Nat) : PmtBook where
  programs := b.programs
  unresolved t k p :=
    if k = n ∧ p = pid ∧ b.programs t n = some pid then none else b.unresolved t k p
  pending o t k p :=
    if k = n ∧ p = pid ∧ b.programs t n = some pid then none else b.pending o t k p
  services t o k := (b.services t o k).map fun facts =>
    if facts.pmt_pid = some pid ∧ k = n ∧ b.programs t n = some pid then { pmt_pid := some pid }
    else facts

end PmtBook

/-! ## The moves of the engine -/

namespace ServiceDiscoveryEngine

/-- The book of an engine. -/
def book (e : ServiceDiscoveryEngine) : PmtBook where
  programs t n := e.pat_programs.get (t, n)
  unresolved t n p := e.unresolved_pmts_by_pat.get (t, n, p)
  pending o t n p := e.pending_pmts.get (o, t, n, p)
  services t o n := (e.services.get (t, o, n)).map (·.pmt)

/-- Each service has the numbers of its key. -/
def Keyed (e : ServiceDiscoveryEngine) : Prop :=
  ∀ t o n s, e.services.get (t, o, n) = some s →
    s.transport_stream_id = t ∧ s.original_network_id = o ∧ s.service_id = n

/-- A change that keeps the numbers of a service. -/
def KeepsKey (change : DiscoveredService → DiscoveredService) : Prop :=
  ∀ s, (change s).transport_stream_id = s.transport_stream_id ∧
    (change s).original_network_id = s.original_network_id ∧
    (change s).service_id = s.service_id

variable {e : ServiceDiscoveryEngine} {tsid onid n pid : Nat}
  {change : DiscoveredService → DiscoveredService}

theorem mem_known_onids {o : Nat} :
    o ∈ e.known_onids tsid n ↔ (e.book.services tsid o n).isSome := by
  simp only [known_onids, mem_dedup, mem_map, mem_filter, FinMap.mem_keys, book,
    Option.isSome_map, decide_eq_true_eq, Prod.exists]
  constructor
  · rintro ⟨t, o', k, ⟨hsome, rfl, rfl⟩, rfl⟩
    exact hsome
  · intro hsome
    exact ⟨tsid, o, n, ⟨hsome, rfl, rfl⟩, rfl⟩

theorem resolved_iff :
    e.resolved_onid_for_pat_program tsid n = some onid ↔ e.book.Resolved tsid onid n := by
  have hnodup : (e.known_onids tsid n).Nodup := nodup_dedup _
  unfold resolved_onid_for_pat_program PmtBook.Resolved
  simp only [← mem_known_onids]
  constructor
  · intro h
    split at h
    · rename_i hlist
      cases h
      simp [hlist]
    · cases h
  · intro h
    have hperm : (e.known_onids tsid n).Perm [onid] := by
      apply (perm_ext_iff_of_nodup hnodup (nodup_singleton onid)).mpr
      simpa using h
    rw [perm_singleton.mp hperm]

theorem resolved_none (h : e.resolved_onid_for_pat_program tsid n = none) :
    ¬ ∃ onid, e.book.Resolved tsid onid n := by
  rintro ⟨onid, hresolved⟩
  rw [resolved_iff.mpr hresolved] at h
  cases h

theorem book_update_service (facts : PmtFacts → PmtFacts) (h : ∀ s, (change s).pmt = facts s.pmt) :
    (e.update_service tsid onid n change).book =
      e.book.report tsid onid n (facts ((e.book.services tsid onid n).getD {})) := by
  refine PmtBook.ext rfl rfl rfl ?_
  funext t o k
  simp only [book, update_service, PmtBook.report, FinMap.get_insert, Prod.mk.injEq]
  split
  · rw [Option.map_some, h]
    cases e.services.get (tsid, onid, n) <;> rfl
  · rfl

/-- A change of other facts makes the service known. -/
theorem book_name_service (h : ∀ s, (change s).pmt = s.pmt) :
    (e.update_service tsid onid n change).book = e.book.name tsid onid n :=
  book_update_service id h

theorem Keyed.update_service (he : e.Keyed) (h : KeepsKey change) :
    (e.update_service tsid onid n change).Keyed := by
  intro t o k s hs
  simp only [ServiceDiscoveryEngine.update_service, FinMap.get_insert, Prod.mk.injEq] at hs
  split at hs
  · rename_i hkey
    obtain ⟨rfl, rfl, rfl⟩ := hkey
    cases hs
    obtain ⟨ht, ho, hk⟩ := h ((e.services.get (t, o, k)).getD
      { transport_stream_id := t, original_network_id := o, service_id := k })
    rw [ht, ho, hk]
    cases hget : e.services.get (t, o, k) with
    | none => exact ⟨rfl, rfl, rfl⟩
    | some s => exact he t o k s hget
  · exact he t o k s hs

theorem book_change_services (chosen : DiscoveredService → Bool)
    (h : ∀ s, (change s).pmt = s.pmt) : (e.change_services chosen change).book = e.book := by
  refine PmtBook.ext rfl rfl rfl ?_
  funext t o k
  simp only [book, change_services, FinMap.get_mapValues, Option.map_map]
  congr 1
  funext s
  simp only [Function.comp_apply]
  split
  · exact h s
  · rfl

theorem Keyed.change_services (he : e.Keyed) (chosen : DiscoveredService → Bool)
    (h : KeepsKey change) : (e.change_services chosen change).Keyed := by
  intro t o k s hs
  simp only [ServiceDiscoveryEngine.change_services, FinMap.get_mapValues,
    Option.map_eq_some_iff] at hs
  obtain ⟨s', hs', rfl⟩ := hs
  have hkey := he t o k s' hs'
  split
  · obtain ⟨ht, ho, hk⟩ := h s'
    rw [ht, ho, hk]
    exact hkey
  · exact hkey

variable (info : PendingPmtInfo) (tsids : List Nat)

theorem set_pmt_state_pmt (s : DiscoveredService) : (set_pmt_state info s).pmt = info.facts := rfl

theorem book_insert_pending :
    { e with pending_pmts := e.pending_pmts.insert (onid, tsid, n, pid) info
      : ServiceDiscoveryEngine }.book = e.book.await tsid onid n pid info := by
  simp only [book, PmtBook.await, FinMap.get_insert, Prod.mk.injEq]

theorem await_again {b : PmtBook} {info : PendingPmtInfo}
    (h : b.pending onid tsid n pid = some info) : b.await tsid onid n pid info = b := by
  refine PmtBook.ext rfl rfl ?_ rfl
  funext o t k p
  simp only [PmtBook.await]
  split
  · rename_i hkey
    obtain ⟨rfl, rfl, rfl, rfl⟩ := hkey
    exact h.symm
  · rfl

theorem book_enter_pending (e : ServiceDiscoveryEngine) (tsid onid n pid : Nat) :
    (e.enter_pending tsid onid n pid).pending_pmts.get (onid, tsid, n, pid) =
        (e.book.pending onid tsid n pid).or (e.book.unresolved tsid n pid) ∧
      (e.enter_pending tsid onid n pid).book =
        match (e.book.pending onid tsid n pid).or (e.book.unresolved tsid n pid) with
        | none => e.book
        | some info => e.book.await tsid onid n pid info := by
  have hpending : e.book.pending onid tsid n pid = e.pending_pmts.get (onid, tsid, n, pid) := rfl
  have hunresolved : e.book.unresolved tsid n pid = e.unresolved_pmts_by_pat.get (tsid, n, pid) :=
    rfl
  unfold enter_pending
  dsimp only
  split
  · rename_i parsed hp hu
    rw [hpending, hp, hunresolved, hu]
    exact ⟨FinMap.get_insert_self _ _, book_insert_pending parsed⟩
  rename_i hneither
  cases hp : e.pending_pmts.get (onid, tsid, n, pid) with
  | some info =>
    rw [hpending, hp]
    exact ⟨rfl, (await_again (hpending.trans hp)).symm⟩
  | none =>
    have hu : e.unresolved_pmts_by_pat.get (tsid, n, pid) = none := by
      apply Option.eq_none_iff_forall_ne_some.mpr
      intro parsed hparsed
      exact hneither parsed hp hparsed
    rw [hpending, hp, hunresolved, hu]
    exact ⟨rfl, rfl⟩

theorem book_apply_pending :
    (e.apply_pending_pmt_to_service tsid onid n).book = e.book.settle tsid onid n := by
  unfold apply_pending_pmt_to_service PmtBook.settle
  have hprograms : e.pat_pmt_pid_candidate_for_service tsid n = e.book.programs tsid n := rfl
  rw [hprograms]
  cases e.book.programs tsid n with
  | none => rfl
  | some pid =>
    by_cases hresolved : e.resolved_onid_for_pat_program tsid n = some onid
    · obtain ⟨hget, hbook⟩ := book_enter_pending e tsid onid n pid
      simp only [hresolved, ne_eq, not_true_eq_false, if_false, resolved_iff.mp hresolved, if_true,
        hget]
      cases hinfo : (e.book.pending onid tsid n pid).or (e.book.unresolved tsid n pid) with
      | none =>
        rw [hinfo] at hbook
        exact hbook
      | some info =>
        rw [hinfo] at hbook
        rw [book_update_service (fun _ => info.facts) fun s => set_pmt_state_pmt info s,
          hbook]
    · have hnot : ¬ e.book.Resolved tsid onid n := fun h => hresolved (resolved_iff.mpr h)
      simp only [ne_eq, hresolved, not_false_eq_true, if_true, hnot, if_false]

theorem Keyed.of_services {e' : ServiceDiscoveryEngine} (he : e.Keyed)
    (h : e'.services = e.services) : e'.Keyed := by
  intro t o k s hs
  rw [h] at hs
  exact he t o k s hs

theorem Keyed.apply_pending (he : e.Keyed) :
    (e.apply_pending_pmt_to_service tsid onid n).Keyed := by
  unfold apply_pending_pmt_to_service
  split
  · exact he
  split
  · exact he
  rename_i pid _ _
  have hentered : (e.enter_pending tsid onid n pid).Keyed := he.of_services (by
    dsimp only [enter_pending]
    split <;> rfl)
  dsimp only
  split
  · exact hentered
  · exact hentered.update_service fun _ => ⟨rfl, rfl, rfl⟩

/-! ## The programs of a PAT -/

theorem resolved_unique {b : PmtBook} {o : Nat} (h : b.Resolved tsid onid n)
    (h' : b.Resolved tsid o n) : o = onid :=
  (h o).mp ((h' o).mpr rfl)

theorem book_insert_program (e : ServiceDiscoveryEngine) (tsid n pid : Nat) :
    { e with pat_programs := e.pat_programs.insert (tsid, n) pid : ServiceDiscoveryEngine }.book =
      { e.book with programs := fun t k =>
          if t = tsid ∧ k = n then some pid else e.book.programs t k } := by
  simp only [book, FinMap.get_insert, Prod.mk.injEq]

theorem book_parse_pat_entry :
    (e.parse_pat_entry tsid (n, pid)).book = e.book.announce tsid n pid := by
  have hprogram := book_insert_program e tsid n pid
  unfold parse_pat_entry
  dsimp only
  split
  · rename_i hnone
    have hnot := resolved_none hnone
    rw [hprogram] at hnot ⊢
    rw [PmtBook.announce, dif_neg hnot]
  · rename_i onid hsome
    have hresolved := resolved_iff.mp hsome
    rw [book_apply_pending, book_update_service (fun _ => { pmt_pid := some pid }) fun s => rfl,
      hprogram]
    rw [hprogram] at hresolved
    have hex : ∃ onid, PmtBook.Resolved _ tsid onid n := ⟨onid, hresolved⟩
    rw [PmtBook.announce, dif_pos hex, resolved_unique hresolved hex.choose_spec]

theorem Keyed.parse_pat_entry (he : e.Keyed) : (e.parse_pat_entry tsid (n, pid)).Keyed := by
  unfold ServiceDiscoveryEngine.parse_pat_entry
  dsimp only
  split
  · exact he.of_services rfl
  apply Keyed.apply_pending
  have hinserted : Keyed { e with pat_programs := e.pat_programs.insert (tsid, n) pid } :=
    he.of_services rfl
  exact hinserted.update_service fun _ => ⟨rfl, rfl, rfl⟩

/-! ## The facts of a PMT -/

theorem mem_candidate_tsids {t : Nat} :
    t ∈ e.candidate_tsids pid n ↔ e.book.programs t n = some pid := by
  simp only [candidate_tsids, mem_map, mem_filter, decide_eq_true_eq, Prod.exists]
  constructor
  · rintro ⟨t', k, p, ⟨hmem, rfl, rfl⟩, rfl⟩
    exact FinMap.get_eq_some.mpr hmem
  · intro hget
    exact ⟨t, n, pid, ⟨FinMap.get_eq_some.mp hget, rfl, rfl⟩, rfl⟩

theorem book_invalidate_pat : e.invalidate_pat.book = e.book.forget := by
  simp only [book, invalidate_pat, PmtBook.forget, FinMap.get_mapValues, Option.map_map]
  rfl

theorem Keyed.invalidate_pat (he : e.Keyed) : e.invalidate_pat.Keyed := by
  intro t o k s hs
  simp only [ServiceDiscoveryEngine.invalidate_pat, FinMap.get_mapValues,
    Option.map_eq_some_iff] at hs
  obtain ⟨s', hs', rfl⟩ := hs
  exact he t o k s' hs'

theorem book_invalidate_pmt (he : e.Keyed) :
    (e.invalidate_pmt pid n).book = e.book.retire pid n := by
  have hcandidate (t : Nat) : t ∈ e.candidate_tsids pid n ↔ e.pat_programs.get (t, n) = some pid :=
    mem_candidate_tsids
  refine PmtBook.ext rfl ?_ ?_ ?_
  · funext t k p
    simp only [book, invalidate_pmt, PmtBook.retire, FinMap.get_retain, hcandidate]
    by_cases h : k = n ∧ p = pid ∧ e.pat_programs.get (t, n) = some pid <;> simp [h]
  · funext o t k p
    simp only [book, invalidate_pmt, PmtBook.retire, FinMap.get_retain, hcandidate]
    by_cases h : k = n ∧ p = pid ∧ e.pat_programs.get (t, n) = some pid <;> simp [h]
  · funext t o k
    simp only [book, invalidate_pmt, PmtBook.retire, FinMap.get_mapValues, hcandidate]
    cases hget : e.services.get (t, o, k) with
    | none => rfl
    | some s =>
      -- the fields of the service are those of its key
      obtain ⟨rfl, rfl, rfl⟩ := he t o k s hget
      simp only [Option.map_some, decide_eq_true_eq]
      by_cases h : s.pmt_pid = some pid ∧ s.service_id = n ∧
          e.pat_programs.get (s.transport_stream_id, n) = some pid
      · rw [if_pos h]
        refine congrArg some (Eq.trans ?_ (if_pos h).symm)
        rw [← h.1]
        rfl
      · rw [if_neg h]
        exact congrArg some (if_neg h).symm

theorem Keyed.invalidate_pmt (he : e.Keyed) : (e.invalidate_pmt pid n).Keyed := by
  intro t o k s hs
  simp only [ServiceDiscoveryEngine.invalidate_pmt, FinMap.get_mapValues,
    Option.map_eq_some_iff] at hs
  obtain ⟨s', hs', rfl⟩ := hs
  have hkey := he t o k s' hs'
  split <;> exact hkey

theorem get_unresolved (pmts : FinMap (Nat × Nat × Nat) PendingPmtInfo) (tsids : List Nat)
    (t k p : Nat) :
    (tsids.foldl (fun pmts tsid => pmts.insert (tsid, n, pid) info) pmts).get (t, k, p) =
      if k = n ∧ p = pid ∧ t ∈ tsids then some info else pmts.get (t, k, p) := by
  induction tsids generalizing pmts with
  | nil => simp
  | cons tsid rest ih =>
    rw [foldl_cons, ih, FinMap.get_insert]
    simp only [Prod.mk.injEq]
    by_cases hkey : k = n ∧ p = pid
    · by_cases ht : t = tsid <;> simp [hkey, ht]
    · have hnot (q : Prop) : ¬ (k = n ∧ p = pid ∧ q) := fun h => hkey ⟨h.1, h.2.1⟩
      rw [if_neg (hnot _), if_neg (hnot _), if_neg fun h => hkey h.2]

open Classical in
/-- The facts of a PMT after they went to the services of these transport streams. -/
noncomputable def answered (b : PmtBook) (pid n : Nat) (info : PendingPmtInfo) (tsids : List Nat) :
    PmtBook where
  programs := b.programs
  unresolved := b.unresolved
  pending o t k p :=
    if k = n ∧ p = pid ∧ t ∈ tsids ∧ b.Resolved t o n then some info else b.pending o t k p
  services t o k :=
    if k = n ∧ t ∈ tsids ∧ b.Resolved t o n then some info.facts else b.services t o k

variable {b : PmtBook} {info : PendingPmtInfo}

theorem answered_known (t o k : Nat) :
    ((answered b pid n info tsids).services t o k).isSome ↔ (b.services t o k).isSome := by
  simp only [answered]
  split
  · rename_i h
    have hknown := (h.2.2 o).mpr rfl
    rw [h.1]
    simp [hknown]
  · rfl

theorem answered_resolved (t o k : Nat) :
    (answered b pid n info tsids).Resolved t o k ↔ b.Resolved t o k := by
  unfold PmtBook.Resolved
  simp only [answered_known]

open Classical in
theorem answered_pending (o t k p : Nat) :
    (answered b pid n info tsids).pending o t k p =
      if k = n ∧ p = pid ∧ t ∈ tsids ∧ b.Resolved t o n then some info
      else b.pending o t k p := rfl

open Classical in
theorem answered_services (t o k : Nat) :
    (answered b pid n info tsids).services t o k =
      if k = n ∧ t ∈ tsids ∧ b.Resolved t o n then some info.facts else b.services t o k := rfl

theorem answered_cons (tsid : Nat) (tsids : List Nat) :
    answered (answered b pid n info [tsid]) pid n info tsids =
      answered b pid n info (tsid :: tsids) := by
  refine PmtBook.ext rfl rfl ?_ ?_
  · funext o t k p
    have hresolved : (answered b pid n info [tsid]).Resolved t o n ↔ b.Resolved t o n :=
      answered_resolved [tsid] t o n
    simp only [answered_pending]
    grind
  · funext t o k
    have hresolved : (answered b pid n info [tsid]).Resolved t o n ↔ b.Resolved t o n :=
      answered_resolved [tsid] t o n
    simp only [answered_services]
    grind

/-- The facts of a PMT, at the transport stream that announced it. -/
theorem book_resolve_pmt (info : PendingPmtInfo) {tsid : Nat}
    (h : e.book.programs tsid n = some pid) :
    (e.resolve_pmt pid n info tsid).book = answered e.book pid n info [tsid] := by
  unfold resolve_pmt
  split
  · rename_i hnone
    have hnot := resolved_none hnone
    refine PmtBook.ext rfl rfl ?_ ?_
    · funext o t k p
      rw [answered_pending, if_neg]
      rintro ⟨_, _, ht, hresolved⟩
      rw [mem_singleton.mp ht] at hresolved
      exact hnot ⟨o, hresolved⟩
    · funext t o k
      rw [answered_services, if_neg]
      rintro ⟨_, ht, hresolved⟩
      rw [mem_singleton.mp ht] at hresolved
      exact hnot ⟨o, hresolved⟩
  · rename_i onid hsome
    have hresolved := resolved_iff.mp hsome
    have hawait : (e.book.await tsid onid n pid info).Resolved tsid onid n := hresolved
    have hpending : (e.book.await tsid onid n pid info).pending onid tsid n pid = some info := by
      simp [PmtBook.await]
    have hprograms : (e.book.await tsid onid n pid info).programs tsid n = some pid := h
    rw [book_apply_pending, book_insert_pending, PmtBook.settle, hprograms]
    simp only [hawait, hpending, Option.some_or]
    have honly (o : Nat) : e.book.Resolved tsid o n ↔ o = onid :=
      ⟨fun h => resolved_unique hresolved h, fun h => h ▸ hresolved⟩
    refine PmtBook.ext rfl rfl ?_ ?_
    · funext o t k p
      rw [answered_pending]
      simp only [PmtBook.report, PmtBook.await]
      grind
    · funext t o k
      rw [answered_services]
      simp only [PmtBook.report, PmtBook.await]
      grind

theorem Keyed.resolve_pmt {tsid : Nat} (he : e.Keyed) : (e.resolve_pmt pid n info tsid).Keyed := by
  unfold ServiceDiscoveryEngine.resolve_pmt
  split
  · exact he
  · exact Keyed.apply_pending (he.of_services rfl)

/-- The facts of a PMT, at all of these transport streams. -/
theorem book_resolve_pmts (info : PendingPmtInfo) (tsids : List Nat) (he : e.Keyed)
    (h : ∀ tsid ∈ tsids, e.book.programs tsid n = some pid) :
    (tsids.foldl (fun e tsid => e.resolve_pmt pid n info tsid) e).book =
        answered e.book pid n info tsids ∧
      (tsids.foldl (fun e tsid => e.resolve_pmt pid n info tsid) e).Keyed := by
  induction tsids generalizing e with
  | nil =>
    refine ⟨?_, he⟩
    refine PmtBook.ext rfl rfl ?_ ?_
    · funext o t k p
      rw [answered_pending, if_neg (by simp)]
      rfl
    · funext t o k
      rw [answered_services, if_neg (by simp)]
      rfl
  | cons tsid rest ih =>
    have hfirst := book_resolve_pmt info (h tsid mem_cons_self)
    have hprograms : ∀ t ∈ rest, (e.resolve_pmt pid n info tsid).book.programs t n = some pid := by
      intro t ht
      rw [hfirst]
      exact h t (mem_cons_of_mem tsid ht)
    obtain ⟨hbook, hkeyed⟩ := ih he.resolve_pmt hprograms
    rw [hfirst, answered_cons] at hbook
    exact ⟨hbook, hkeyed⟩

theorem book_parse_pmt {bytes : List UInt8} {read : ReadPmt} (he : e.Keyed)
    (hread : read_pmt pid bytes = some read) :
    (e.parse_pmt pid bytes).book = e.book.deliver pid (extension_of bytes) read.pending ∧
      (e.parse_pmt pid bytes).Keyed := by
  have hparse : e.parse_pmt pid bytes =
      (e.candidate_tsids pid (extension_of bytes)).foldl
        (fun e tsid => e.resolve_pmt pid (extension_of bytes) read.pending tsid)
        (e.note_unresolved pid (extension_of bytes) read) := by
    rw [parse_pmt, hread]
  have hcandidates : ∀ t ∈ e.candidate_tsids pid (extension_of bytes),
      (e.note_unresolved pid (extension_of bytes) read).book.programs t (extension_of bytes) =
        some pid :=
    fun t ht => mem_candidate_tsids.mp ht
  have hnoted : (e.note_unresolved pid (extension_of bytes) read).Keyed := he.of_services rfl
  obtain ⟨hbook, hkeyed⟩ := book_resolve_pmts read.pending _ hnoted hcandidates
  rw [hparse]
  refine ⟨hbook.trans ?_, hkeyed⟩
  refine PmtBook.ext rfl ?_ ?_ ?_
  · funext t k p
    refine (get_unresolved read.pending _ _ t k p).trans ?_
    refine if_congr ?_ rfl rfl
    rw [mem_candidate_tsids]
  · classical
    funext o t k p
    refine if_congr ?_ rfl rfl
    rw [mem_candidate_tsids]
    rfl
  · classical
    funext t o k
    refine if_congr ?_ rfl rfl
    rw [mem_candidate_tsids]
    rfl

end ServiceDiscoveryEngine

end arib_si_engine_rs.service_discovery
