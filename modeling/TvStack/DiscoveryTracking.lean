-- What moves keep of the book: the services that are known, and for one transport
-- stream the programs that its PAT announced with the facts of their PMTs. And the
-- trackers of the collector over whole runs: which sections they have and would take.
import TvStack.DiscoveryMoves
import TvStack.SiSections

namespace arib_si_engine_rs.service_discovery.PmtBook

variable {b : PmtBook} {tsid onid n pid t o k : Nat} {info : PendingPmtInfo}

/-! ## The services that are known -/

def Known (b : PmtBook) (tsid onid n : Nat) : Prop := (b.services tsid onid n).isSome

theorem Resolved.known (h : b.Resolved tsid onid n) : b.Known tsid onid n := (h onid).mpr rfl

theorem settle_cases (b : PmtBook) (tsid onid n : Nat) :
    (b.settle tsid onid n = b ∧ ∀ pid, b.programs tsid n = some pid → b.Resolved tsid onid n →
        (b.pending onid tsid n pid).or (b.unresolved tsid n pid) = none) ∨
      ∃ pid info, b.programs tsid n = some pid ∧ b.Resolved tsid onid n ∧
        (b.pending onid tsid n pid).or (b.unresolved tsid n pid) = some info ∧
        b.settle tsid onid n = (b.await tsid onid n pid info).report tsid onid n info.facts := by
  unfold settle
  split
  · rename_i hnone
    exact .inl ⟨rfl, fun pid hpid => nomatch hnone.symm.trans hpid⟩
  rename_i pid hpid
  split_ifs with hresolved
  · split
    · rename_i hinfo
      refine .inl ⟨rfl, fun p hp _ => ?_⟩
      cases hpid.symm.trans hp
      exact hinfo
    · rename_i info hinfo
      exact .inr ⟨pid, info, hpid, hresolved, hinfo, rfl⟩
  · exact .inl ⟨rfl, fun _ _ h => absurd h hresolved⟩

theorem known_report {facts : PmtFacts} :
    (b.report tsid onid n facts).Known t o k ↔
      (t = tsid ∧ o = onid ∧ k = n) ∨ b.Known t o k := by
  unfold Known report
  dsimp only
  split_ifs with hkey
  · exact ⟨fun _ => .inl hkey, fun _ => rfl⟩
  · exact ⟨.inr, fun h => h.resolve_left hkey⟩

theorem known_report_known {facts : PmtFacts} (h : b.Known tsid onid n) :
    (b.report tsid onid n facts).Known t o k ↔ b.Known t o k := by
  rw [known_report]
  refine ⟨?_, .inr⟩
  rintro (⟨rfl, rfl, rfl⟩ | hknown)
  · exact h
  · exact hknown

theorem known_settle : (b.settle tsid onid n).Known t o k ↔ b.Known t o k := by
  rcases settle_cases b tsid onid n with ⟨h, -⟩ | ⟨pid, info, -, hresolved, -, h⟩
  · rw [h]
  · rw [h]
    exact known_report_known hresolved.known

theorem known_touch :
    (b.touch tsid onid n).Known t o k ↔ (t = tsid ∧ o = onid ∧ k = n) ∨ b.Known t o k := by
  unfold touch name
  rw [known_settle, known_report]

theorem known_announce : (b.announce tsid n pid).Known t o k ↔ b.Known t o k := by
  unfold announce
  dsimp only
  split
  · rename_i h
    rw [known_settle]
    exact known_report_known h.choose_spec.known
  · exact Iff.rfl

theorem known_deliver : (b.deliver pid n info).Known t o k ↔ b.Known t o k := by
  unfold Known deliver
  dsimp only
  split
  · rename_i h
    obtain ⟨rfl, -, hresolved⟩ := h
    exact ⟨fun _ => hresolved.known, fun _ => rfl⟩
  · exact Iff.rfl

theorem known_forget : b.forget.Known t o k ↔ b.Known t o k := by
  simp only [Known, forget, Option.isSome_map]

theorem known_retire : (b.retire pid n).Known t o k ↔ b.Known t o k := by
  simp only [Known, retire, Option.isSome_map]

/-- A service becomes known when a table names it, and stays known. -/
theorem known_play (m : Move) : (b.play m).Known t o k ↔ m = .touch t o k ∨ b.Known t o k := by
  cases m with
  | touch tsid onid n =>
    refine known_touch.trans (or_congr ?_ Iff.rfl)
    rw [Move.touch.injEq]
    exact ⟨fun ⟨h, h', h''⟩ => ⟨h.symm, h'.symm, h''.symm⟩,
      fun ⟨h, h', h''⟩ => ⟨h.symm, h'.symm, h''.symm⟩⟩
  | announce => simpa [play] using known_announce
  | deliver => simpa [play] using known_deliver
  | forget => simpa [play] using known_forget
  | retire => simpa [play] using known_retire

theorem known_plays (moves : List Move) (b : PmtBook) :
    (moves.foldl play b).Known t o k ↔ .touch t o k ∈ moves ∨ b.Known t o k := by
  induction moves generalizing b with
  | nil => simp
  | cons m rest ih =>
    rw [List.foldl_cons, ih, known_play, List.mem_cons, ← or_assoc, or_comm (a := _ ∈ rest),
      @eq_comm _ (Move.touch t o k)]

/-! ## The programs of one transport stream -/

/-- The facts that came for the programs of one transport stream: the PAT announced these programs,
and for these of them the PMT came. -/
structure Holds (b : PmtBook) (tsid : Nat) (announced : Nat → Option Nat)
    (got : Nat → Option PendingPmtInfo) : Prop where
  programs : ∀ n, b.programs tsid n = announced n
  unresolved : ∀ n pid, b.unresolved tsid n pid = if announced n = some pid then got n else none
  pending : ∀ {o n pid info}, b.pending o tsid n pid = some info →
    announced n = some pid ∧ got n = some info
  named : ∀ {n info}, got n = some info → ∃ pid, announced n = some pid

/-- The facts that came are reported with each service whose network is resolved. -/
structure Reads (b : PmtBook) (tsid : Nat) (announced : Nat → Option Nat)
    (got : Nat → Option PendingPmtInfo) : Prop extends Holds b tsid announced got where
  services : ∀ {o n info}, got n = some info → b.Resolved tsid o n →
    b.services tsid o n = some info.facts

variable {announced : Nat → Option Nat} {got : Nat → Option PendingPmtInfo}

/-- What is settled for an announced program are the facts that came. -/
theorem Holds.settled (h : b.Holds tsid announced got) (hpid : announced n = some pid) :
    (b.pending onid tsid n pid).or (b.unresolved tsid n pid) = got n := by
  rw [h.unresolved, if_pos hpid]
  cases hpending : b.pending onid tsid n pid with
  | none => rfl
  | some info => exact (h.pending hpending).2.symm

theorem Holds.settle (h : b.Holds tsid announced got) (t o k : Nat) :
    (b.settle t o k).Holds tsid announced got := by
  rcases settle_cases b t o k with ⟨heq, -⟩ | ⟨pid, info, hpid, -, hinfo, heq⟩
  · rw [heq]
    exact h
  rw [heq]
  refine ⟨h.programs, h.unresolved, fun {o' n' pid' info'} hpending => ?_, h.named⟩
  simp only [report, await] at hpending
  split at hpending
  · rename_i hkey
    obtain ⟨rfl, rfl, rfl, rfl⟩ := hkey
    cases hpending
    have hannounced : announced n' = some pid' := (h.programs n').symm.trans hpid
    exact ⟨hannounced, (h.settled hannounced).symm.trans hinfo⟩
  · exact h.pending hpending

/-- The facts that came for a service are reported once it is settled. -/
theorem Holds.settle_services (h : b.Holds tsid announced got) (hgot : got n = some info)
    (hresolved : b.Resolved tsid onid n) :
    (b.settle tsid onid n).services tsid onid n = some info.facts := by
  obtain ⟨pid, hpid⟩ := h.named hgot
  have hfacts : (b.pending onid tsid n pid).or (b.unresolved tsid n pid) = some info :=
    (h.settled hpid).trans hgot
  rcases settle_cases b tsid onid n with ⟨-, hnone⟩ | ⟨pid', info', hpid', -, hinfo, heq⟩
  · cases (hnone pid ((h.programs n).trans hpid) hresolved).symm.trans hfacts
  · cases (h.programs n).symm.trans hpid' |>.symm.trans hpid
    cases hinfo.symm.trans hfacts
    rw [heq]
    exact if_pos ⟨rfl, rfl, rfl⟩

theorem touch_services_other (h : ¬ (t = tsid ∧ k = n)) :
    (b.touch tsid onid n).services t o k = b.services t o k := by
  have hkey : ¬ (t = tsid ∧ o = onid ∧ k = n) := fun hkey => h ⟨hkey.1, hkey.2.2⟩
  have hname : (b.name tsid onid n).services t o k = b.services t o k := if_neg hkey
  unfold touch
  rcases settle_cases (b.name tsid onid n) tsid onid n with ⟨heq, -⟩ | ⟨pid, info, -, -, -, heq⟩
  · rw [heq, hname]
  · rw [heq]
    exact (if_neg hkey).trans hname

theorem Reads.touch (h : b.Reads tsid announced got) (t o k : Nat) :
    (b.touch t o k).Reads tsid announced got := by
  have hname : (b.name t o k).Holds tsid announced got :=
    ⟨h.programs, h.unresolved, h.pending, h.named⟩
  refine ⟨hname.settle t o k, fun {onid n info} hgot hresolved => ?_⟩
  by_cases hkey : tsid = t ∧ n = k
  · obtain ⟨rfl, rfl⟩ := hkey
    have hknown : (b.touch tsid o n).Known tsid o n := known_touch.mpr (.inl ⟨rfl, rfl, rfl⟩)
    obtain rfl : o = onid := (hresolved o).mp hknown
    refine hname.settle_services hgot fun o' => ?_
    exact known_settle.symm.trans (hresolved o')
  · rw [touch_services_other hkey]
    refine h.services hgot fun o' => ?_
    have hother : (b.touch t o k).services tsid o' n = b.services tsid o' n :=
      touch_services_other hkey
    rw [← hother]
    exact hresolved o'

/-- The facts of a PMT come, for a program that waited for them or for one of another PAT. -/
theorem Reads.deliver (h : b.Reads tsid announced got)
    (hgot : announced n = some pid → got n = none)
    (info : PendingPmtInfo) : (b.deliver pid n info).Reads tsid announced
      (fun k => if k = n ∧ announced n = some pid then some info else got k) := by
  have hprogram : b.programs tsid n = announced n := h.programs n
  refine ⟨⟨h.programs, fun k p => ?_, fun {o k p info'} hpending => ?_, fun {k info'} hk => ?_⟩,
    fun {o k info'} hk hresolved => ?_⟩
  · simp only [PmtBook.deliver, h.unresolved]
    grind
  · simp only [PmtBook.deliver] at hpending
    have hold : b.pending o tsid k p = some info' → announced k = some p ∧ got k = some info' :=
      h.pending
    grind
  · have hold : got k = some info' → ∃ p, announced k = some p := h.named
    grind
  · have hresolved' : b.Resolved tsid o k := fun o' => known_deliver.symm.trans (hresolved o')
    have hold : got k = some info' → b.Resolved tsid o k → b.services tsid o k = some info'.facts :=
      h.services
    simp only [PmtBook.deliver]
    grind

/-- A PMT that is over takes nothing away from a program that waits for its facts. -/
theorem Reads.retire (h : b.Reads tsid announced got)
    (hgot : announced n = some pid → got n = none) : (b.retire pid n).Reads tsid announced got := by
  have hprogram : b.programs tsid n = announced n := h.programs n
  refine ⟨⟨h.programs, fun k p => ?_, fun {o k p info'} hpending => ?_, h.named⟩,
    fun {o k info'} hk hresolved => ?_⟩
  · simp only [PmtBook.retire, h.unresolved]
    grind
  · simp only [PmtBook.retire] at hpending
    have hold : b.pending o tsid k p = some info' → announced k = some p ∧ got k = some info' :=
      h.pending
    grind
  · have hresolved' : b.Resolved tsid o k := fun o' => known_retire.symm.trans (hresolved o')
    simp only [PmtBook.retire, h.services hk hresolved']
    grind

theorem reads_forget : b.forget.Reads tsid (fun _ => none) fun _ => none :=
  ⟨⟨fun _ => rfl, fun _ _ => rfl, nofun, nofun⟩, nofun⟩

/-- No fact is there to be reported with an announced program. -/
theorem Reads.announce (h : b.Reads tsid announced fun _ => none) (n pid : Nat) :
    (b.announce tsid n pid).Reads tsid (fun k => if k = n then some pid else announced k)
      fun _ => none := by
  have hentered :
      { b with programs := fun t k => if t = tsid ∧ k = n then some pid else b.programs t k
        : PmtBook }.Holds tsid (fun k => if k = n then some pid else announced k)
          fun _ => none := by
    refine ⟨fun k => ?_, fun k p => ?_, fun hpending => ?_, nofun⟩
    · simp only [true_and, h.programs]
    · simp only [h.unresolved, ite_self]
    · exact nomatch (h.pending hpending).2
  refine ⟨?_, nofun⟩
  unfold PmtBook.announce
  dsimp only
  split
  · apply Holds.settle
    exact ⟨hentered.programs, hentered.unresolved, hentered.pending, hentered.named⟩
  · exact hentered

section

variable (h : b.Reads tsid announced got)
include h

theorem Reads.congr {b' : PmtBook} (hprograms : b'.programs tsid = b.programs tsid)
    (hunresolved : b'.unresolved tsid = b.unresolved tsid)
    (hpending : ∀ o, b'.pending o tsid = b.pending o tsid)
    (hservices : ∀ o, b'.services tsid o = b.services tsid o) : b'.Reads tsid announced got where
  programs n := by rw [hprograms, h.programs]
  unresolved n pid := by rw [hunresolved, h.unresolved]
  pending hinfo := h.pending (hpending _ ▸ hinfo)
  named := h.named
  services hinfo hresolved := by
    unfold Resolved at hresolved
    simp only [hservices] at hresolved ⊢
    exact h.services hinfo hresolved

theorem Reads.report_other (ht : tsid ≠ t) (facts : PmtFacts) :
    (b.report t o k facts).Reads tsid announced got := by
  refine h.congr rfl rfl (fun _ => rfl) fun o' => ?_
  funext k'
  exact if_neg fun hkey => ht hkey.1

theorem Reads.settle_other (ht : tsid ≠ t) : (b.settle t o k).Reads tsid announced got := by
  rcases settle_cases b t o k with ⟨heq, -⟩ | ⟨p, info, -, -, -, heq⟩
  · rw [heq]
    exact h
  · have hawait : (b.await t o k p info).Reads tsid announced got := by
      refine h.congr rfl rfl (fun o' => ?_) fun _ => rfl
      funext k' p'
      exact if_neg fun hkey => ht hkey.2.1
    rw [heq]
    exact hawait.report_other ht _

theorem Reads.announce_other (ht : tsid ≠ t) (n pid : Nat) :
    (b.announce t n pid).Reads tsid announced got := by
  have hentered :
      { b with programs := fun t' k => if t' = t ∧ k = n then some pid else b.programs t' k
        : PmtBook }.Reads tsid announced got := by
    refine h.congr ?_ rfl (fun _ => rfl) fun _ => rfl
    funext k
    exact if_neg fun hkey => ht hkey.1
  unfold PmtBook.announce
  dsimp only
  split
  · exact (hentered.report_other ht _).settle_other ht
  · exact hentered

end

/-- Without a PAT of the transport stream nothing comes to be there. -/
theorem reads_quiet {moves : List Move} (h : b.Reads tsid (fun _ => none) fun _ => none)
    (hquiet : ∀ n pid, .announce tsid n pid ∉ moves) :
    (moves.foldl play b).Reads tsid (fun _ => none) fun _ => none := by
  induction moves generalizing b with
  | nil => exact h
  | cons m rest ih =>
    refine ih ?_ fun n pid hmem => hquiet n pid (List.mem_cons_of_mem m hmem)
    cases m with
    | touch t o k => exact h.touch t o k
    | announce t n pid =>
      refine h.announce_other (fun ht => ?_) n pid
      exact hquiet n pid (ht ▸ List.mem_cons_self)
    | deliver pid n info => simpa [play] using h.deliver (fun _ => rfl) info
    | forget => exact reads_forget
    | retire pid n => exact h.retire fun _ => rfl

/-- The programs that entries of a PAT announce: the last one of a program counts. -/
def enter (announced : Nat → Option Nat) (entries : List (Nat × Nat)) : Nat → Option Nat :=
  entries.foldl (fun announced entry n =>
    if n = entry.1 then some entry.2 else announced n) announced

theorem enter_append (announced : Nat → Option Nat) (entries more : List (Nat × Nat)) :
    enter announced (entries ++ more) = enter (enter announced entries) more :=
  List.foldl_append

theorem Reads.announces (entries : List (Nat × Nat)) {announced : Nat → Option Nat} {b : PmtBook}
    (h : b.Reads tsid announced fun _ => none) :
    ((entries.map fun entry => Move.announce tsid entry.1 entry.2).foldl play b).Reads tsid
      (enter announced entries) fun _ => none := by
  induction entries generalizing announced b with
  | nil => exact h
  | cons entry rest ih => exact ih (h.announce entry.1 entry.2)

theorem Reads.touches (keys : List (Nat × Nat × Nat)) {b : PmtBook}
    (h : b.Reads tsid announced got) :
    ((keys.map fun key => Move.touch key.1 key.2.1 key.2.2).foldl play b).Reads tsid
      announced got := by
  induction keys generalizing b with
  | nil => exact h
  | cons key rest ih => exact ih (h.touch key.1 key.2.1 key.2.2)

end arib_si_engine_rs.service_discovery.PmtBook

open Words

namespace arib_si_engine_rs.service_discovery

open arib_si_engine_rs.sections ServiceDiscoveryEngine SectionTracker

/-- A section with a valid check sum and a long header, of the version that is current. -/
structure CurrentSection where
  pid : Nat
  bytes : List UInt8
  header : TrackedHeader
  valid : valid_current_section bytes = true
  tracked : tracked_header bytes = some header

namespace CurrentSection

variable (s s' : CurrentSection)

def key : Nat × UInt8 × Nat × Nat := s.header.key s.pid

def IsPat : Prop := s.pid = 0x0000 ∧ s.header.table_id = 0x00

def IsPmt : Prop := s.header.table_id = 0x02

instance : Decidable s.IsPat := inferInstanceAs (Decidable (_ ∧ _))

instance : Decidable s.IsPmt := inferInstanceAs (Decidable (_ = _))

/-- Two sections of one version of a table. -/
def Agree : Prop :=
  s.key = s'.key → s.header.version = s'.header.version ∧ s.header.last = s'.header.last ∧
    s.header.number ≠ s'.header.number

instance : Decidable (s.Agree s') := inferInstanceAs (Decidable (_ → _))

theorem header_fields : s.header.table_id = byte s.bytes 0 ∧
    s.header.extension = extension_of s.bytes ∧
    (s.header.table_id = 0x00 → s.header.scope = TRACKER_GLOBAL_SCOPE) := by
  have h := s.tracked
  unfold tracked_header at h
  split at h
  · contradiction
  rename_i fields hfields
  have hread : fields.table_id = byte s.bytes 0 ∧ ∀ extension,
      fields.table_id_extension = some extension → extension = extension_of s.bytes := by
    unfold parse_section_header at hfields
    unfold extension_of
    grind
  split at h
  · rename_i extension version number last hextension _ _ _
    rw [← Option.some.inj h]
    refine ⟨hread.1, hread.2 extension hextension, fun htable => ?_⟩
    have hscope : tracker_scope_extension s.bytes = some TRACKER_GLOBAL_SCOPE := by
      unfold tracker_scope_extension
      rw [hfields]
      dsimp only at htable ⊢
      rw [htable]
      rfl
    rw [hscope, Option.getD_some]
  · contradiction

end CurrentSection

namespace ServiceDiscoveryCollector

variable {c : ServiceDiscoveryCollector} {s s' : CurrentSection} {decode : AribStringDecoder}

/-- The collector after a section. -/
def push (c : ServiceDiscoveryCollector) (decode : AribStringDecoder) (s : CurrentSection) :
    ServiceDiscoveryCollector := c.push_section decode s.pid s.bytes

/-- The tracker of the table is at the version of the section. -/
def AtVersion (c : ServiceDiscoveryCollector) (s : CurrentSection) (t : SectionTracker) : Prop :=
  c.section_trackers.get s.key = some t ∧ t.version = some s.header.version

/-- The tracker has the section. -/
def Recorded (c : ServiceDiscoveryCollector) (s : CurrentSection) : Prop :=
  ∃ t, c.AtVersion s t ∧ t.payloads.get s.header.number = some s.bytes

/-- The tracker takes the version of the section, and has nothing of this version that contradicts
it. -/
structure Fits (c : ServiceDiscoveryCollector) (s : CurrentSection) : Prop where
  accepted : c.accepts_section_version s.pid s.header
  in_order : s.header.number ≤ s.header.last
  consistent : ∀ {t}, c.AtVersion s t →
    t.Consistent s.header.version s.header.number s.header.last s.bytes

instance : Decidable (c.Fits s) :=
  decidable_of_iff (c.accepts_section_version s.pid s.header ∧ s.header.number ≤ s.header.last ∧
      ∀ t ∈ c.section_trackers.get s.key, t.version = some s.header.version →
        t.Consistent s.header.version s.header.number s.header.last s.bytes)
    ⟨fun ⟨ha, ho, hc⟩ => ⟨ha, ho, fun hat => hc _ hat.1 hat.2⟩,
      fun ⟨ha, ho, hc⟩ => ⟨ha, ho, fun _ ht hv => hc ⟨ht, hv⟩⟩⟩

instance : Decidable (c.Recorded s) :=
  decidable_of_iff (∃ t ∈ c.section_trackers.get s.key, t.version = some s.header.version ∧
      t.payloads.get s.header.number = some s.bytes)
    ⟨fun ⟨t, ht, hv, hp⟩ => ⟨t, ⟨ht, hv⟩, hp⟩, fun ⟨t, ⟨ht, hv⟩, hp⟩ => ⟨t, ht, hv, hp⟩⟩

theorem at_version_changed {t : SectionTracker} (h : c.AtVersion s t) :
    c.section_version_changed s.pid s.header = false := by
  have htracker : c.tracker s.pid s.header = some t := h.1
  simp only [section_version_changed, htracker, Option.bind_some, h.2, ne_eq, not_true_eq_false,
    decide_false]

/-- The observer of a section is the tracker at its version, or has nothing of it. -/
theorem observer_cases (c : ServiceDiscoveryCollector) (s : CurrentSection) :
    (∃ t, c.AtVersion s t ∧ c.observer s.pid s.header = t) ∨
      (∀ t, ¬ c.AtVersion s t) ∧ (c.observer s.pid s.header).version = none := by
  have hget : c.section_trackers.get s.key = c.tracker s.pid s.header := rfl
  unfold observer section_version_changed AtVersion
  rw [hget]
  cases htracker : c.tracker s.pid s.header with
  | none => exact .inr ⟨nofun, rfl⟩
  | some t =>
    cases hversion : t.version with
    | none =>
      refine .inr ⟨fun t' h => ?_, ?_⟩
      · cases h.1
        cases hversion.symm.trans h.2
      · simp [hversion]
    | some v =>
      by_cases hv : v = s.header.version
      · subst hv
        exact .inl ⟨t, ⟨rfl, hversion⟩, by simp [hversion]⟩
      refine .inr ⟨fun t' h => ?_, ?_⟩
      · cases h.1
        exact hv (Option.some.inj (hversion.symm.trans h.2))
      · simp [hversion, hv]

/-- What the observer keeps is what the tracker has of the version. -/
theorem kept_observer (c : ServiceDiscoveryCollector) (s : CurrentSection) (m : UInt8)
    (p : List UInt8) :
    ((c.observer s.pid s.header).kept s.header.version).get m = some p ↔
      ∃ t, c.AtVersion s t ∧ t.payloads.get m = some p := by
  rcases observer_cases c s with ⟨t, hat, heq⟩ | ⟨hnone, hversion⟩
  · rw [heq, kept, if_pos hat.2]
    refine ⟨fun h => ⟨t, hat, h⟩, ?_⟩
    rintro ⟨t', hat', h⟩
    cases hat.1.symm.trans hat'.1
    exact h
  · rw [kept, hversion]
    exact ⟨fun h => (by cases h), fun h => absurd h.choose_spec.1 (hnone _)⟩

theorem Fits.observer (h : c.Fits s) :
    (c.observer s.pid s.header).accepts_version s.header.version ∧
      (c.observer s.pid s.header).Consistent s.header.version s.header.number s.header.last
        s.bytes := by
  rcases observer_cases c s with ⟨t, hat, heq⟩ | ⟨-, hversion⟩
  · rw [heq]
    refine ⟨?_, h.consistent hat⟩
    simp [accepts_version, hat.2]
  · refine ⟨by simp [accepts_version, hversion], h.in_order, ?_, ?_, ?_⟩
    · simp [hversion]
    · simp [hversion]
    · intro p hp
      rw [kept, hversion] at hp
      cases hp

/-- A section that fits is in its tracker afterwards, with what the tracker had of its version. -/
theorem Fits.push_trackers (h : c.Fits s) (decode : AribStringDecoder) :
    ∃ t, (∀ k, (c.push decode s).section_trackers.get k =
        if k = s.key then some t else c.section_trackers.get k) ∧
      t.version = some s.header.version ∧ t.last_section_number = some s.header.last ∧
      t.inconsistent = false ∧
      ∀ m p, t.payloads.get m = some p ↔ (m = s.header.number ∧ p = s.bytes) ∨
        (m ≠ s.header.number ∧ ∃ t, c.AtVersion s t ∧ t.payloads.get m = some p) := by
  obtain ⟨htrackers, -⟩ := push_section.spec c decode s.valid s.tracked h.accepted
  obtain ⟨haccepts, hconsistent⟩ := h.observer
  obtain ⟨hversion, hlast, hmarked, hpayloads, -⟩ :=
    observe.spec haccepts hconsistent
  refine ⟨_, htrackers, hversion, hlast, hmarked, fun m p => ?_⟩
  refine (Iff.of_eq (congrArg (· = some p) (hpayloads m))).trans ?_
  split_ifs with hm
  · simp [hm, eq_comm]
  · simp [hm, kept_observer]

theorem recorded_iff : c.Recorded s ↔ ∃ p,
    ((c.observer s.pid s.header).kept s.header.version).get s.header.number = some p ∧
      p = s.bytes := by
  simp only [kept_observer, exists_eq_right, Recorded]

theorem Fits.moves_recorded (h : c.Fits s) (hrecorded : c.Recorded s) :
    c.moves s.pid s.header s.bytes = [] := by
  obtain ⟨haccepts, hconsistent⟩ := h.observer
  obtain ⟨-, -, hmarked, -, hfresh⟩ := observe.spec haccepts hconsistent
  obtain ⟨p, hkept, rfl⟩ := recorded_iff.mp hrecorded
  obtain ⟨t, hat, -⟩ := hrecorded
  have hold : (c.observed s.pid s.header s.bytes).2 = false := hfresh.trans (by simp [hkept])
  have hmarked' : (c.observed s.pid s.header s.bytes).1.inconsistent = false := hmarked
  simp [moves, at_version_changed hat, hold, hmarked']

theorem Fits.moves_new (h : c.Fits s) (hnew : ¬ c.Recorded s) :
    c.moves s.pid s.header s.bytes =
      (if c.section_version_changed s.pid s.header then change_moves s.pid s.header else []) ++
        section_moves s.pid s.bytes := by
  obtain ⟨haccepts, hconsistent⟩ := h.observer
  obtain ⟨-, -, -, -, hfresh⟩ := observe.spec haccepts hconsistent
  have hkept : ((c.observer s.pid s.header).kept s.header.version).get s.header.number = none := by
    apply Option.eq_none_iff_forall_ne_some.mpr
    intro p hp
    exact hnew (recorded_iff.mpr ⟨p, hp, hconsistent.kept p hp⟩)
  have hfresh' : (c.observed s.pid s.header s.bytes).2 = true := hfresh.trans (by simp [hkept])
  simp [moves, hfresh']

theorem AtVersion.of_agree {t : SectionTracker} (hat : c.AtVersion s t) (hkey : s.key = s'.key)
    (hagree : s.Agree s') : c.AtVersion s' t := by
  refine ⟨hkey ▸ hat.1, ?_⟩
  rw [← (hagree hkey).1]
  exact hat.2

/-- A section of the same set still fits after another one. -/
theorem Fits.push (h : c.Fits s) (h' : c.Fits s') (hagree : s.Agree s') :
    (c.push decode s).Fits s' := by
  obtain ⟨t, htrackers, hversion, hlast, hmarked, hpayloads⟩ := h.push_trackers decode
  have htracker : (c.push decode s).tracker s'.pid s'.header = _ := htrackers s'.key
  by_cases hkey : s'.key = s.key
  · obtain ⟨hv, hl, hn⟩ := hagree hkey.symm
    rw [if_pos hkey] at htracker
    refine ⟨?_, h'.in_order, fun {t'} hat => ?_⟩
    · simp [accepts_section_version, htracker, accepts_version, hversion, hv]
    · cases htracker.symm.trans hat.1
      refine ⟨h'.in_order, fun _ => hmarked, fun _ l hl' => ?_, fun p hp => ?_⟩
      · rw [← hl]
        exact Option.some.inj (hl'.symm.trans hlast)
      · rw [kept, if_pos hat.2] at hp
        rcases (hpayloads _ p).mp hp with ⟨hnumber, -⟩ | ⟨-, t₀, hat₀, hp₀⟩
        · exact absurd hnumber.symm hn
        · have hat' := hat₀.of_agree hkey.symm hagree
          refine (h'.consistent hat').kept p ?_
          rw [kept, if_pos hat'.2]
          exact hp₀
  · rw [if_neg hkey] at htracker
    refine ⟨?_, h'.in_order, fun {t'} hat => h'.consistent ⟨htracker.symm.trans hat.1, hat.2⟩⟩
    have haccepted := h'.accepted
    unfold accepts_section_version
    rw [htracker]
    exact haccepted

theorem Fits.not_recorded_push (h : c.Fits s) (hnew : ¬ c.Recorded s') (hagree : s.Agree s') :
    ¬ (c.push decode s).Recorded s' := by
  obtain ⟨t, htrackers, -, -, -, hpayloads⟩ := h.push_trackers decode
  rintro ⟨t', hat, hp⟩
  have htracker := (htrackers s'.key).symm.trans hat.1
  split_ifs at htracker with hkey
  · cases htracker
    rcases (hpayloads _ _).mp hp with ⟨hnumber, -⟩ | ⟨-, t₀, hat₀, hp₀⟩
    · exact (hagree hkey.symm).2.2 hnumber.symm
    · exact hnew ⟨t₀, hat₀.of_agree hkey.symm hagree, hp₀⟩
  · exact hnew ⟨t', ⟨htracker, hat.2⟩, hp⟩

theorem Fits.at_version_push (h : c.Fits s) (hkey : s'.key = s.key)
    (hversion : s'.header.version = s.header.version) : ∃ t, (c.push decode s).AtVersion s' t := by
  obtain ⟨t, htrackers, hv, -⟩ := h.push_trackers decode
  refine ⟨t, (htrackers s'.key).trans (if_pos hkey), ?_⟩
  rw [hversion]
  exact hv

/-! ## What holds after every run -/

/-- The trackers and the book of a collector that started empty. -/
structure Sound (c : ServiceDiscoveryCollector) : Prop where
  keyed : c.engine.Keyed
  versioned : ∀ {k t}, c.section_trackers.get k = some t → t.version ≠ none
  known : ∀ {k t m bytes tsid onid n}, c.section_trackers.get k = some t →
    t.payloads.get m = some bytes → (tsid, onid, n) ∈ named_services k.1 bytes →
    c.engine.book.Known tsid onid n
  unannounced : ∀ {tsid}, c.section_trackers.get (0x0000, 0x00, tsid, TRACKER_GLOBAL_SCOPE) = none →
    c.engine.book.Reads tsid (fun _ => none) fun _ => none

theorem sound_empty : Sound {} where
  keyed _ _ _ _ h := absurd h FinMap.get_empty_ne
  versioned h := absurd h FinMap.get_empty_ne
  known h := absurd h FinMap.get_empty_ne
  unannounced _ :=
    ⟨⟨fun _ => rfl, fun _ _ => rfl, fun h => (Option.some_ne_none _ h.symm).elim, nofun⟩, nofun⟩

/-- The observer of a section has what its tracker has, or nothing. -/
theorem observer_payloads (c : ServiceDiscoveryCollector) (s : CurrentSection) {m : UInt8}
    {p : List UInt8} (h : (c.observer s.pid s.header).payloads.get m = some p) :
    ∃ t, c.section_trackers.get s.key = some t ∧ t.payloads.get m = some p := by
  have hget : c.section_trackers.get s.key = c.tracker s.pid s.header := rfl
  unfold observer at h
  rw [hget]
  split at h
  · exact absurd h FinMap.get_empty_ne
  cases htracker : c.tracker s.pid s.header with
  | none =>
    rw [htracker] at h
    exact absurd h FinMap.get_empty_ne
  | some t =>
    rw [htracker] at h
    exact ⟨t, rfl, h⟩

theorem observer_accepts (haccepts : c.accepts_section_version s.pid s.header) :
    (c.observer s.pid s.header).accepts_version s.header.version := by
  unfold observer
  unfold accepts_section_version at haccepts
  split
  · rfl
  cases htracker : c.tracker s.pid s.header with
  | none => rfl
  | some t =>
    rw [htracker] at haccepts
    exact haccepts

theorem named_moves {pid tsid onid n : Nat} {bytes : List UInt8}
    (h : (tsid, onid, n) ∈ named_services pid bytes) :
    .touch tsid onid n ∈ section_moves pid bytes := by
  have htables : byte bytes 0 ≠ 0x00 ∧ byte bytes 0 ≠ 0x02 := by
    unfold named_services at h
    constructor <;> intro htable <;> simp [htable] at h
  unfold section_moves
  rw [if_neg fun hpat => htables.1 hpat.1, if_neg htables.2]
  exact List.mem_map.mpr ⟨_, h, rfl⟩

theorem pat_key (h : s.IsPat) :
    s.key = (0x0000, 0x00, extension_of s.bytes, TRACKER_GLOBAL_SCOPE) := by
  obtain ⟨-, hextension, hscope⟩ := s.header_fields
  simp only [CurrentSection.key, TrackedHeader.key, h.1, h.2, hextension, hscope h.2]

theorem announce_moves {tsid n pid : Nat}
    (h : .announce tsid n pid ∈ c.moves s.pid s.header s.bytes) :
    s.key = (0x0000, 0x00, tsid, TRACKER_GLOBAL_SCOPE) := by
  have hchange : .announce tsid n pid ∉ change_moves s.pid s.header := by
    unfold change_moves
    split
    · simp
    split <;> simp
  have hsection : .announce tsid n pid ∈ section_moves s.pid s.bytes := by
    unfold moves at h
    grind
  unfold section_moves at hsection
  split at hsection
  · rename_i hpat
    obtain ⟨entry, -, hentry⟩ := List.mem_map.mp hsection
    rw [← (Move.announce.inj hentry).1]
    exact pat_key ⟨hpat.2, s.header_fields.1.trans hpat.1⟩
  split at hsection <;> simp at hsection

theorem Sound.push (h : c.Sound) (s : CurrentSection)
    (haccepts : c.accepts_section_version s.pid s.header) (decode : AribStringDecoder) :
    (c.push decode s).Sound := by
  obtain ⟨htrackers, hplays⟩ := push_section.spec c decode s.valid s.tracked haccepts
  obtain ⟨hbook, hkeyed⟩ := hplays h.keyed
  obtain ⟨hversion, hpayloads⟩ : (c.observed s.pid s.header s.bytes).1.version =
      some s.header.version ∧
      ∀ {m p}, (c.observed s.pid s.header s.bytes).1.payloads.get m = some p →
        (p = s.bytes ∧ (c.observed s.pid s.header s.bytes).2 = true) ∨
          (c.observer s.pid s.header).payloads.get m = some p :=
    observe_kept (c.observer s.pid s.header) (observer_accepts haccepts)
  refine ⟨hkeyed, fun {k t} hk => ?_, fun {k t m bytes tsid onid n} hk hm hnamed => ?_,
    fun {tsid} hnone => ?_⟩
  · replace hk := (htrackers k).symm.trans hk
    split at hk
    · cases hk
      rw [hversion]
      exact Option.some_ne_none _
    · exact h.versioned hk
  · replace hk := (htrackers k).symm.trans hk
    refine (Iff.of_eq (congrArg (PmtBook.Known · tsid onid n) hbook)).mpr
      ((PmtBook.known_plays _ _).mpr ?_)
    split at hk
    · rename_i hkey
      subst hkey
      cases hk
      rcases hpayloads hm with ⟨rfl, hfresh⟩ | hold
      · refine .inl (List.mem_append_right _ ?_)
        rw [if_pos hfresh]
        exact named_moves hnamed
      · obtain ⟨t, ht, hp⟩ := observer_payloads c s hold
        exact .inr (h.known ht hp hnamed)
    · exact .inr (h.known hk hm hnamed)
  · replace hnone := (htrackers _).symm.trans hnone
    split at hnone
    · contradiction
    rename_i hkey
    rw [ServiceDiscoveryCollector.push, hbook]
    refine PmtBook.reads_quiet (h.unannounced hnone) fun n pid hmem => ?_
    exact hkey (announce_moves hmem).symm

/-- A section does nothing unless it is a current one of a version that its tracker takes. -/
theorem push_section_cases (c : ServiceDiscoveryCollector) (decode : AribStringDecoder) (pid : Nat)
    (bytes : List UInt8) : c.push_section decode pid bytes = c ∨
      ∃ s : CurrentSection, s.pid = pid ∧ s.bytes = bytes ∧
        c.accepts_section_version s.pid s.header := by
  by_cases hvalid : valid_current_section bytes
  · cases hheader : tracked_header bytes with
    | none =>
      refine .inl ?_
      rw [push_section, if_neg (not_not_intro hvalid), hheader]
    | some header =>
      by_cases haccepts : c.accepts_section_version pid header
      · exact .inr ⟨⟨pid, bytes, header, hvalid, hheader⟩, rfl, rfl, haccepts⟩
      refine .inl ?_
      rw [push_section, if_neg (not_not_intro hvalid), hheader]
      exact if_pos haccepts
  · exact .inl (if_pos hvalid)

theorem Sound.collect (decode : AribStringDecoder) (sections : List (Nat × List UInt8)) {c}
    (h : Sound c) : (collect decode c sections).Sound := by
  induction sections generalizing c with
  | nil => exact h
  | cons first rest ih =>
    apply ih
    change (c.push_section decode first.1 first.2).Sound
    rcases push_section_cases c decode first.1 first.2 with heq | ⟨s, hpid, hbytes, haccepts⟩
    · rw [heq]
      exact h
    · rw [← hpid, ← hbytes]
      exact h.push s haccepts decode

end ServiceDiscoveryCollector

end arib_si_engine_rs.service_discovery
