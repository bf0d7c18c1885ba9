-- Discovery converges: after any run, a full set of current sections with a new
-- PAT first leaves each service with the facts that a collector has which was
-- given the set alone.
import TvStack.DiscoveryTracking

open List Words

namespace arib_si_engine_rs.service_discovery

open arib_si_engine_rs.sections ServiceDiscoveryEngine PmtBook

def CurrentSection.IsSdt (s : CurrentSection) : Prop :=
  s.pid = 0x0011 ∧ (s.header.table_id = 0x42 ∨ s.header.table_id = 0x46)

/-- The programs that the sections of a PAT announce. -/
def announced (pats : List CurrentSection) : Nat → Option Nat :=
  enter (fun _ => none) (pats.flatMap fun s => pat_entries s.bytes)

/-- The full set of the current sections of a transport stream: its PAT comes first, each of its
sections once, and each program of the PAT has its PMT. -/
structure FullSet (tsid onid : Nat) (pats rest : List CurrentSection) : Prop where
  pat : pats ≠ []
  is_pat : ∀ s ∈ pats, s.IsPat ∧ s.header.extension = tsid
  others : ∀ s ∈ rest, ¬ s.IsPat
  agree : (pats ++ rest).Pairwise CurrentSection.Agree
  in_order : ∀ s ∈ pats ++ rest, s.header.number ≤ s.header.last
  single : ∀ s ∈ rest, s.IsPmt → s.header.number = 0
  pmt : ∀ {n pid}, announced pats n = some pid → ∃ s ∈ rest, s.IsPmt ∧ s.pid = pid ∧
    s.header.extension = n ∧ ∃ read, read_pmt pid s.bytes = some read ∧ read.pending.pmt_parsed
  network : ∀ s ∈ rest, ∀ {o n}, (tsid, o, n) ∈ named_services s.pid s.bytes → o = onid

def CurrentSection.raw (s : CurrentSection) : Nat × List UInt8 := (s.pid, s.bytes)

namespace ServiceDiscoveryCollector

variable {c : ServiceDiscoveryCollector} {s : CurrentSection} {decode : AribStringDecoder}
  {tsid onid : Nat} {programs : Nat → Option Nat} {got : Nat → Option PendingPmtInfo}

/-- A collector to which the set comes with a new PAT and with the PMTs that it has not read. -/
structure Awaits (c : ServiceDiscoveryCollector) (tsid onid : Nat)
    (pats rest : List CurrentSection) : Prop where
  fits : ∀ s ∈ pats ++ rest, c.Fits s
  new_pat : ∀ s ∈ pats, ∀ t, ¬ c.AtVersion s t
  unread : ∀ s ∈ rest, s.IsPmt → ¬ c.Recorded s
  network : ∀ {o n}, (announced pats n).isSome →
    (c.engine.services.get (tsid, o, n)).isSome → o = onid

/-! ## The services that become known -/

theorem touch_moves {t o n : Nat} (h : .touch t o n ∈ c.moves s.pid s.header s.bytes) :
    (t, o, n) ∈ named_services s.pid s.bytes := by
  have hchange : .touch t o n ∉ change_moves s.pid s.header := by
    unfold change_moves
    split
    · simp
    split <;> simp
  have hsection : .touch t o n ∈ section_moves s.pid s.bytes := by
    unfold moves at h
    grind
  unfold section_moves at hsection
  split at hsection
  · simp at hsection
  split at hsection
  · simp at hsection
  obtain ⟨key, hkey, htouch⟩ := mem_map.mp hsection
  obtain ⟨rfl, rfl, rfl⟩ := Move.touch.inj htouch
  exact hkey

theorem Fits.book_push (h : c.Fits s) (hsound : c.Sound) (decode : AribStringDecoder) :
    (c.push decode s).engine.book =
      (c.moves s.pid s.header s.bytes).foldl play c.engine.book :=
  ((push_section.spec c decode s.valid s.tracked h.accepted).2 hsound.keyed).1

/-- After a section the services that it names are known, and no others become known. -/
theorem Fits.known_push (h : c.Fits s) (hsound : c.Sound) {t o n : Nat} :
    (c.push decode s).engine.book.Known t o n ↔
      c.engine.book.Known t o n ∨ (t, o, n) ∈ named_services s.pid s.bytes := by
  rw [h.book_push hsound, known_plays]
  constructor
  · exact fun hknown => hknown.symm.imp_right touch_moves
  rintro (hknown | hnamed)
  · exact .inr hknown
  by_cases hrecorded : c.Recorded s
  · obtain ⟨t, hat, hp⟩ := hrecorded
    exact .inr (hsound.known hat.1 hp hnamed)
  · rw [h.moves_new hrecorded]
    exact .inl (mem_append_right _ (named_moves hnamed))

/-- Sections that the collector takes one after the other. -/
structure Takes (c : ServiceDiscoveryCollector) (l : List CurrentSection) : Prop where
  sound : c.Sound
  fits : ∀ s ∈ l, c.Fits s
  agree : l.Pairwise CurrentSection.Agree

theorem Takes.push {l : List CurrentSection} (h : c.Takes (s :: l)) (decode : AribStringDecoder) :
    c.Fits s ∧ (∀ s' ∈ l, s.Agree s') ∧ (c.push decode s).Takes l := by
  obtain ⟨hfirst, hfits⟩ := forall_mem_cons.mp h.fits
  obtain ⟨hagree, hrest⟩ := pairwise_cons.mp h.agree
  exact ⟨hfirst, hagree, h.sound.push s hfirst.accepted decode,
    fun s' hs => hfirst.push (hfits s' hs) (hagree s' hs), hrest⟩

theorem known_collect (decode : AribStringDecoder) (l : List CurrentSection) (h : c.Takes l)
    {t o n : Nat} :
    (collect decode c (l.map (·.raw))).engine.book.Known t o n ↔
      c.engine.book.Known t o n ∨ ∃ s ∈ l, (t, o, n) ∈ named_services s.pid s.bytes := by
  induction l generalizing c with
  | nil => simp [collect]
  | cons first rest ih =>
    obtain ⟨hfirst, -, hrest⟩ := h.push decode
    refine (ih hrest).trans ?_
    rw [hfirst.known_push h.sound, exists_mem_cons_iff, or_assoc]

/-! ## The PAT -/

theorem pat_moves (h : s.IsPat) (hextension : s.header.extension = tsid) :
    change_moves s.pid s.header = [.forget] ∧ section_moves s.pid s.bytes =
      (pat_entries s.bytes).map fun entry => .announce tsid entry.1 entry.2 := by
  obtain ⟨htable, hext, -⟩ := s.header_fields
  refine ⟨if_pos h, ?_⟩
  rw [section_moves, if_pos ⟨htable ▸ h.2, h.1⟩, ← hext, hextension]

theorem sdt_named (h : s.IsSdt) {key : Nat × Nat × Nat} (hkey : key ∈ sdt_services s.bytes) :
    key ∈ named_services s.pid s.bytes := by
  have htable := s.header_fields.1
  obtain ⟨hpid, hsdt⟩ := h
  rw [htable] at hsdt
  unfold named_services
  rw [hpid]
  rcases hsdt with hactual | hother
  · simpa [hactual] using hkey
  · simpa [hother] using hkey

theorem pat_names (h : s.IsPat) : named_services s.pid s.bytes = [] := by
  have htable : byte s.bytes 0 = 0x00 := s.header_fields.1.symm.trans h.2
  simp [named_services, htable]

/-- A PAT of a new version starts the programs of its transport stream. -/
theorem Fits.reads_new_pat (h : c.Fits s) (hsound : c.Sound) (hpat : s.IsPat)
    (hextension : s.header.extension = tsid) (hnew : ∀ t, ¬ c.AtVersion s t) :
    (c.push decode s).engine.book.Reads tsid (enter (fun _ => none) (pat_entries s.bytes))
      fun _ => none := by
  have hunread : ¬ c.Recorded s := fun ⟨t, hat, _⟩ => hnew t hat
  obtain ⟨hchange, hsection⟩ := pat_moves hpat hextension
  rw [h.book_push hsound, h.moves_new hunread, hchange, hsection, foldl_append]
  apply PmtBook.Reads.announces
  have hkey := pat_key hpat
  rw [← s.header_fields.2.1, hextension] at hkey
  cases htracker : c.section_trackers.get s.key with
  | none =>
    have hunannounced := hsound.unannounced (hkey ▸ htracker)
    refine reads_quiet hunannounced fun n pid hmem => ?_
    grind
  | some t =>
    have hchanged : c.section_version_changed s.pid s.header = true := by
      have ht : c.tracker s.pid s.header = some t := htracker
      obtain ⟨v, hv⟩ := Option.ne_none_iff_exists'.mp (hsound.versioned htracker)
      have hne : v ≠ s.header.version := fun heq => hnew t ⟨htracker, heq ▸ hv⟩
      simp [section_version_changed, ht, hv, hne]
    rw [hchanged]
    exact reads_forget

theorem pats_key {s' : CurrentSection} (hpat : s.IsPat) (hpat' : s'.IsPat)
    (hextension : s.header.extension = tsid) (hextension' : s'.header.extension = tsid) :
    s'.key = s.key := by
  rw [pat_key hpat, pat_key hpat', ← s.header_fields.2.1, ← s'.header_fields.2.1, hextension,
    hextension']

theorem reads_pats (l : List CurrentSection) (h : c.Takes l)
    (hpats : ∀ s ∈ l, s.IsPat ∧ s.header.extension = tsid) (hat : ∀ s ∈ l, ∃ t, c.AtVersion s t)
    (hunread : ∀ s ∈ l, ¬ c.Recorded s) (hreads : c.engine.book.Reads tsid programs fun _ => none) :
    (collect decode c (l.map (·.raw))).engine.book.Reads tsid
      (enter programs (l.flatMap fun s => pat_entries s.bytes)) fun _ => none := by
  induction l generalizing c programs with
  | nil => exact hreads
  | cons first rest ih =>
    obtain ⟨hfirst, hagree, hrest⟩ := h.push decode
    obtain ⟨hpat, hpats⟩ := forall_mem_cons.mp hpats
    obtain ⟨⟨t, hat⟩, -⟩ := forall_mem_cons.mp hat
    obtain ⟨hunread, hunreads⟩ := forall_mem_cons.mp hunread
    have hstep : (c.push decode first).engine.book.Reads tsid
        (enter programs (pat_entries first.bytes)) fun _ => none := by
      rw [hfirst.book_push h.sound, hfirst.moves_new hunread, (pat_moves hpat.1 hpat.2).2,
        at_version_changed hat]
      exact hreads.announces _
    rw [flatMap_cons, enter_append]
    refine ih hrest hpats (fun s hs => ?_)
      (fun s hs => hfirst.not_recorded_push (hunreads s hs) (hagree s hs)) hstep
    have hkey := pats_key hpat.1 (hpats s hs).1 hpat.2 (hpats s hs).2
    exact hfirst.at_version_push hkey (hagree s hs hkey.symm).1.symm

/-! ## The other sections -/

theorem pmt_moves (h : s.IsPmt) :
    change_moves s.pid s.header = [.retire s.pid s.header.extension] ∧ section_moves s.pid s.bytes =
      (read_pmt s.pid s.bytes).toList.map fun read =>
        .deliver s.pid s.header.extension read.pending := by
  obtain ⟨htable, hextension, -⟩ := s.header_fields
  have htable' : s.header.table_id = 0x02 := h
  rw [change_moves, section_moves, ← htable, htable', hextension]
  simp

theorem other_moves (hpat : ¬ s.IsPat) (hpmt : ¬ s.IsPmt) :
    change_moves s.pid s.header = [] ∧ section_moves s.pid s.bytes =
      (named_services s.pid s.bytes).map fun key => .touch key.1 key.2.1 key.2.2 := by
  have htable := s.header_fields.1
  unfold CurrentSection.IsPat at hpat
  unfold CurrentSection.IsPmt at hpmt
  constructor
  · rw [change_moves, if_neg hpat, if_neg hpmt]
  · rw [section_moves, ← htable, if_neg fun hboth => hpat ⟨hboth.2, hboth.1⟩, if_neg hpmt]

/-- A section that is neither a PAT nor a PMT only names services. -/
theorem Fits.reads_names (h : c.Fits s) (hsound : c.Sound) (hpat : ¬ s.IsPat) (hpmt : ¬ s.IsPmt)
    (hreads : c.engine.book.Reads tsid programs got) :
    (c.push decode s).engine.book.Reads tsid programs got := by
  obtain ⟨hchange, hsection⟩ := other_moves hpat hpmt
  rw [h.book_push hsound]
  by_cases hrecorded : c.Recorded s
  · rw [h.moves_recorded hrecorded]
    exact hreads
  · rw [h.moves_new hrecorded, hchange, ite_self, hsection]
    exact hreads.touches _

/-- A PMT that is read delivers its facts to the program that waits for them. -/
theorem Fits.reads_pmt (h : c.Fits s) (hsound : c.Sound) (hpmt : s.IsPmt) (hunread : ¬ c.Recorded s)
    (hwaits : programs s.header.extension = some s.pid → got s.header.extension = none)
    (hreads : c.engine.book.Reads tsid programs got) :
    (c.push decode s).engine.book.Reads tsid programs fun n =>
      if n = s.header.extension ∧ programs s.header.extension = some s.pid then
        ((read_pmt s.pid s.bytes).map (·.pending)).or (got n)
      else got n := by
  obtain ⟨hchange, hsection⟩ := pmt_moves hpmt
  rw [h.book_push hsound, h.moves_new hunread, hchange, hsection]
  have hretired : ((if c.section_version_changed s.pid s.header then
      [Move.retire s.pid s.header.extension] else []).foldl play c.engine.book).Reads tsid
        programs got := by
    split
    · exact hreads.retire hwaits
    · exact hreads
  cases read_pmt s.pid s.bytes with
  | none => simpa using hretired
  | some read => simpa [play] using hretired.deliver hwaits read.pending

/-- What the sections behind the PAT need: the PMTs are not read yet, and their programs wait. -/
def Waits (c : ServiceDiscoveryCollector) (programs : Nat → Option Nat)
    (got : Nat → Option PendingPmtInfo) (s : CurrentSection) : Prop :=
  s.IsPmt → ¬ c.Recorded s ∧
    (programs s.header.extension = some s.pid → got s.header.extension = none)

/-- One section behind the PAT. The facts of a PMT come, and no others change. -/
theorem Fits.reads_push (h : c.Fits s) (hsound : c.Sound) (hpat : ¬ s.IsPat)
    (hwaits : c.Waits programs got s) (hreads : c.engine.book.Reads tsid programs got)
    (decode : AribStringDecoder) : ∃ got', (c.push decode s).engine.book.Reads tsid programs got' ∧
      (∀ n, ¬ (s.IsPmt ∧ n = s.header.extension ∧ programs n = some s.pid) → got' n = got n) ∧
      (s.IsPmt → programs s.header.extension = some s.pid →
        ∀ read, read_pmt s.pid s.bytes = some read →
          got' s.header.extension = some read.pending) := by
  by_cases hpmt : s.IsPmt
  · obtain ⟨hunread, hwaits⟩ := hwaits hpmt
    refine ⟨_, h.reads_pmt hsound hpmt hunread hwaits hreads, fun n hn => ?_,
      fun _ hprogram read hread => ?_⟩
    · refine if_neg fun hkey => hn ⟨hpmt, hkey.1, ?_⟩
      rw [hkey.1]
      exact hkey.2
    · rw [if_pos ⟨rfl, hprogram⟩, hread]
      rfl
  · exact ⟨got, h.reads_names hsound hpat hpmt hreads, fun _ _ => rfl, fun h => absurd h hpmt⟩

theorem reads_rest (decode : AribStringDecoder) (l : List CurrentSection) (h : c.Takes l)
    (hothers : ∀ s ∈ l, ¬ s.IsPat) (hsingle : ∀ s ∈ l, s.IsPmt → s.header.number = 0)
    (hwaits : ∀ s ∈ l, c.Waits programs got s) (hreads : c.engine.book.Reads tsid programs got) :
    ∃ got', (collect decode c (l.map (·.raw))).engine.book.Reads tsid programs got' ∧
      (∀ n info, got n = some info → got' n = some info) ∧
      ∀ s ∈ l, s.IsPmt → programs s.header.extension = some s.pid →
        ∀ read, read_pmt s.pid s.bytes = some read →
          got' s.header.extension = some read.pending := by
  induction l generalizing c got with
  | nil => exact ⟨got, hreads, fun _ _ h => h, nofun⟩
  | cons first rest ih =>
    obtain ⟨hfirst, hagree, hrest⟩ := h.push decode
    obtain ⟨hpat, hothers⟩ := forall_mem_cons.mp hothers
    obtain ⟨hsingle_first, hsingle⟩ := forall_mem_cons.mp hsingle
    obtain ⟨hwaits_first, hwaits⟩ := forall_mem_cons.mp hwaits
    obtain ⟨got₁, hreads₁, hsame, hcame⟩ :=
      hfirst.reads_push h.sound hpat hwaits_first hreads decode
    -- No later section is a PMT of the same program: both would have the one section number.
    have hwaits₁ : ∀ s ∈ rest, (c.push decode first).Waits programs got₁ s := by
      intro s hs hpmt
      obtain ⟨hunread, hwaiting⟩ := hwaits s hs hpmt
      refine ⟨hfirst.not_recorded_push hunread (hagree s hs), fun hprogram => ?_⟩
      rw [hsame]
      · exact hwaiting hprogram
      rintro ⟨hpmt_first, hextension, hprogram_first⟩
      have hpid := Option.some.inj (hprogram_first.symm.trans hprogram)
      -- two PMTs of one program on one PID have one tracker
      have hkey : first.key = s.key := by
        rw [CurrentSection.key, CurrentSection.key, pmt_scope first.tracked hpmt_first,
          pmt_scope s.tracked hpmt, hpid, hextension]
      refine (hagree s hs hkey).2.2 ?_
      rw [hsingle_first hpmt_first, hsingle s hs hpmt]
    obtain ⟨got₂, hreads₂, hkept, hcame₂⟩ := ih hrest hothers hsingle hwaits₁ hreads₁
    refine ⟨got₂, hreads₂, fun n info hn => hkept n info ?_, forall_mem_cons.mpr ⟨?_, hcame₂⟩⟩
    · rw [hsame]
      · exact hn
      rintro ⟨hpmt, rfl, hprogram⟩
      cases ((hwaits_first hpmt).2 hprogram).symm.trans hn
    · intro hpmt hprogram read hread
      exact hkept _ _ (hcame hpmt hprogram read hread)

/-! ## The whole set -/

theorem collect_append (c : ServiceDiscoveryCollector) (decode : AribStringDecoder)
    (l l' : List CurrentSection) : collect decode c ((l ++ l').map (·.raw)) =
      collect decode (collect decode c (l.map (·.raw))) (l'.map (·.raw)) := by
  rw [collect, map_append, foldl_append]
  rfl

/-- The sections of a set fit and stay unread while others of the set come. -/
theorem takes_collect (decode : AribStringDecoder) (l l' : List CurrentSection)
    (h : c.Takes (l ++ l')) :
    (collect decode c (l.map (·.raw))).Takes l' ∧
      ∀ s ∈ l', ¬ c.Recorded s → ¬ (collect decode c (l.map (·.raw))).Recorded s := by
  induction l generalizing c with
  | nil => exact ⟨h, fun _ _ h => h⟩
  | cons first rest ih =>
    obtain ⟨hfirst, hagree, hrest⟩ := h.push decode
    obtain ⟨htakes, hunread⟩ := ih hrest
    refine ⟨htakes, fun s hs hnew => hunread s hs ?_⟩
    exact hfirst.not_recorded_push hnew (hagree s (mem_append_right _ hs))

variable {pats rest : List CurrentSection}

/-- Once the PAT of the set came, its programs wait for their PMTs. -/
theorem Awaits.reads_pats (h : c.Awaits tsid onid pats rest) (hset : FullSet tsid onid pats rest)
    (hsound : c.Sound) (decode : AribStringDecoder) :
    (collect decode c (pats.map (·.raw))).engine.book.Reads tsid (announced pats)
      fun _ => none := by
  have htakes : c.Takes pats := ⟨hsound, fun s hs => h.fits s (mem_append_left _ hs),
    (pairwise_append.mp hset.agree).1⟩
  have hpats := hset.is_pat
  have hnew := h.new_pat
  cases pats with
  | nil => exact absurd rfl hset.pat
  | cons first more =>
    obtain ⟨hfirst, hagree, hmore⟩ := htakes.push decode
    obtain ⟨hpat, hpats⟩ := forall_mem_cons.mp hpats
    obtain ⟨hnew_first, hnew_more⟩ := forall_mem_cons.mp hnew
    have hstart : (c.push decode first).engine.book.Reads tsid
        (enter (fun _ => none) (pat_entries first.bytes)) fun _ => none :=
      hfirst.reads_new_pat hsound hpat.1 hpat.2 hnew_first
    rw [announced, flatMap_cons, enter_append]
    refine ServiceDiscoveryCollector.reads_pats more hmore hpats (fun s hs => ?_) (fun s hs => ?_)
      hstart
    · have hkey := pats_key hpat.1 (hpats s hs).1 hpat.2 (hpats s hs).2
      exact hfirst.at_version_push hkey (hagree s hs hkey.symm).1.symm
    · exact hfirst.not_recorded_push (fun ⟨t, hat, _⟩ => hnew_more s hs t hat) (hagree s hs)

/-- Each service of the set is reported with the facts of its PMT. -/
theorem Awaits.services (h : c.Awaits tsid onid pats rest) (hset : FullSet tsid onid pats rest)
    (hsound : c.Sound) (decode : AribStringDecoder) {s : CurrentSection} {read : ReadPmt}
    (hs : s ∈ rest) (hpmt : s.IsPmt) (hprogram : announced pats s.header.extension = some s.pid)
    (hread : read_pmt s.pid s.bytes = some read)
    (hlisted : ∃ s' ∈ rest, (tsid, onid, s.header.extension) ∈ named_services s'.pid s'.bytes) :
    (collect decode c ((pats ++ rest).map (·.raw))).engine.book.services tsid onid
      s.header.extension = some read.pending.facts := by
  have htakes : c.Takes (pats ++ rest) := ⟨hsound, h.fits, hset.agree⟩
  obtain ⟨hrest, hunread⟩ := takes_collect decode pats rest htakes
  obtain ⟨got, hreads, -, hcame⟩ := reads_rest decode rest hrest hset.others hset.single
    (fun s hs hpmt => ⟨hunread s hs (h.unread s hs hpmt), fun _ => rfl⟩)
    (h.reads_pats hset hsound decode)
  rw [collect_append]
  refine hreads.services (hcame s hs hpmt hprogram read hread) fun o => ?_
  have hknown := known_collect decode (pats ++ rest) htakes
    (t := tsid) (o := o) (n := s.header.extension)
  rw [collect_append] at hknown
  refine hknown.trans ⟨?_, ?_⟩
  · rintro (hold | ⟨s', hs', hnamed⟩)
    · exact h.network (Option.isSome_of_mem hprogram) (by simpa [PmtBook.Known, book] using hold)
    · rcases mem_append.mp hs' with hpats | hrest
      · rw [pat_names (hset.is_pat s' hpats).1] at hnamed
        cases hnamed
      · exact hset.network s' hrest hnamed
  · rintro rfl
    obtain ⟨s', hs', hnamed⟩ := hlisted
    exact .inr ⟨s', mem_append_right _ hs', hnamed⟩

theorem awaits_empty (hset : FullSet tsid onid pats rest) : Awaits {} tsid onid pats rest where
  fits s hs := ⟨rfl, hset.in_order s hs, fun hat => absurd hat.1 FinMap.get_empty_ne⟩
  new_pat _ _ _ hat := absurd hat.1 FinMap.get_empty_ne
  unread _ _ _ := fun ⟨_, hat, _⟩ => absurd hat.1 FinMap.get_empty_ne
  network _ h := by simp at h

end ServiceDiscoveryCollector

/-! ## What is reported -/

/-- The service of the snapshot with this key. -/
def DiscoverySnapshot.Reports (snapshot : DiscoverySnapshot) (tsid onid n : Nat)
    (service : DiscoveredService) : Prop :=
  service ∈ snapshot.services ∧ service.transport_stream_id = tsid ∧
    service.original_network_id = onid ∧ service.service_id = n

theorem ServiceDiscoveryEngine.snapshot_reports {e : ServiceDiscoveryEngine} (he : e.Keyed)
    {tsid onid n : Nat} {facts : PmtFacts} (h : e.book.services tsid onid n = some facts) :
    ∃ service, e.snapshot.Reports tsid onid n service ∧ service.pmt = facts := by
  obtain ⟨service, hservice, hfacts⟩ := Option.map_eq_some_iff.mp h
  refine ⟨service, ⟨?_, he _ _ _ _ hservice⟩, hfacts⟩
  exact mem_mergeSort.mpr (FinMap.mem_values.mpr ⟨_, hservice⟩)

open ServiceDiscoveryCollector in
/-- After any run, a full set with a new PAT first leaves each service that the PAT and the SDT
list with its PMT parsed, and with the facts that a fresh collector has from the set alone, if the
collector has read none of the PMTs of the set at their version. -/
theorem discovery_converges_on_unread_pmts (decode : AribStringDecoder)
    (history : List (Nat × List UInt8)) {tsid onid n pid : Nat} {pats rest : List CurrentSection}
    (hset : FullSet tsid onid pats rest)
    (hawaits : (collect decode {} history).Awaits tsid onid pats rest)
    (hpat : announced pats n = some pid)
    (hsdt : ∃ s ∈ rest, s.IsSdt ∧ (tsid, onid, n) ∈ sdt_services s.bytes) :
    ∃ service fresh,
      (collect decode {} (history ++ (pats ++ rest).map (·.raw))).engine.snapshot.Reports
        tsid onid n service ∧
      (collect decode {} ((pats ++ rest).map (·.raw))).engine.snapshot.Reports tsid onid n fresh ∧
      service.pmt_parsed = true ∧ service.pmt = fresh.pmt := by
  obtain ⟨s, hs, hpmt, rfl, rfl, read, hread, hparsed⟩ := hset.pmt hpat
  have hlisted : ∃ s' ∈ rest,
    (tsid, onid, s.header.extension) ∈ named_services s'.pid s'.bytes := by
    obtain ⟨s', hs', hsdt, hlisted⟩ := hsdt
    exact ⟨s', hs', sdt_named hsdt hlisted⟩
  have hsound := sound_empty.collect decode history
  have hservices := hawaits.services hset hsound decode hs hpmt hpat hread hlisted
  have hfresh := (awaits_empty hset).services hset sound_empty decode hs hpmt hpat hread hlisted
  have hrun : collect decode {} (history ++ (pats ++ rest).map (·.raw)) =
      collect decode (collect decode {} history) ((pats ++ rest).map (·.raw)) := foldl_append
  obtain ⟨service, hreports, hfacts⟩ :=
    snapshot_reports (hsound.collect decode ((pats ++ rest).map (·.raw))).keyed hservices
  obtain ⟨fresh, hreports', hfacts'⟩ :=
    snapshot_reports (sound_empty.collect decode ((pats ++ rest).map (·.raw))).keyed hfresh
  refine ⟨service, fresh, hrun ▸ hreports, hreports', ?_, hfacts.trans hfacts'.symm⟩
  exact (congrArg PmtFacts.pmt_parsed hfacts).trans hparsed

/-! ## A stream with one service -/

namespace OneService

def no_text : AribStringDecoder := fun _ => ⟨"", 0, ""⟩

/-- The PAT of the transport stream 17, with program 1 on PID 256. -/
def pat_0 : List UInt8 := [0, 176, 13, 0, 17, 193, 0, 0, 0, 1, 225, 0, 69, 33, 249, 182]

/-- The same PAT at the next version. -/
def pat_1 : List UInt8 := [0, 176, 13, 0, 17, 195, 0, 0, 0, 1, 225, 0, 219, 143, 41, 148]

def sdt : List UInt8 :=
  [66, 240, 17, 0, 17, 193, 0, 0, 0, 34, 0, 0, 1, 252, 128, 0, 226, 214, 131, 189]

def nit : List UInt8 := [64, 240, 13, 0, 34, 193, 0, 0, 240, 0, 240, 0, 136, 23, 179, 125]

def pmt : List UInt8 :=
  [2, 176, 18, 0, 1, 193, 0, 0, 225, 1, 240, 0, 27, 225, 1, 240, 0, 79, 196, 61, 27]

def others : List (Nat × List UInt8) := [(0x0011, sdt), (0x0010, nit), (0x0100, pmt)]

/-- Which services are reported, and whether their PMT is parsed. -/
def reported (sections : List (Nat × List UInt8)) : List (Nat × Nat × Nat × Bool) :=
  (collect no_text {} sections).engine.snapshot.services.map fun s =>
    (s.transport_stream_id, s.original_network_id, s.service_id, s.pmt_parsed)

/-- The set comes twice, the second time with a new PAT. The PMT is not read again, since its
tracker has it, and its facts went with the old PAT. -/
theorem an_unchanged_pmt_is_not_read_again :
    (∀ s ∈ (0x0000, pat_0) :: (0x0000, pat_1) :: others, valid_current_section s.2 = true) ∧
      reported ((0x0000, pat_0) :: others ++ (0x0000, pat_1) :: others) = [(17, 34, 1, false)] ∧
      reported ((0x0000, pat_1) :: others) = [(17, 34, 1, true)] := by
  decide +kernel

/-- The sections of the set, with the PAT of the next version. -/
def pat_section : CurrentSection :=
  ⟨0x0000, pat_1, ⟨0x00, 17, 1, 0, 0, 0xffff⟩, by decide +kernel, by decide +kernel⟩

def sdt_section : CurrentSection :=
  ⟨0x0011, sdt, ⟨0x42, 17, 0, 0, 0, 34⟩, by decide +kernel, by decide +kernel⟩

def nit_section : CurrentSection :=
  ⟨0x0010, nit, ⟨0x40, 34, 0, 0, 0, 0xffff⟩, by decide +kernel, by decide +kernel⟩

def pmt_section : CurrentSection :=
  ⟨0x0100, pmt, ⟨0x02, 1, 0, 0, 0, 0xffff⟩, by decide +kernel, by decide +kernel⟩

theorem announced_program {n pid : Nat} (h : announced [pat_section] n = some pid) :
    n = 1 ∧ pid = 0x0100 := by
  have hentries : pat_entries pat_section.bytes = [(1, 0x0100)] := by decide +kernel
  simp only [announced, flatMap_singleton, hentries, enter, foldl_cons,
    foldl_nil] at h
  split at h
  · rename_i hn
    exact ⟨hn, (Option.some.inj h).symm⟩
  · contradiction

theorem full_set : FullSet 17 34 [pat_section] [sdt_section, nit_section, pmt_section] where
  pat := cons_ne_nil _ _
  is_pat := by decide
  others := by decide
  agree := by decide
  in_order := by decide
  single := by decide
  pmt := by
    intro n pid h
    obtain ⟨rfl, rfl⟩ := announced_program h
    refine ⟨pmt_section, by simp, rfl, rfl, rfl, ?_⟩
    have hread : (read_pmt 0x0100 pmt).map (·.pending.pmt_parsed) = some true := by decide +kernel
    exact Option.map_eq_some_iff.mp hread
  network := by
    intro s hs o n hnamed
    have hnames : ∀ s ∈ [sdt_section, nit_section, pmt_section],
        ∀ key ∈ named_services s.pid s.bytes, key.2.1 = 34 := by decide +kernel
    exact hnames s hs _ hnamed

/-- The first PAT came with the SDT and the NIT, and the new PAT before the PMT. -/
def before : List (Nat × List UInt8) := [(0x0000, pat_0), (0x0011, sdt), (0x0010, nit)]

theorem awaits_set : (collect no_text {} before).Awaits 17 34 [pat_section]
    [sdt_section, nit_section, pmt_section] where
  fits := by decide +kernel
  new_pat := by
    have hversion : ∀ s ∈ [pat_section],
      ∀ t ∈ (collect no_text {} before).section_trackers.get s.key,
        t.version ≠ some s.header.version := by decide +kernel
    exact fun s hs t hat => hversion s hs t hat.1 hat.2
  unread := by decide +kernel
  network := by
    intro o n _ hknown
    have hkeys : ∀ key ∈ (collect no_text {} before).engine.services.keys, key.2.1 = 34 := by
      decide +kernel
    exact hkeys (17, o, n) (FinMap.mem_keys.mpr hknown)

theorem the_unread_pmt_is_read :
    ∃ service fresh,
      (collect no_text {} (before ++ (0x0000, pat_1) :: others)).engine.snapshot.Reports 17 34 1
        service ∧
      (collect no_text {} ((0x0000, pat_1) :: others)).engine.snapshot.Reports 17 34 1 fresh ∧
      service.pmt_parsed = true ∧ service.pmt = fresh.pmt := by
  have hset : ([pat_section] ++ [sdt_section, nit_section, pmt_section]).map (·.raw) =
      (0x0000, pat_1) :: others := rfl
  have hpat : announced [pat_section] 1 = some 0x0100 := by decide +kernel
  have hsdt : (17, 34, 1) ∈ sdt_services sdt_section.bytes := by decide +kernel
  rw [← hset]
  exact discovery_converges_on_unread_pmts no_text before full_set awaits_set hpat
    ⟨sdt_section, mem_cons_self, ⟨rfl, .inl rfl⟩, hsdt⟩

end OneService

end arib_si_engine_rs.service_discovery
