-- The collection of a sub-table of the event information: its instance is a
-- function of the set of sections that came, whatever their order and however often
-- they came, and it is complete when all of them have come.
import TvStack.EitInstances
import TvStack.SiSections

open Checked List Words

namespace arib_si_engine_rs.eit_instances

open arib_si_engine_rs.sections arib_si_engine_rs.eit EitInstances
open arib_si_engine_rs.arib_string (GraphicTables)

variable {inputs : List (List UInt8)}

/-- A number of a sub-table with this last section, whose segment `k` ends at `stops k`. The tables
before the schedules have no segments. -/
def IsNumber (table_id : UInt8) (last : Nat) (stops : Nat → Nat) (n : Nat) : Prop :=
  if table_id < 0x50 then n ≤ last else ∃ k, 8 * k ≤ last ∧ 8 * k ≤ n ∧ n ≤ stops k

/-- One version of a sub-table, with sections that agree with each other. -/
structure SubTable where
  key : TableKey
  version : UInt8
  last : UInt8
  stops : Nat → Nat
  sections : List EitSection
  sound : ∀ sec ∈ sections, section_of sec.bytes = some sec ∧ sec.key = key ∧
    sec.version = version ∧ sec.last = last
  unique : ∀ a ∈ sections, ∀ b ∈ sections, a.number = b.number → a = b
  numbers : ∀ n, (∃ sec ∈ sections, sec.number.toNat = n) ↔
    IsNumber key.table_id last.toNat stops n
  segments : 0x50 ≤ key.table_id →
    (∀ k, 8 * k ≤ last.toNat → 8 * k ≤ stops k ∧ stops k < 8 * k + 8) ∧
      stops (last.toNat / 8) = last.toNat ∧
      ∀ sec ∈ sections, sec.stop.toNat = stops (sec.number.toNat / 8)

theorem segment_start_eq (n : UInt8) : segment_start n = 8 * (n.toNat / 8) := by
  revert n
  exact every_byte (by decide +kernel)

namespace SubTable

variable {t : SubTable} {sec other : EitSection} {n k : Nat}

theorem isNumber (hsec : sec ∈ t.sections) :
    IsNumber t.key.table_id t.last.toNat t.stops sec.number.toNat :=
  (t.numbers _).mp ⟨sec, hsec, rfl⟩

/-- The segments do not overlap, and none goes past the last section. -/
theorem number_of_segment (htable : 0x50 ≤ t.key.table_id) (hk : 8 * k ≤ t.last.toNat)
    (hstart : 8 * k ≤ n) (hstop : n ≤ t.stops k) : n / 8 = k ∧ n ≤ t.last.toNat := by
  obtain ⟨hends, hlast, -⟩ := t.segments htable
  have hend := (hends k hk).2
  refine ⟨by omega, ?_⟩
  rcases Nat.lt_or_ge k (t.last.toNat / 8) with hlt | hge
  · omega
  · have hlast_segment : k = t.last.toNat / 8 := by omega
    rw [hlast_segment, hlast] at hstop
    exact hstop

theorem number_le_last (hsec : sec ∈ t.sections) : sec.number ≤ t.last := by
  have hnumber := t.isNumber hsec
  unfold IsNumber at hnumber
  split at hnumber
  · exact hnumber
  rename_i htable
  obtain ⟨k, hk, hstart, hstop⟩ := hnumber
  exact (number_of_segment (UInt8.not_lt.mp htable) hk hstart hstop).2

/-- The end that a schedule section tells is in its own segment, and not before it. -/
theorem stop_of_section (htable : 0x50 ≤ t.key.table_id) (hsec : sec ∈ t.sections) :
    sec.number ≤ sec.stop ∧ sec.stop ≤ t.last ∧
      segment_start sec.stop = segment_start sec.number := by
  obtain ⟨hends, -, hstops⟩ := t.segments htable
  have hnumber := t.isNumber hsec
  rw [IsNumber, if_neg (UInt8.not_lt.mpr htable)] at hnumber
  obtain ⟨k, hk, hstart, hstop⟩ := hnumber
  obtain ⟨hsegment, -⟩ := number_of_segment htable hk hstart hstop
  have hend := hstops sec hsec
  rw [hsegment] at hend
  obtain ⟨hstop_segment, hstop_last⟩ :=
    number_of_segment htable hk (n := sec.stop.toNat) (by omega) (by omega)
  refine ⟨?_, ?_, ?_⟩
  · rw [UInt8.le_iff_toNat_le]
    omega
  · exact hstop_last
  · rw [segment_start_eq, segment_start_eq, hstop_segment, hsegment]

theorem stop_agrees (htable : 0x50 ≤ t.key.table_id) (hsec : sec ∈ t.sections)
    (hother : other ∈ t.sections) (h : segment_start other.number = segment_start sec.number) :
    other.stop = sec.stop := by
  obtain ⟨-, -, hstops⟩ := t.segments htable
  rw [segment_start_eq, segment_start_eq] at h
  have hsegment : other.number.toNat / 8 = sec.number.toNat / 8 := by omega
  rw [← UInt8.toNat_inj, hstops other hother, hstops sec hsec, hsegment]

end SubTable

/-! ## What an instance has collected -/

variable (tables : GraphicTables) {t : SubTable} {seen seen' : List EitSection}
  {entry other : Instance} {sec : EitSection}

/-- A tracker that has seen these sections of the sub-table. -/
structure Tracked (t : SubTable) (seen : List EitSection) (tracker : SectionTracker) : Prop where
  version : tracker.version = if seen = [] then none else some t.version
  last : tracker.last_section_number = if seen = [] then none else some t.last
  consistent : tracker.inconsistent = false
  payloads : ∀ n bytes, tracker.payloads.get n = some bytes ↔
    ∃ sec ∈ seen, sec.number = n ∧ sec.bytes = bytes

/-- The mark of a section that is safe to use. -/
def safe_mark (sec : EitSection) : Option Unit :=
  if is_safe (facts_of tables sec.bytes) then some () else none

/-- The end that a section tells of its segment. -/
def segment_end (t : SubTable) (sec : EitSection) : Option UInt8 :=
  if 0x50 ≤ t.key.table_id then some sec.stop else none

/-- An instance that has these sections of the sub-table, and nothing else. -/
structure Instance.Collected (t : SubTable) (seen : List EitSection) (entry : Instance) : Prop where
  within : ∀ sec ∈ seen, sec ∈ t.sections
  tracked : Tracked t seen entry.tracker
  sections : entry.sections.Indexes (·.number.toNat)
    (fun sec => some (facts_of tables sec.bytes).events) seen
  safe : entry.safe.Indexes (·.number.toNat) (safe_mark tables) seen
  segment_ends : entry.segment_ends.Indexes (segment_start ·.number) (segment_end t) seen

theorem Tracked.congr {tracker : SectionTracker} (h : Tracked t seen tracker)
    (hsame : ∀ sec, sec ∈ seen ↔ sec ∈ seen') : Tracked t seen' tracker := by
  have hnil : seen = [] ↔ seen' = [] := by
    simp only [eq_nil_iff_forall_not_mem, hsame]
  refine ⟨?_, ?_, h.consistent, ?_⟩
  · simp only [h.version, hnil]
  · simp only [h.last, hnil]
  · simp only [h.payloads, hsame, implies_true]

/-- A section of the sub-table is always accepted, never contradicts what was seen, and is new when
it was not seen. -/
theorem Tracked.observe {tracker : SectionTracker} (h : Tracked t seen tracker)
    (hwithin : ∀ sec ∈ seen, sec ∈ t.sections) (hsec : sec ∈ t.sections) :
    tracker.accepts_version sec.version ∧
      Tracked t (sec :: seen) (tracker.observe sec.version sec.number sec.last sec.bytes).1 ∧
      ((tracker.observe sec.version sec.number sec.last sec.bytes).2 = true ↔ sec ∉ seen) := by
  obtain ⟨-, -, hversion, hlast⟩ := t.sound sec hsec
  have haccepts : tracker.accepts_version sec.version = true := by
    simp only [SectionTracker.accepts_version, h.version]
    split <;> simp_all
  have hkept (n : UInt8) (bytes : List UInt8) :
      (tracker.kept sec.version).get n = some bytes ↔
        ∃ s ∈ seen, s.number = n ∧ s.bytes = bytes := by
    rw [← h.payloads, SectionTracker.kept, h.version, hversion]
    by_cases hseen : seen = []
    · subst hseen
      have hnone := h.payloads n bytes
      simp [hnone]
    · simp [hseen]
  have hconsistent : tracker.Consistent sec.version sec.number sec.last sec.bytes := by
    refine ⟨hlast ▸ t.number_le_last hsec, fun _ => h.consistent, fun _ l hl => ?_, fun p hp => ?_⟩
    · rw [h.last] at hl
      split at hl
      · contradiction
      · rw [hlast]
        exact (Option.some.inj hl).symm
    · obtain ⟨s, hs, hnumber, rfl⟩ := (hkept _ _).mp hp
      rw [t.unique s (hwithin s hs) sec hsec hnumber]
  obtain ⟨hnow, hnow_last, hnow_consistent, hpayloads, hfresh⟩ :=
    SectionTracker.observe.spec haccepts hconsistent
  refine ⟨haccepts, ⟨?_, ?_, hnow_consistent, fun n bytes => ?_⟩, ?_⟩
  · rw [hnow, hversion, if_neg (cons_ne_nil _ _)]
  · rw [hnow_last, hlast, if_neg (cons_ne_nil _ _)]
  · rw [hpayloads]
    simp only [mem_cons, exists_eq_or_imp]
    by_cases hn : n = sec.number
    · subst hn
      simp only [if_true, Option.some.injEq, true_and]
      refine ⟨.inl, ?_⟩
      rintro (hbytes | ⟨s, hs, hnumber, hbytes⟩)
      · exact hbytes
      · rw [← hbytes, t.unique s (hwithin s hs) sec hsec hnumber]
    · rw [if_neg hn, hkept]
      simp [Ne.symm hn]
  · rw [hfresh, decide_eq_true_eq, Option.eq_none_iff_forall_ne_some]
    simp only [ne_eq, hkept]
    constructor
    · intro hnone hmem
      exact hnone sec.bytes ⟨sec, hmem, rfl, rfl⟩
    · rintro hnew bytes ⟨s, hs, hnumber, -⟩
      exact hnew (t.unique s (hwithin s hs) sec hsec hnumber ▸ hs)

theorem collected_nil (t : SubTable) : Instance.Collected tables t [] {} :=
  ⟨by nofun, ⟨rfl, rfl, rfl, by simp⟩, OrdMap.indexes_nil _ _,
    OrdMap.indexes_nil _ _, OrdMap.indexes_nil _ _⟩

variable {tables}

section

variable (h : entry.Collected tables t seen)
include h

/-- Only the set of the sections counts. -/
theorem Instance.Collected.congr (hsame : ∀ sec, sec ∈ seen ↔ sec ∈ seen') :
    entry.Collected tables t seen' :=
  ⟨fun sec hsec => h.within sec ((hsame sec).mpr hsec), h.tracked.congr hsame,
    h.sections.congr hsame, h.safe.congr hsame, h.segment_ends.congr hsame⟩

/-- Before its first section an instance has nothing to lose. -/
theorem Instance.Collected.keep (hsec : sec ∈ t.sections) :
    (if entry.tracker.version = some sec.version then entry else { tracker := entry.tracker }) =
      entry := by
  obtain ⟨-, -, hversion, -⟩ := t.sound sec hsec
  rw [h.tracked.version, hversion]
  by_cases hseen : seen = []
  · subst hseen
    obtain ⟨tracker, sections, safe, segment_ends⟩ := entry
    have hsections : {} = sections := (OrdMap.indexes_nil _ _).unique h.sections
    have hsafe : {} = safe := (OrdMap.indexes_nil _ _).unique h.safe
    have hends : {} = segment_ends := (OrdMap.indexes_nil _ _).unique h.segment_ends
    subst hsections hsafe hends
    rfl
  · rw [if_neg hseen, if_pos rfl]

theorem Instance.Collected.observe (hsec : sec ∈ t.sections) :
    entry.observe sec.version sec.number sec.last sec.bytes =
      ({ entry with
          tracker := (entry.tracker.observe sec.version sec.number sec.last sec.bytes).1 },
        (entry.tracker.observe sec.version sec.number sec.last sec.bytes).2) := by
  obtain ⟨haccepts, -, -⟩ := h.tracked.observe h.within hsec
  unfold Instance.observe
  simp only [haccepts, Bool.not_true, Bool.false_eq_true, if_false, h.keep hsec]

/-- The segment of a section never contradicts what is known of it. -/
theorem Instance.Collected.schedule (hsec : sec ∈ t.sections) (tracker : SectionTracker) :
    (Instance.schedule { entry with tracker } sec).tracker = tracker ∧
      (Instance.schedule { entry with tracker } sec).segment_ends.Indexes (segment_start ·.number)
        (segment_end t) (sec :: seen) ∧
      (Instance.schedule { entry with tracker } sec).sections = entry.sections ∧
      (Instance.schedule { entry with tracker } sec).safe = entry.safe := by
  obtain ⟨-, hkey, -, hlast⟩ := t.sound sec hsec
  unfold Instance.schedule
  rw [hkey]
  split_ifs with htable
  · obtain ⟨horder, hstop, hsegment⟩ := t.stop_of_section htable hsec
    have hend : segment_end t sec = some sec.stop := if_pos htable
    have hagree : ∀ s ∈ seen, segment_start s.number = segment_start sec.number →
        segment_end t s = segment_end t sec := by
      intro s hs hstart
      simp only [segment_end, t.stop_agrees htable hsec (h.within s hs) hstart]
    have hknown :
        (entry.segment_ends.get (segment_start sec.number)).any (· != sec.stop) = false := by
      cases hget : entry.segment_ends.get (segment_start sec.number) with
      | none => rfl
      | some stop =>
        obtain ⟨s, hs, hstart, hstop⟩ := (h.segment_ends _ _).mp hget
        rw [hagree s hs hstart, hend] at hstop
        cases hstop
        simp
    refine ⟨?_, h.segment_ends.insert hend hagree, rfl, rfl⟩
    have hbefore : ¬ sec.stop < sec.number := UInt8.not_lt.mpr horder
    have hpast : ¬ sec.last < sec.stop := UInt8.not_lt.mpr (hlast ▸ hstop)
    simp [Instance.mark_segment, hbefore, hpast, hsegment, hknown]
  · exact ⟨rfl, h.segment_ends.skip (if_neg htable), rfl, rfl⟩

/-- A section of the sub-table joins the collected ones. -/
theorem Instance.Collected.took (hsec : sec ∈ t.sections) :
    (entry.took tables sec).Collected tables t (sec :: seen) := by
  obtain ⟨-, htracked, hfresh⟩ := h.tracked.observe h.within hsec
  have hwithin : ∀ s ∈ sec :: seen, s ∈ t.sections := by
    rintro s (_ | ⟨_, hs⟩)
    · exact hsec
    · exact h.within s hs
  unfold Instance.took
  rw [h.observe hsec]
  cases hnew : (entry.tracker.observe sec.version sec.number sec.last sec.bytes).2 with
  | false =>
    have hseen : sec ∈ seen := by
      by_contra hmem
      rw [hfresh.mpr hmem] at hnew
      cases hnew
    have hsame : ∀ s, s ∈ seen ↔ s ∈ sec :: seen := fun s =>
      ⟨mem_cons_of_mem sec, fun hs => (mem_cons.mp hs).elim (fun heq => heq ▸ hseen) (·)⟩
    exact ⟨hwithin, htracked, h.sections.congr hsame, h.safe.congr hsame,
      h.segment_ends.congr hsame⟩
  | true =>
    obtain ⟨htracker, hends, hsections, hsafe⟩ := h.schedule hsec
      (entry.tracker.observe sec.version sec.number sec.last sec.bytes).1
    -- a section with this number is this section
    have hequal : ∀ s ∈ seen, s.number.toNat = sec.number.toNat → s = sec := fun s hs hnumber =>
      t.unique s (h.within s hs) sec hsec (UInt8.toNat_inj.mp hnumber)
    refine ⟨hwithin, ?_, ?_, ?_, hends⟩
    · simp only [Instance.take_facts, htracker]
      exact htracked
    · simp only [Instance.take_facts, hsections]
      exact h.sections.insert rfl fun s hs hnumber => by rw [hequal s hs hnumber]
    · have hagree : ∀ s ∈ seen, s.number.toNat = sec.number.toNat →
          safe_mark tables s = safe_mark tables sec := fun s hs hnumber => by
        rw [hequal s hs hnumber]
      simp only [Instance.take_facts, hsafe]
      split
      · rename_i hgood
        rw [OrdMap.insert_erase]
        exact h.safe.insert (if_pos hgood) hagree
      · rename_i hbad
        exact h.safe.erase (if_neg hbad) hagree

end

theorem Instance.Collected.run (secs : List EitSection) (h : entry.Collected tables t seen)
    (hsecs : ∀ sec ∈ secs, sec ∈ t.sections) :
    (secs.foldl (Instance.took tables) entry).Collected tables t (secs.reverse ++ seen) := by
  induction secs generalizing entry seen with
  | nil => exact h
  | cons sec secs ih =>
    rw [reverse_cons, append_assoc]
    exact ih (h.took (hsecs sec mem_cons_self)) fun s hs => hsecs s (mem_cons_of_mem _ hs)

/-! ## When a sub-table is complete -/

namespace Instance.Collected

variable (h : entry.Collected tables t seen)
include h

theorem received_iff {n : Nat} :
    (entry.sections.get n).isSome ↔ ∃ sec ∈ seen, sec.number.toNat = n := by
  simp [h.sections.get_isSome]

theorem last_eq (hseen : seen ≠ []) : entry.tracker.last_section_number.getD 0 = t.last := by
  rw [h.tracked.last, if_neg hseen]
  rfl

/-- The end of a segment is known when one of its sections was received, and it is the right one. -/
theorem end_known (htable : 0x50 ≤ t.key.table_id) (hsec : sec ∈ seen) {k : Nat}
    (hk : sec.number.toNat / 8 = k) :
    ((entry.segment_ends.get (8 * k)).map UInt8.toNat).getD (8 * k) = t.stops k := by
  obtain ⟨-, -, hstops⟩ := t.segments htable
  have hget : entry.segment_ends.get (8 * k) = some sec.stop :=
    (h.segment_ends _ _).mpr ⟨sec, hsec, hk ▸ segment_start_eq sec.number, if_pos htable⟩
  rw [hget, Option.map_some, Option.getD_some, hstops sec (h.within sec hsec), hk]

theorem end_known_or_start (htable : 0x50 ≤ t.key.table_id) (k : Nat) :
    ((entry.segment_ends.get (8 * k)).map UInt8.toNat).getD (8 * k) = t.stops k ∨
      ((entry.segment_ends.get (8 * k)).map UInt8.toNat).getD (8 * k) = 8 * k := by
  cases hget : entry.segment_ends.get (8 * k) with
  | none => exact .inr rfl
  | some stop =>
    obtain ⟨sec, hsec, hstart, -⟩ := (h.segment_ends _ _).mp hget
    have hsegment : 8 * (sec.number.toNat / 8) = 8 * k :=
      (segment_start_eq sec.number).symm.trans hstart
    have hknown := h.end_known htable hsec (k := k) (by omega)
    rw [hget] at hknown
    exact .inl hknown

theorem required_iff (hseen : seen ≠ []) (n : Nat) :
    required t.key entry n = true ↔
      if t.key.table_id < 0x50 then n ≤ t.last.toNat
      else ∃ k, 8 * k ≤ t.last.toNat ∧ 8 * k ≤ n ∧
        n ≤ ((entry.segment_ends.get (8 * k)).map UInt8.toNat).getD (8 * k) := by
  unfold required
  rw [h.last_eq hseen]
  split
  · rw [decide_eq_true_eq]
  · have hk (k : Nat) : k < t.last.toNat / 8 + 1 ↔ 8 * k ≤ t.last.toNat := by omega
    simp [hk]

/-- A section is never required that the sub-table does not have. -/
theorem required_isNumber (hseen : seen ≠ []) {n : Nat}
    (hrequired : required t.key entry n = true) :
    IsNumber t.key.table_id t.last.toNat t.stops n := by
  rw [h.required_iff hseen] at hrequired
  unfold IsNumber
  split_ifs at hrequired with htable
  · rwa [if_pos htable]
  rw [if_neg htable]
  have hschedule := UInt8.not_lt.mp htable
  obtain ⟨k, hk, hstart, hstop⟩ := hrequired
  obtain ⟨hfirst, -⟩ := (t.segments hschedule).1 k hk
  refine ⟨k, hk, hstart, ?_⟩
  rcases h.end_known_or_start hschedule k with hend | hend
  · rwa [hend] at hstop
  · omega

/-- The first number of a segment is required from the start, so a segment whose end is not known
keeps the sub-table from being complete. -/
theorem isNumber_received (hseen : seen ≠ [])
    (hall : ∀ n, required t.key entry n = true → (entry.sections.get n).isSome) {n : Nat}
    (hnumber : IsNumber t.key.table_id t.last.toNat t.stops n) : (entry.sections.get n).isSome := by
  apply hall
  unfold IsNumber at hnumber
  rw [h.required_iff hseen]
  split_ifs at hnumber with htable
  · rwa [if_pos htable]
  rw [if_neg htable]
  have hschedule := UInt8.not_lt.mp htable
  obtain ⟨k, hk, hstart, hstop⟩ := hnumber
  have hrequired : required t.key entry (8 * k) = true := by
    rw [h.required_iff hseen, if_neg htable]
    refine ⟨k, hk, le_rfl, ?_⟩
    rcases h.end_known_or_start hschedule k with hend | hend <;> omega
  obtain ⟨sec, hsec, hsec_number⟩ := h.received_iff.mp (hall _ hrequired)
  have hend := h.end_known hschedule hsec (k := k) (by omega)
  exact ⟨k, hk, hstart, hend ▸ hstop⟩

theorem missing_nil_iff (hseen : seen ≠ []) :
    missing t.key entry = [] ↔ ∀ sec ∈ t.sections, sec ∈ seen := by
  have hmissing : missing t.key entry = [] ↔
      ∀ n < 256, required t.key entry n = true → (entry.sections.get n).isSome := by
    simp [missing, Option.isSome_iff_ne_none]
  rw [hmissing]
  constructor
  · intro hall sec hsec
    have hbounded : ∀ n, required t.key entry n = true →
        (entry.sections.get n).isSome := by
      intro n hrequired
      obtain ⟨s, -, rfl⟩ := (t.numbers n).mpr (h.required_isNumber hseen hrequired)
      exact hall _ s.number.toNat_lt hrequired
    obtain ⟨s, hs, hnumber⟩ :=
      h.received_iff.mp (h.isNumber_received hseen hbounded (t.isNumber hsec))
    exact t.unique s (h.within s hs) sec hsec (UInt8.toNat_inj.mp hnumber) ▸ hs
  · intro hall n _ hrequired
    obtain ⟨s, hs, hnumber⟩ := (t.numbers n).mpr (h.required_isNumber hseen hrequired)
    exact h.received_iff.mpr ⟨s, hall s hs, hnumber⟩

theorem complete_iff (hseen : seen ≠ []) :
    (EitInstances.state t.key entry).complete = true ↔ ∀ sec ∈ t.sections, sec ∈ seen := by
  simp only [EitInstances.state, h.tracked.consistent, Bool.not_false, Bool.true_and,
    List.isEmpty_iff, h.missing_nil_iff hseen]

end Instance.Collected

/-- Instances that have the same sections look the same. -/
theorem Instance.Collected.same (h : entry.Collected tables t seen)
    (hother : other.Collected tables t seen) :
    EitInstances.state t.key entry = EitInstances.state t.key other ∧
      entry.sections = other.sections := by
  have hversion : entry.tracker.version = other.tracker.version :=
    h.tracked.version.trans hother.tracked.version.symm
  have hlast : entry.tracker.last_section_number = other.tracker.last_section_number :=
    h.tracked.last.trans hother.tracked.last.symm
  have hconsistent : entry.tracker.inconsistent = other.tracker.inconsistent :=
    h.tracked.consistent.trans hother.tracked.consistent.symm
  have hsections := h.sections.unique hother.sections
  have hmissing : missing t.key entry = missing t.key other := by
    simp only [missing, required, hlast, hsections, h.segment_ends.unique hother.segment_ends]
  refine ⟨?_, hsections⟩
  simp only [EitInstances.state, hversion, hlast, hconsistent, hsections, hmissing,
    h.safe.unique hother.safe]

/-! ## The store -/

/-- The sub-table that a state is about. -/
def EitInstanceState.key (state : EitInstanceState) : TableKey :=
  { table_id := state.table_id
    original_network_id := state.original_network_id
    transport_stream_id := state.transport_stream_id
    service_id := state.service_id
    current := state.current_next_indicator }

namespace EitInstances

variable {store : EitInstances}

/-- Sections of one sub-table change its instance only. -/
theorem puts_one_key (sec : EitSection) (secs : List EitSection) {key : TableKey}
    (hkeys : ∀ s ∈ sec :: secs, s.key = key) :
    (sec :: secs).foldl (put tables) store =
      { instances := store.instances.insert key
          ((sec :: secs).foldl (Instance.took tables) (store.entry_of key)) } := by
  induction secs generalizing sec store with
  | nil =>
    obtain rfl := hkeys sec mem_cons_self
    rfl
  | cons next secs ih =>
    have hsec := hkeys sec mem_cons_self
    rw [foldl_cons, ih next fun s hs => hkeys s (mem_cons_of_mem _ hs)]
    simp only [put, entry_of, hsec, OrdMap.insert_insert,
      OrdMap.get_insert, if_true, Option.getD_some, foldl_cons]

theorem insert_same {m : OrdMap TableKey Instance} {key : TableKey}
    (hstate : state key entry = state key other) (hsections : entry.sections = other.sections) :
    states { instances := m.insert key entry } =
        states { instances := m.insert key other } ∧
      events { instances := m.insert key entry } =
        events { instances := m.insert key other } := by
  refine ⟨?_, ?_⟩
  · simp only [states, OrdMap.insert, map_append, map_cons, hstate]
  · simp only [events, OrdMap.insert, filter_append, filter_cons, flatMap_append]
    split
    · simp only [flatMap_cons, hsections]
    · rfl

theorem mem_states_key {state : EitInstanceState} (hstate : state ∈ store.states) :
    ∃ entry, store.instances.get state.key = some entry ∧
      state = EitInstances.state state.key entry := by
  obtain ⟨⟨key, entry⟩, hitem, rfl⟩ := mem_map.mp hstate
  exact ⟨entry, (OrdMap.get_eq_some _).mpr hitem, rfl⟩

end EitInstances

/-- The sections in inputs that are sections of the sub-table. -/
theorem SubTable.mem_inputs (hinputs : ∀ bytes ∈ inputs, ∃ sec ∈ t.sections, sec.bytes = bytes) :
    sec ∈ inputs.filterMap section_of ↔ sec ∈ t.sections ∧ sec.bytes ∈ inputs := by
  rw [mem_filterMap]
  constructor
  · rintro ⟨bytes, hbytes, hsection⟩
    obtain ⟨s, hs, rfl⟩ := hinputs bytes hbytes
    obtain ⟨hsound, -⟩ := t.sound s hs
    obtain rfl := Option.some.inj (hsound.symm.trans hsection)
    exact ⟨hs, hbytes⟩
  · rintro ⟨hsec, hbytes⟩
    exact ⟨sec.bytes, hbytes, (t.sound sec hsec).1⟩

theorem SubTable.inputs_ne_nil (hinputs : ∀ bytes ∈ inputs, ∃ sec ∈ t.sections, sec.bytes = bytes)
    (hsome : inputs ≠ []) : inputs.filterMap section_of ≠ [] := by
  obtain ⟨bytes, hbytes⟩ := exists_mem_of_ne_nil inputs hsome
  obtain ⟨sec, hsec, rfl⟩ := hinputs bytes hbytes
  exact ne_nil_of_mem ((SubTable.mem_inputs hinputs).mpr ⟨hsec, hbytes⟩)

theorem SubTable.has_section (t : SubTable) : ∃ sec, sec ∈ t.sections := by
  have hzero : IsNumber t.key.table_id t.last.toNat t.stops 0 := by
    unfold IsNumber
    split
    · exact Nat.zero_le _
    · exact ⟨0, Nat.zero_le _, Nat.zero_le _, Nat.zero_le _⟩
  obtain ⟨sec, hsec, -⟩ := (t.numbers 0).mpr hzero
  exact ⟨sec, hsec⟩

variable (tables) in
/-- Inputs of the sub-table make its instance and touch no other. -/
theorem EitInstances.collect_collected {store : EitInstances}
    (hnew : store.instances.get t.key = none) (hsome : inputs ≠ [])
    (hinputs : ∀ bytes ∈ inputs, ∃ sec ∈ t.sections, sec.bytes = bytes) :
    ∃ entry, store.collect tables inputs = { instances := store.instances.insert t.key entry } ∧
      entry.Collected tables t (inputs.filterMap section_of) := by
  have hsections : ∀ s ∈ inputs.filterMap section_of, s ∈ t.sections := fun s hs =>
    ((SubTable.mem_inputs hinputs).mp hs).1
  have hempty : store.entry_of t.key = {} := by
    rw [entry_of, hnew, Option.getD_none]
  cases hsecs : inputs.filterMap section_of with
  | nil => exact absurd hsecs (SubTable.inputs_ne_nil hinputs hsome)
  | cons sec secs =>
    rw [hsecs] at hsections
    refine ⟨(sec :: secs).foldl (Instance.took tables) {}, ?_, ?_⟩
    · unfold collect
      rw [hsecs, puts_one_key sec secs fun s hs => (t.sound s (hsections s hs)).2.1,
        hempty]
    · exact ((collected_nil tables t).run _ hsections).congr fun s => by
        rw [append_nil, mem_reverse]

/-- Sections of one sub-table leave the same store in whatever order and however often they come.
Its instance is never inconsistent, and it is complete exactly when all sections have come. -/
theorem eit_collection_is_independent_of_order (tables : GraphicTables) (t : SubTable)
    (store : EitInstances) (hnew : store.instances.get t.key = none) (xs ys : List (List UInt8))
    (hxs : ∀ bytes ∈ xs, ∃ sec ∈ t.sections, sec.bytes = bytes)
    (hsame : ∀ bytes, bytes ∈ xs ↔ bytes ∈ ys) :
    ∃ sx sy, store.ingest_all tables xs = .ok sx ∧ store.ingest_all tables ys = .ok sy ∧
      sx.states = sy.states ∧ sx.events = sy.events ∧
      (∀ state ∈ sx.states, state.key = t.key → state.inconsistent = false) ∧
      ((∃ state ∈ sx.states, state.key = t.key ∧ state.complete = true) ↔
        ∀ sec ∈ t.sections, sec.bytes ∈ xs) := by
  refine ⟨_, _, ingest_all.spec tables store xs,
    ingest_all.spec tables store ys, ?_⟩
  have hys : ∀ bytes ∈ ys, ∃ sec ∈ t.sections, sec.bytes = bytes := fun bytes hbytes =>
    hxs bytes ((hsame bytes).mpr hbytes)
  by_cases hnone : xs = []
  · -- nothing came: there is no instance, and some section is missing
    have hnone' : ys = [] := by
      rw [eq_nil_iff_forall_not_mem] at hnone ⊢
      exact fun bytes hbytes => hnone bytes ((hsame bytes).mpr hbytes)
    subst hnone hnone'
    have habsent : ∀ state ∈ store.states, state.key ≠ t.key := by
      intro state hstate hkey
      obtain ⟨entry, hget, -⟩ := mem_states_key hstate
      rw [hkey, hnew] at hget
      cases hget
    refine ⟨rfl, rfl, fun state hstate hkey => absurd hkey (habsent state hstate), ?_⟩
    constructor
    · rintro ⟨state, hstate, hkey, -⟩
      exact absurd hkey (habsent state hstate)
    · intro hall
      obtain ⟨sec, hsec⟩ := t.has_section
      exact absurd (hall sec hsec) not_mem_nil
  · have hnone' : ys ≠ [] := by
      rintro rfl
      exact hnone (eq_nil_iff_forall_not_mem.mpr fun bytes hbytes =>
        absurd ((hsame bytes).mp hbytes) not_mem_nil)
    obtain ⟨entry, hx, hcollected⟩ := collect_collected tables hnew hnone hxs
    obtain ⟨other, hy, hcollected'⟩ := collect_collected tables hnew hnone' hys
    obtain ⟨hstate, hsections⟩ := hcollected.same (hcollected'.congr fun sec => by
      rw [SubTable.mem_inputs hys, SubTable.mem_inputs hxs, hsame])
    obtain ⟨hstates, hevents⟩ := insert_same hstate hsections
    rw [hx, hy]
    have hget : (store.instances.insert t.key entry).get t.key = some entry := by
      rw [OrdMap.get_insert, if_pos rfl]
    have honly : ∀ state ∈ states { instances := store.instances.insert t.key entry },
        state.key = t.key → state = EitInstances.state t.key entry := by
      intro state hmem hkey
      obtain ⟨found, hfound, heq⟩ := mem_states_key hmem
      rw [hkey] at hfound heq
      rwa [Option.some.inj (hfound.symm.trans hget)] at heq
    have hcomplete : (EitInstances.state t.key entry).complete = true ↔
        ∀ sec ∈ t.sections, sec.bytes ∈ xs := by
      rw [hcollected.complete_iff (SubTable.inputs_ne_nil hxs hnone)]
      exact forall₂_congr fun sec hsec => by rw [SubTable.mem_inputs hxs, and_iff_right hsec]
    refine ⟨hstates, hevents, fun state hmem hkey => ?_, ?_⟩
    · rw [honly state hmem hkey]
      exact hcollected.tracked.consistent
    · rw [← hcomplete]
      constructor
      · rintro ⟨state, hmem, hkey, hdone⟩
        rwa [honly state hmem hkey] at hdone
      · intro hdone
        exact ⟨_, mem_map.mpr ⟨_, (OrdMap.get_eq_some _).mp hget, rfl⟩, rfl, hdone⟩

namespace TwoSegments

/-! A schedule of two segments: the first one ends at section 1, the second one is section 8. -/

def key : TableKey := ⟨0x50, 4, 17, 34, true⟩

def first : EitSection := ⟨key, 0, 0, 8, 1,
  [0x50, 0xf0, 15, 0, 34, 0xc1, 0, 8, 0, 17, 0, 4, 1, 0x50, 95, 53, 42, 74]⟩

def second : EitSection := ⟨key, 0, 1, 8, 1,
  [0x50, 0xf0, 15, 0, 34, 0xc1, 1, 8, 0, 17, 0, 4, 1, 0x50, 4, 148, 246, 128]⟩

def eighth : EitSection := ⟨key, 0, 8, 8, 8,
  [0x50, 0xf0, 15, 0, 34, 0xc1, 8, 8, 0, 17, 0, 4, 8, 0x50, 211, 232, 117, 250]⟩

def schedule : SubTable where
  key := key
  version := 0
  last := 8
  stops k := if k = 0 then 1 else 8
  sections := [first, second, eighth]
  sound := by decide +kernel
  unique := by decide +kernel
  numbers n := by
    simp only [mem_cons, not_mem_nil, or_false, exists_eq_or_imp, exists_eq_left]
    have hfirst : first.number.toNat = 0 := rfl
    have hsecond : second.number.toNat = 1 := rfl
    have heighth : eighth.number.toNat = 8 := rfl
    have hlast : (8 : UInt8).toNat = 8 := rfl
    rw [IsNumber, if_neg (by decide), hfirst, hsecond, heighth, hlast]
    constructor
    · rintro (rfl | rfl | rfl)
      · exact ⟨0, by simp⟩
      · exact ⟨0, by simp⟩
      · exact ⟨1, by simp⟩
    · rintro ⟨k, hk, hstart, hstop⟩
      split at hstop <;> omega
  segments _ := by
    refine ⟨fun k hk => ?_, rfl, by decide +kernel⟩
    have hlast : (8 : UInt8).toNat = 8 := rfl
    rw [hlast] at hk
    split <;> omega

def no_graphics : GraphicTables := ⟨fun _ _ => "", fun _ _ => ""⟩

/-- The schedule from its end, with a repetition, is complete as it is in order. -/
theorem collected_from_the_end :
    ∃ sx sy,
      ingest_all no_graphics {} [first.bytes, second.bytes, eighth.bytes] = .ok sx ∧
      ingest_all no_graphics {}
        [eighth.bytes, second.bytes, eighth.bytes, first.bytes] = .ok sy ∧
      sx.states = sy.states ∧ sx.events = sy.events ∧
      ∃ state ∈ sx.states, state.key = key ∧ state.complete = true := by
  obtain ⟨sx, sy, hx, hy, hstates, hevents, -, hcomplete⟩ :=
    eit_collection_is_independent_of_order no_graphics schedule {} rfl
      [first.bytes, second.bytes, eighth.bytes]
      [eighth.bytes, second.bytes, eighth.bytes, first.bytes] (by decide +kernel)
      (by simp only [mem_cons, not_mem_nil, or_false]; tauto)
  exact ⟨sx, sy, hx, hy, hstates, hevents, hcomplete.mpr (by decide +kernel)⟩

end TwoSegments

end arib_si_engine_rs.eit_instances
