-- The versions of the event information tables: what an instance holds comes from
-- sections of its own sub-table and of the version that its tracker is at, and the
-- current and the next table do not touch each other.
import TvStack.EitInstances
import TvStack.SiSections

open Checked Words List

namespace arib_si_engine_rs.eit_instances

open arib_si_engine_rs.sections arib_si_engine_rs.eit EitInstances
open arib_si_engine_rs.arib_string (GraphicTables)

variable (tables : GraphicTables) {seen : List EitSection} {key : TableKey} {entry : Instance}
  {sec : EitSection}

/-- One of the sections of this sub-table in this version. -/
def OfVersion (seen : List EitSection) (key : TableKey) (version : Option UInt8)
    (sec : EitSection) : Prop :=
  sec ∈ seen ∧ sec.key = key ∧ version = some sec.version

/-- All that an instance holds is of its own sub-table, and of the version of its tracker. -/
structure Instance.From (seen : List EitSection) (key : TableKey) (entry : Instance) : Prop where
  events : ∀ n events, entry.sections.get n = some events →
    ∃ sec, OfVersion seen key entry.tracker.version sec ∧ sec.number.toNat = n ∧
      events = (facts_of tables sec.bytes).events
  safe : ∀ n, entry.safe.get n = some () →
    ∃ sec, OfVersion seen key entry.tracker.version sec ∧ sec.number.toNat = n ∧
      is_safe (facts_of tables sec.bytes) = true
  segments : ∀ start stop, entry.segment_ends.get start = some stop →
    ∃ sec, OfVersion seen key entry.tracker.version sec ∧ segment_start sec.number = start ∧
      stop = sec.stop
  received : ∀ n, entry.safe.get n = some () → (entry.sections.get n).isSome

theorem from_tracker (seen : List EitSection) (key : TableKey) (tracker : SectionTracker) :
    Instance.From tables seen key { tracker } :=
  ⟨by nofun, by nofun, by nofun, by nofun⟩

variable {tables}

theorem Instance.From.mono {more : List EitSection} (h : entry.From tables seen key) :
    entry.From tables (seen ++ more) key := by
  have hmore (sec : EitSection) (hsec : OfVersion seen key entry.tracker.version sec) :
      OfVersion (seen ++ more) key entry.tracker.version sec :=
    ⟨mem_append_left _ hsec.1, hsec.2⟩
  refine ⟨?_, ?_, ?_, h.received⟩
  · intro n events hget
    obtain ⟨sec, hsec, hrest⟩ := h.events n events hget
    exact ⟨sec, hmore sec hsec, hrest⟩
  · intro n hget
    obtain ⟨sec, hsec, hrest⟩ := h.safe n hget
    exact ⟨sec, hmore sec hsec, hrest⟩
  · intro start stop hget
    obtain ⟨sec, hsec, hrest⟩ := h.segments start stop hget
    exact ⟨sec, hmore sec hsec, hrest⟩

/-- Another tracker at the same version. -/
theorem Instance.From.track (h : entry.From tables seen key) {tracker : SectionTracker}
    (hversion : tracker.version = entry.tracker.version) :
    Instance.From tables seen key { entry with tracker } := by
  refine ⟨?_, ?_, ?_, h.received⟩
  · rw [hversion]
    exact h.events
  · rw [hversion]
    exact h.safe
  · rw [hversion]
    exact h.segments

theorem Instance.From.observe (h : entry.From tables seen key) (version number last : UInt8)
    (bytes : List UInt8) : (entry.observe version number last bytes).1.From tables seen key := by
  unfold Instance.observe
  by_cases haccepts : entry.tracker.accepts_version version = true
  · simp only [haccepts]
    by_cases hversion : entry.tracker.version = some version
    · simp only [if_pos hversion]
      exact h.track ((SectionTracker.observe_kept _ haccepts).1.trans hversion.symm)
    -- the version changes: all of the old one is gone
    simp only [if_neg hversion]
    exact from_tracker tables seen key _
  · simp only [haccepts]
    exact h

theorem observe_fresh_version {version number last : UInt8} {bytes : List UInt8} {next : Instance}
    (h : entry.observe version number last bytes = (next, true)) :
    next.tracker.version = some version := by
  unfold Instance.observe at h
  by_cases haccepts : entry.tracker.accepts_version version = true
  · simp only [haccepts, Bool.not_true, Bool.false_eq_true, if_false, Prod.mk.injEq] at h
    rw [← h.1]
    split <;> exact (SectionTracker.observe_kept _ haccepts).1
  · simp [haccepts] at h

theorem Instance.From.schedule (h : entry.From tables seen key)
    (hsec : OfVersion seen key entry.tracker.version sec) :
    (entry.schedule sec).From tables seen key ∧
      (entry.schedule sec).tracker.version = entry.tracker.version := by
  unfold Instance.schedule
  split
  · have hversion : (entry.mark_segment sec.number sec.last sec.stop).tracker.version =
        entry.tracker.version := by
      unfold Instance.mark_segment
      dsimp only
      split <;> rfl
    have htracked := h.track hversion
    refine ⟨⟨htracked.events, htracked.safe, ?_, h.received⟩, hversion⟩
    intro start stop hget
    rcases OrdMap.get_of_insert hget with ⟨rfl, rfl⟩ | hget
    · exact ⟨sec, by rw [hversion]; exact hsec, rfl, rfl⟩
    · exact htracked.segments start stop hget
  · exact ⟨h, rfl⟩

theorem Instance.From.take_facts (h : entry.From tables seen key)
    (hsec : OfVersion seen key entry.tracker.version sec) :
    (entry.take_facts sec.number (facts_of tables sec.bytes)).From tables seen key := by
  have hsafe (n : Nat)
      (hget : (entry.take_facts sec.number (facts_of tables sec.bytes)).safe.get n = some ()) :
      (n = sec.number.toNat ∧ is_safe (facts_of tables sec.bytes) = true) ∨
        (n ≠ sec.number.toNat ∧ entry.safe.get n = some ()) := by
    simp only [Instance.take_facts] at hget
    split at hget
    · rename_i hgood
      rw [OrdMap.get_insert, OrdMap.get_erase] at hget
      split_ifs at hget with hn
      · exact .inl ⟨hn, hgood⟩
      · exact .inr ⟨hn, hget⟩
    · exact .inr (OrdMap.get_of_erase hget)
  refine ⟨?_, ?_, h.segments, ?_⟩
  · intro n events hget
    rcases OrdMap.get_of_insert hget with ⟨rfl, rfl⟩ | hget
    · exact ⟨sec, hsec, rfl, rfl⟩
    · exact h.events n events hget
  · intro n hget
    rcases hsafe n hget with ⟨hn, hgood⟩ | ⟨-, hold⟩
    · exact ⟨sec, hsec, hn.symm, hgood⟩
    · exact h.safe n hold
  · intro n hget
    simp only [Instance.take_facts, OrdMap.get_insert]
    rcases hsafe n hget with ⟨hn, -⟩ | ⟨hn, hold⟩
    · rw [if_pos hn]
      rfl
    · rw [if_neg hn]
      exact h.received n hold

/-- On each of its exits, a section leaves an instance with what comes from its own version. -/
theorem Instance.From.took (h : entry.From tables seen key) (hmem : sec ∈ seen)
    (hkey : sec.key = key) : (entry.took tables sec).From tables seen key := by
  have hobserved := h.observe sec.version sec.number sec.last sec.bytes
  unfold Instance.took
  cases hobserve : entry.observe sec.version sec.number sec.last sec.bytes with
  | mk next fresh =>
    rw [hobserve] at hobserved
    cases fresh with
    | false => exact hobserved
    | true =>
      have hsec : OfVersion seen key next.tracker.version sec :=
        ⟨hmem, hkey, observe_fresh_version hobserve⟩
      obtain ⟨hscheduled, hversion⟩ := hobserved.schedule hsec
      exact hscheduled.take_facts (hversion ▸ hsec)

/-! ## The store -/

namespace EitInstances

variable (tables) in
/-- Every instance of the store comes from these sections. -/
def Fits (seen : List EitSection) (store : EitInstances) : Prop :=
  ∀ key entry, store.instances.get key = some entry → entry.From tables seen key

variable {store : EitInstances}

theorem Fits.entry_of (h : store.Fits tables seen) (key : TableKey) :
    (store.entry_of key).From tables seen key := by
  unfold EitInstances.entry_of
  cases hget : store.instances.get key with
  | none => exact from_tracker tables seen key {}
  | some entry => exact h key entry hget

theorem Fits.put (h : store.Fits tables seen) (sec : EitSection) :
    (store.put tables sec).Fits tables (seen ++ [sec]) := by
  intro key entry hget
  rcases OrdMap.get_of_insert hget with ⟨rfl, rfl⟩ | hget
  · exact (h.entry_of sec.key).mono.took
      (mem_append_right _ (mem_singleton_self sec)) rfl
  · exact (h key entry hget).mono

theorem Fits.puts (secs : List EitSection) (h : store.Fits tables seen) :
    (secs.foldl (EitInstances.put tables) store).Fits tables (seen ++ secs) := by
  induction secs generalizing seen store with
  | nil =>
    rw [append_nil]
    exact h
  | cons sec secs ih =>
    have hall := ih (h.put sec)
    rwa [append_assoc] at hall

/-- A section whose version is behind, or half of the circle away, changes nothing. -/
theorem put_stale {entry : Instance} {old : UInt8} (hget : store.instances.get sec.key = some entry)
    (hold : entry.tracker.version = some old)
    (hstale : 16 ≤ (sec.version.toNat + 32 - old.toNat) % 32) : store.put tables sec = store := by
  have haccepts : entry.tracker.accepts_version sec.version = false := by
    simp only [SectionTracker.accepts_version, hold, decide_eq_false_iff_not]
    exact Nat.not_lt_of_le hstale
  have htook : (store.entry_of sec.key).took tables sec = entry := by
    simp [EitInstances.entry_of, hget, Instance.took, Instance.observe, haccepts]
  unfold EitInstances.put
  rw [htook, OrdMap.insert_self hget]

theorem put_other {other : TableKey} (h : other ≠ sec.key) :
    (store.put tables sec).instances.get other = store.instances.get other := by
  simp only [EitInstances.put, OrdMap.get_insert, if_neg h]

theorem put_next_events (h : sec.key.current = false) :
    (store.put tables sec).events = store.events := by
  have hrestrict := store.instances.restrict_insert
    ((store.entry_of sec.key).took tables sec) h
  exact congrArg (fun m : OrdMap TableKey Instance =>
    m.items.flatMap fun x => x.2.sections.values.flatten) hrestrict

end EitInstances

theorem section_of_current {bytes : List UInt8} {header : SectionHeader} {current : Bool}
    (hheader : parse_section_header bytes = some header)
    (hcurrent : header.current_next_indicator = some current) (h : section_of bytes = some sec) :
    sec.key.current = current := by
  unfold section_of at h
  simp only [hheader] at h
  split at h
  · contradiction
  split at h
  · rename_i hc
    cases h
    rw [hcurrent] at hc
    exact (Option.some.inj hc).symm
  · contradiction

/-- After any inputs, what an instance holds comes from inputs of its own sub-table and of the
version of its tracker, and its safe sections were received. A further input of an old version
changes nothing, and one of the next table does not touch the current one, nor the other way
round. -/
theorem eit_versions_never_mix (tables : GraphicTables) (inputs : List (List UInt8))
    (bytes : List UInt8) :
    ∃ store next, ingest_all tables {} inputs = .ok store ∧
      store.ingest tables bytes = .ok next ∧
      (∀ key entry, store.instances.get key = some entry →
        entry.From tables (inputs.filterMap section_of) key) ∧
      (∀ state ∈ store.states, ∀ n ∈ state.safe_sections, n ∈ state.received_sections) ∧
      (∀ sec entry old, section_of bytes = some sec → store.instances.get sec.key = some entry →
        entry.tracker.version = some old → 16 ≤ (sec.version.toNat + 32 - old.toNat) % 32 →
        next = store) ∧
      (∀ header, parse_section_header bytes = some header →
        (header.current_next_indicator = some false →
          next.events = store.events ∧
          ∀ key, key.current = true → next.instances.get key = store.instances.get key) ∧
        (header.current_next_indicator = some true →
          ∀ key, key.current = false → next.instances.get key = store.instances.get key)) := by
  have hempty : EitInstances.Fits tables [] {} := by nofun
  have hfits : (collect tables {} inputs).Fits tables (inputs.filterMap section_of) :=
    hempty.puts _
  refine ⟨_, _, ingest_all.spec tables {} inputs, ingest.spec tables _ bytes,
    hfits, ?_, ?_, ?_⟩
  · intro state hstate n hn
    obtain ⟨⟨key, entry⟩, hitem, rfl⟩ := mem_map.mp hstate
    obtain ⟨⟨n, ⟨⟩⟩, hsafe, rfl⟩ := mem_map.mp hn
    have hfrom := hfits key entry (OrdMap.get_eq_some _ |>.mpr hitem)
    obtain ⟨events, hevents⟩ := Option.isSome_iff_exists.mp
      (hfrom.received n (OrdMap.get_eq_some _ |>.mpr hsafe))
    exact mem_map.mpr ⟨(n, events), (OrdMap.get_eq_some _).mp hevents, rfl⟩
  · intro sec entry old hsec hget hold hstale
    simp only [hsec]
    exact put_stale hget hold hstale
  · intro header hheader
    cases hsec : section_of bytes with
    | none => exact ⟨fun _ => ⟨rfl, fun _ _ => rfl⟩, fun _ _ _ => rfl⟩
    | some sec =>
      refine ⟨fun hnext => ?_, fun hcurrent => ?_⟩
      · have hsec_next := section_of_current hheader hnext hsec
        refine ⟨put_next_events hsec_next, fun key hkey => ?_⟩
        exact put_other fun h => by simp [h, hsec_next] at hkey
      · have hsec_current := section_of_current hheader hcurrent hsec
        intro key hkey
        exact put_other fun h => by simp [h, hsec_current] at hkey

end arib_si_engine_rs.eit_instances
